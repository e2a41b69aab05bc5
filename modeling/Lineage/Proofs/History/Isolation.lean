import Lineage.Proofs.History.Faults
import Lineage.Proofs.History.Seed

/-! # A parent version that is lost

When a branch has several parent versions, one of them may be lost: it cannot be parsed, or it
cannot be read (`Walker.Loses`).  Looking into it leaves a state that is like the one before
(`resolveVersion_lost`), so what is found in the other parent versions does not depend on it:
the branch goes on as if the lost version were not there, but for one end of its own, and but
for an introduction, which is only told where the element is absent from all parent versions
(`resolve_lost`).
-/
namespace Lineage
variable {σ α : Type}

/-- How a branch ends at a parent version that is lost. -/
inductive Walker.Loses (w : Walker σ α) (origin : Active) (v : ParentVersion) : Termination → Prop
  | unparseable (h : w.Builds v.commit.id v.path .unparseable) :
      w.Loses origin v ⟨origin.node, .unparseable, some v.commit.id, none⟩
  | unreadable {world : σ} {f : RepositoryFault}
      (h : (w.repository.readBlob v.commit.id v.path world).1 = .error (.fault f)) :
      w.Loses origin v ⟨origin.node, .repositoryError, some v.commit.id, some f.message⟩

/-- The branch ends where its element was introduced. -/
def Branch.introduces : Branch → Bool
  | terminated t => t.reason = .introduced
  | active _ | branching _ _ => false

/-- The branch ends because the version at a commit is lost. -/
def Branch.lostAt (id : String) : Branch → Bool
  | terminated t => t.reason.isFailure ∧ t.commitId = some id
  | active _ | branching _ _ => false

namespace Walk
variable {ι β : Type} {f : ι → Walk σ α β}

/-- Each outcome of a list of actions is one of an action of the list. -/
theorem yields_mapM {P : ι → β → Prop} (hf : ∀ i, Yields (f i) (P i)) (is : List ι) :
    Yields (is.mapM f) fun bs => ∀ b ∈ bs, ∃ i ∈ is, P i b := by
  induction is with
  | nil => exact yields_pure fun _ hb => nomatch hb
  | cons i is ih =>
    rw [List.mapM_cons]
    refine yields_bind (hf i) fun b hb => yields_bind ih fun bs hbs => yields_pure ?_
    rintro b' (_ | ⟨_, hb'⟩)
    · exact ⟨i, List.mem_cons_self, hb⟩
    · obtain ⟨i', hi', hP⟩ := hbs b' hb'
      exact ⟨i', List.mem_cons_of_mem _ hi', hP⟩

theorem mapM_append_apply {is is' : List ι} {s s₁ s₂ : WalkState σ α} {bs bs' : List β}
    (h : is.mapM f s = (.ok bs, s₁)) (h' : is'.mapM f s₁ = (.ok bs', s₂)) :
    (is ++ is').mapM f s = (.ok (bs ++ bs'), s₂) := by
  rw [List.mapM_append, bind_apply, h]
  dsimp only
  rw [bind_apply, h']
  rfl

end Walk

/-! ### What resolutions leave -/

/-- The branches that a resolution leaves for a parent version: versions to be expanded, ends at
extractions, and ends because the parent version is lost. -/
def Resolution.FromParent (origin : Active) (v : ParentVersion) (r : Resolution) : Prop :=
  ∀ b ∈ r.branches, (∃ a, b = .active a) ∨ (∃ t, b = .terminated t ∧ t.reason = .extracted) ∨
    ∃ t, b = .terminated t ∧ t.node = origin.node ∧ t.reason.isFailure = true ∧
      t.commitId = some v.commit.id

namespace Walker
open Walk
variable [Score α] {w : Walker σ α} {origin : Active} {v : ParentVersion} {t : Termination}
  {s : WalkState σ α} {rs rs' : List Resolution}

theorem yields_resolveVersion (w : Walker σ α) (origin : Active) (v : ParentVersion) :
    Yields (w.resolveVersion origin v) (Resolution.FromParent origin v) := by
  have hexamine : Yields (w.examine origin v) fun x => ∀ t, x = .failed t →
      t.node = origin.node ∧ t.reason.isFailure = true ∧ t.commitId = some v.commit.id := by
    refine yields_after fun answer => ?_
    rcases answer with f | m | _ | _
    · refine yields_after fun _ => yields_pure ?_
      rintro t ⟨⟩
      exact ⟨rfl, rfl, rfl⟩
    · exact yields_pure fun _ h => nomatch h
    · refine yields_after fun moved => yields_pure fun t ht => ?_
      cases moved <;> cases ht
    · refine yields_pure ?_
      rintro t ⟨⟩
      exact ⟨rfl, rfl, rfl⟩
  rw [w.resolveVersion_eq]
  refine yields_bind hexamine fun x hx => ?_
  intro s r s' hr
  obtain ⟨_, hrecord, -⟩ := w.record_apply origin x s
  rw [hrecord] at hr
  cases hr
  intro b hb
  cases x with
  | failed t =>
    obtain rfl := List.mem_singleton.mp hb
    exact .inr (.inr ⟨t, rfl, hx t rfl⟩)
  | absent => cases hb
  | found m =>
    change b ∈ s.run.opened m at hb
    unfold Run.opened at hb
    split at hb
    · cases hb
    · split at hb
      · exact .inr (.inl ⟨_, List.mem_singleton.mp hb, rfl⟩)
      · exact .inl ⟨_, List.mem_singleton.mp hb⟩

omit [Score α] in
/-- What is left for parent versions introduces nothing. -/
theorem introduces_eq_false (h : ∀ r ∈ rs, ∃ v, r.FromParent origin v) {b : Branch}
    (hb : b ∈ rs.flatMap Resolution.branches) : b.introduces = false := by
  obtain ⟨r, hr, hb⟩ := List.mem_flatMap.mp hb
  obtain ⟨v, hfrom⟩ := h r hr
  rcases hfrom b hb with ⟨a, rfl⟩ | ⟨t, rfl, hreason⟩ | ⟨t, rfl, -, hreason, -⟩
  · rfl
  · simp [Branch.introduces, hreason]
  · have hwhy : t.reason ≠ .introduced := by
      intro hwhy
      rw [hwhy] at hreason
      cases hreason
    exact decide_eq_false hwhy

omit [Score α] in
/-- An end at a lost parent version among what is left names one of the parent versions. -/
theorem exists_of_lostAt {vs : List ParentVersion} (h : ∀ r ∈ rs, ∃ v ∈ vs, r.FromParent origin v)
    {b : Branch} (hb : b ∈ rs.flatMap Resolution.branches) {id : String}
    (hlost : b.lostAt id = true) : ∃ v ∈ vs, v.commit.id = id := by
  obtain ⟨r, hr, hb⟩ := List.mem_flatMap.mp hb
  obtain ⟨v, hv, hfrom⟩ := h r hr
  rcases hfrom b hb with ⟨a, rfl⟩ | ⟨t, rfl, hreason⟩ | ⟨t, rfl, -, -, hid⟩
  · cases hlost
  · obtain ⟨hfailure, -⟩ := of_decide_eq_true hlost
    rw [hreason] at hfailure
    cases hfailure
  · obtain ⟨-, hid'⟩ := of_decide_eq_true hlost
    exact ⟨v, hv, Option.some.inj (hid.symm.trans hid')⟩

omit [Score α] in
/-- What is left of versions at other commits ends no branch for the lost one. -/
theorem filter_lostAt {vs : List ParentVersion} {id : String}
    (h : ∀ r ∈ rs, ∃ v ∈ vs, r.FromParent origin v) (hother : id ∉ vs.map (·.commit.id)) :
    (rs.flatMap Resolution.branches).filter (·.lostAt id) = [] := by
  refine List.filter_eq_nil_iff.mpr fun b hb hlost => hother ?_
  obtain ⟨v, hv, hid⟩ := exists_of_lostAt h hb hlost
  exact List.mem_map.mpr ⟨v, hv, hid⟩

/-! ### Settling -/

omit [Score α] in
/-- A lost parent version ends its own branch, and rules out that the element was introduced. -/
theorem settle_failed : settle origin (rs ++ .failed t :: rs')
    = rs.flatMap Resolution.branches ++ .terminated t :: rs'.flatMap Resolution.branches := by
  have hall : (rs ++ .failed t :: rs').all Resolution.isAbsent = false := by
    rw [List.all_append, List.all_cons]
    exact Bool.and_eq_false_imp.mpr fun _ => rfl
  unfold settle
  rw [hall, List.flatMap_append, List.flatMap_cons]
  exact List.append_nil _

omit [Score α] in
theorem filter_settle (h : ∀ r ∈ rs, ∃ v, r.FromParent origin v) :
    (settle origin rs).filter (fun b => !b.introduces) = rs.flatMap Resolution.branches := by
  have hkept : (rs.flatMap Resolution.branches).filter (fun b => !b.introduces)
      = rs.flatMap Resolution.branches :=
    List.filter_eq_self.mpr fun b hb => by rw [introduces_eq_false h hb]; rfl
  unfold settle
  rw [List.filter_append, hkept]
  split
  · exact List.append_nil _
  · exact List.append_nil _

/-! ### Looking into a parent version that is lost -/

variable (hr : w.repository.Steady)
include hr

theorem examine_lost (hs : w.Remembers s.session.cache) (hlost : w.Loses origin v t) :
    (w.examine origin v s).1 = .ok (.failed t) := by
  have hmodel : (w.modelOf v.commit.id v.path s).1
      = (SessionM.buildModel w.repository w.build v.commit.id v.path s.session).1 :=
    (w.modelOf_session _ _ s).1.trans (modelOf_remembers hr hs).1
  cases hlost with
  | unparseable h =>
    obtain ⟨s', hbuilt⟩ := h
    have hnone : (w.modelOf v.commit.id v.path s).1 = .ok .unparseable :=
      hmodel.trans ((SessionM.buildModel_same hr s.session s').trans hbuilt)
    have hmatch : (w.matchIn origin v.commit v.path s).1 = .ok .unparseable := by
      rw [matchIn, bind_of_ok hnone]
      rfl
    rw [examine, bind_of_ok (attempt_eq_ok.mpr hmatch)]
    rfl
  | @unreadable world f h =>
    have hread : (SessionM.ask (w.repository.readBlob v.commit.id v.path) s.session).1
        = .error (.repository f) := by
      show (w.repository.readBlob v.commit.id v.path s.session.world).1.mapError _ = _
      rw [hr.readBlob v.commit.id v.path s.session.world world, h]
      rfl
    have hnone : (w.modelOf v.commit.id v.path s).1 = .error (.repository f) := by
      rw [hmodel, SessionM.buildModel, bind_of_error hread]
    have hmatch : (w.matchIn origin v.commit v.path s).1 = .error (.repository f) := by
      rw [matchIn, bind_of_error hnone]
    have htried : (attempt (w.matchIn origin v.commit v.path) s).1 = .ok (.error f) := by
      rw [(attempt_apply s).1, hmatch]
    rw [examine, bind_of_ok htried]
    rfl

/-- **A lost parent version leaves no trace** but the end of its branch. -/
theorem resolveVersion_lost (hs : w.Remembers s.session.cache) (hlost : w.Loses origin v t) :
    ∃ s', w.resolveVersion origin v s = (.ok (.failed t), s') ∧ w.Alike (fun _ => ()) s s' := by
  refine ⟨(w.examine origin v s).2, ?_, ?_⟩
  · rw [w.resolveVersion_eq, bind_of_ok (examine_lost hr hs hlost)]
    rfl
  · exact
      { graph := (w.reads_examine origin v s).symm
        clock := rfl
        left := hs
        right := (w.steady_examine hr origin v).keeps s hs }

omit hr in
theorem resolve_of_mapM {pending : List ParentVersion} {s' : WalkState σ α}
    (h : pending.mapM (w.resolveVersion origin) s = (.ok rs, s')) :
    w.resolve origin pending s = (.ok (settle origin rs), s') := by
  rw [resolve, bind_apply, h]
  rfl

/-- In the other parent versions a walk finds what it finds without the lost one, and it goes on
alike. -/
theorem mapM_lost (hw : w.FaultsOnly) (before after : List ParentVersion)
    (hs : w.Remembers s.session.cache) (hlost : w.Loses origin v t) :
    ∃ rs rs' s₁ s₂,
      (before ++ v :: after).mapM (w.resolveVersion origin) s
        = (.ok (rs ++ .failed t :: rs'), s₁) ∧
      (before ++ after).mapM (w.resolveVersion origin) s = (.ok (rs ++ rs'), s₂) ∧
      w.Alike (fun _ => ()) s₂ s₁ ∧
      ∀ r ∈ rs ++ rs', ∃ u ∈ before ++ after, r.FromParent origin u := by
  -- both runs do the same up to the lost version
  obtain ⟨rs, hbefore, hs₀⟩ := hw.mapM_ok origin before hs
  obtain ⟨s₀', hversion, halike⟩ := resolveVersion_lost hr hs₀ hlost
  -- and go on from states that are alike
  obtain ⟨rs', hafter, -⟩ := hw.mapM_ok origin after hs₀
  obtain ⟨hsame, hend⟩ := uniform_mapM
    (uniform_resolveVersion hr w.repository.advances_still origin) after _ _ halike
  have hafter' : after.mapM (w.resolveVersion origin) s₀'
      = (.ok rs', (after.mapM (w.resolveVersion origin) s₀').2) :=
    Prod.ext (hsame.symm.trans (by rw [hafter])) rfl
  refine ⟨rs, rs', _, _, mapM_append_apply hbefore ?_, mapM_append_apply hbefore hafter, hend, ?_⟩
  · rw [List.mapM_cons, bind_apply, hversion]
    dsimp only
    rw [bind_apply, hafter']
    rfl
  · intro r hr
    have hmapM := yields_mapM (w.yields_resolveVersion origin)
    rcases List.mem_append.mp hr with hr | hr
    · obtain ⟨u, hu, hfrom⟩ := hmapM before _ _ _ hbefore r hr
      exact ⟨u, List.mem_append_left _ hu, hfrom⟩
    · obtain ⟨u, hu, hfrom⟩ := hmapM after _ _ _ hafter r hr
      exact ⟨u, List.mem_append_right _ hu, hfrom⟩

/-- **A branch goes on as if a lost parent version were not there.** -/
theorem resolve_lost (hw : w.FaultsOnly) {before after : List ParentVersion}
    (hs : w.Remembers s.session.cache)
    (hdistinct : ((before ++ v :: after).map (·.commit.id)).Nodup) (hlost : w.Loses origin v t) :
    ∃ long short s₁ s₂, w.resolve origin (before ++ v :: after) s = (.ok long, s₁) ∧
      w.resolve origin (before ++ after) s = (.ok short, s₂) ∧
      s₁.run.nodes = s₂.run.nodes ∧ s₁.run.edges = s₂.run.edges ∧
      long.filterMap Branch.active? = short.filterMap Branch.active? ∧
      (∃ bs bs', long = bs ++ .terminated t :: bs' ∧
        short.filter (fun b => !b.introduces) = bs ++ bs') ∧
      long.filter (·.lostAt v.commit.id) = [.terminated t] := by
  obtain ⟨rs, rs', s₁, s₂, hlong, hshort, hend, hfrom⟩ := mapM_lost hr hw before after hs hlost
  obtain ⟨hnodes, hedges, -⟩ := Run.of_graph hend.graph
  refine ⟨_, _, _, _, resolve_of_mapM hlong, resolve_of_mapM hshort, hnodes.symm, hedges.symm,
    ?_, ?_, ?_⟩
  · rw [settle_failed, Run.filterMap_settle _ _ fun _ => rfl, List.flatMap_append,
      List.filterMap_append, List.filterMap_append]
    rfl
  · refine ⟨rs.flatMap Resolution.branches, rs'.flatMap Resolution.branches, settle_failed, ?_⟩
    rw [filter_settle fun r hr => ⟨_, (hfrom r hr).choose_spec.2⟩, List.flatMap_append]
  · -- no other version is at the commit of the lost one
    have hperm : ((before ++ v :: after).map (·.commit.id)).Perm
        ((v :: (before ++ after)).map (·.commit.id)) := List.perm_middle.map _
    have hother := (List.nodup_cons.mp (hperm.nodup_iff.mp hdistinct)).1
    have hnone := filter_lostAt hfrom hother
    rw [List.flatMap_append, List.filter_append] at hnone
    obtain ⟨hnone, hnone'⟩ := List.append_eq_nil_iff.mp hnone
    have hnamed : (Branch.terminated t).lostAt v.commit.id = true := by
      cases hlost <;> exact decide_eq_true ⟨rfl, rfl⟩
    rw [settle_failed, List.filter_append, List.filter_cons_of_pos hnamed, hnone, hnone']
    rfl

end Walker

/-- **Faults stay in their branch.**  If only faults of the repository and files that cannot be
parsed can go wrong, then a walk never stops: its history is told, unless it was given too few
steps, and if the repository holds finitely many versions it is told with enough of them.  A parent
version that is lost, in a repository that does not change, ends its own branch: the versions and
changes that are recorded and the versions that are opened are those for the other parent versions
alone, and so are the other ends of branches, but for an introduction. -/
theorem faults_stay_in_their_branch [Score α] {w : Walker σ α} (hw : w.FaultsOnly) :
    (∀ (fuel : Nat) (commit : Commit) (path : String) (m : Model) (e : Element) (x : Session σ),
      w.Remembers x.cache → (∃ h, (w.history fuel commit path m e x).1 = .ok h) ∨
        (w.history fuel commit path m e x).1 = .error .unfinished) ∧
    (∀ keys : List VersionKey, w.AllVersions (· ∈ keys) →
      ∀ (commit : Commit) (path : String) (m : Model) (e : Element) (x : Session σ),
        w.Remembers x.cache →
        ∃ n h, ∀ fuel, n ≤ fuel → (w.history fuel commit path m e x).1 = .ok h) ∧
    (w.repository.Steady → ∀ (origin : Active) (before after : List ParentVersion)
      (v : ParentVersion) (t : Termination) (s : WalkState σ α), w.Remembers s.session.cache →
      ((before ++ v :: after).map (·.commit.id)).Nodup → w.Loses origin v t →
      ∃ long short s₁ s₂, w.resolve origin (before ++ v :: after) s = (.ok long, s₁) ∧
        w.resolve origin (before ++ after) s = (.ok short, s₂) ∧
        s₁.run.nodes = s₂.run.nodes ∧ s₁.run.edges = s₂.run.edges ∧
        long.filterMap Branch.active? = short.filterMap Branch.active? ∧
        (∃ bs bs', long = bs ++ .terminated t :: bs' ∧
          short.filter (fun b => !b.introduces) = bs ++ bs') ∧
        long.filter (·.lostAt v.commit.id) = [.terminated t]) := by
  refine ⟨?_, ?_, ?_⟩
  · intro fuel commit path m e x hx
    exact Walker.told_or_unfinished hw fuel commit path m e hx
  · intro keys hkeys commit path m e x hx
    exact Walker.told_of_finite hw hkeys commit path m e hx
  · intro hr origin before after v t s hs hdistinct hlost
    exact Walker.resolve_lost hr hw hs hdistinct hlost

/-! ### Stored graphs -/

/-- The builder that takes whatever it refuses for a file that cannot be parsed. -/
def ModelBuilder.lenient (build : ModelBuilder) : ModelBuilder := fun bytes path =>
  (build bytes path).mapError fun
    | .parse f => .parse f
    | fault => .parse ⟨path, fault.message, none⟩

theorem ModelBuilder.parse_of_lenient {build : ModelBuilder} {bytes : List UInt8} {path : String}
    {fault : ModelFault} (h : build.lenient bytes path = .error fault) : ∃ f, fault = .parse f := by
  unfold lenient at h
  rcases hbuild : build bytes path with refused | m <;> rw [hbuild] at h
  · cases refused <;> cases h <;> exact ⟨_, rfl⟩
  · cases h

namespace Archive
variable {a : Archive}

theorem still_ne_unsupported {answer : Except RepositoryFault σ} {events : List Event} {s : α} :
    (Asked.still answer events s).1 ≠ .error .unsupported := by
  cases answer <;> exact fun h => nomatch h

/-- A stored graph takes all questions. -/
theorem faultsOnly_fixed {w : Walker Unit α} (hrepository : w.repository = a.fixed)
    (hbuild : ∀ bytes path fault, w.build bytes path = .error fault → ∃ f, fault = .parse f) :
    w.FaultsOnly where
  resolve id _ := by rw [hrepository]; exact still_ne_unsupported
  parentsTouching id path _ := by rw [hrepository]; exact still_ne_unsupported
  readBlob id path _ := by rw [hrepository]; exact still_ne_unsupported
  changedPaths id parent _ := by rw [hrepository]; exact still_ne_unsupported
  build := hbuild

/-- The keys of all elements of the files that a stored graph holds. -/
def versionKeys (a : Archive) (build : ModelBuilder) : List VersionKey :=
  a.commits.flatMap fun c => c.files.flatMap fun f =>
    match build f.2 f.1 with
    | .ok m => m.elements.toList.map fun e => ⟨c.id, f.1, e.lines⟩
    | .error _ => []

/-- A stored graph holds finitely many versions. -/
theorem allVersions_fixed {w : Walker Unit α} (hrepository : w.repository = a.fixed) :
    w.AllVersions (· ∈ a.versionKeys w.build) := by
  intro id path m hbuilt e he
  obtain ⟨record, hrecord, rfl, bytes, hfile, hmodel⟩ := stored_of_builds hrepository hbuilt
  refine List.mem_flatMap.mpr ⟨record, hrecord, List.mem_flatMap.mpr ⟨(path, bytes), hfile, ?_⟩⟩
  rw [hmodel]
  exact List.mem_map_of_mem he

end Archive

/-- The walker of a damaged graph, one file of which cannot be read and one not be parsed. -/
def brokenSidesWalker : Walker Unit Float :=
  { (brokenSides.fixedTracker "x.py" (.methodAt "new" 1)).walker with
    build := ModelBuilder.lenient (Model.ofBytes fun _ => none) }

/-- The parent versions of the merge of the damaged graph. -/
def brokenSidesVersions : List ParentVersion :=
  brokenSides.commits.dropLast.map fun c => ⟨Archive.plainCommit c, "x.py", c.id⟩

theorem brokenSides_unparseable : (match (SessionM.buildModel brokenSidesWalker.repository
    brokenSidesWalker.build "b" "x.py" ⟨(), {}, []⟩).1 with
      | .ok .unparseable => true
      | _ => false) = true := by
  decide +kernel

theorem faults_stay_in_their_branch_brokenSides : ∃ (w : Walker Unit Float) (v : ParentVersion)
    (before after : List ParentVersion), w.repository = brokenSides.fixed ∧ w.FaultsOnly ∧
    w.AllVersions (· ∈ brokenSides.versionKeys w.build) ∧ w.repository.Steady ∧
    w.Remembers {} ∧ before ++ v :: after = brokenSidesVersions ∧ v.commit.id = "b" ∧
    ((before ++ v :: after).map (·.commit.id)).Nodup ∧
    (∀ (commit : Commit) (path : String) (m : Model) (e : Element), ∃ n h, ∀ fuel, n ≤ fuel →
      (w.history fuel commit path m e ⟨(), {}, []⟩).1 = .ok h) ∧
    ∀ (origin : Active) (s : WalkState Unit Float), s.session.cache = {} →
      ∃ t, w.Loses origin v t ∧
      ∃ long short s₁ s₂, w.resolve origin (before ++ v :: after) s = (.ok long, s₁) ∧
        w.resolve origin (before ++ after) s = (.ok short, s₂) ∧
        s₁.run.nodes = s₂.run.nodes ∧ s₁.run.edges = s₂.run.edges ∧
        long.filterMap Branch.active? = short.filterMap Branch.active? ∧
        (∃ bs bs', long = bs ++ .terminated t :: bs' ∧
          short.filter (fun b => !b.introduces) = bs ++ bs') ∧
        long.filter (·.lostAt v.commit.id) = [.terminated t] := by
  have hfaults : brokenSidesWalker.FaultsOnly :=
    Archive.faultsOnly_fixed rfl fun _ _ _ => ModelBuilder.parse_of_lenient
  have hbuilds : brokenSidesWalker.Builds "b" "x.py" .unparseable := by
    refine ⟨⟨(), {}, []⟩, ?_⟩
    have hcomputed := brokenSides_unparseable
    split at hcomputed
    · assumption
    · cases hcomputed
  have hsteady : brokenSidesWalker.repository.Steady := Archive.steady_fixed
  have hall := Archive.allVersions_fixed (w := brokenSidesWalker) rfl
  let v : ParentVersion := brokenSidesVersions.get ⟨1, by decide⟩
  let before := brokenSidesVersions.take 1
  let after := brokenSidesVersions.drop 2
  have hdistinct : ((before ++ v :: after).map (·.commit.id)).Nodup := by decide +kernel
  obtain ⟨-, hfinite, hisolated⟩ := faults_stay_in_their_branch hfaults
  refine ⟨brokenSidesWalker, v, before, after, rfl, hfaults, hall, hsteady,
    Walker.remembers_empty, rfl, rfl, hdistinct, ?_, ?_⟩
  · intro commit path m e
    exact hfinite _ hall commit path m e _ Walker.remembers_empty
  · intro origin s hs
    have hlost : brokenSidesWalker.Loses origin v _ := .unparseable hbuilds
    exact ⟨_, hlost, hisolated hsteady origin before after v _ s (hs ▸ Walker.remembers_empty)
      hdistinct hlost⟩

end Lineage
