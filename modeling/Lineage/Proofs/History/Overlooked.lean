import Lineage.Proofs.History.Counting
import Lineage.Proofs.History.Introduction
import Lineage.Proofs.Sequence.Pieces

/-! # Faults that an introduction overlooks

If the parents of a version cannot be asked for, or a parent version cannot be read, the branch ends
there and nothing is said to be introduced.  A search for the element in the other files of a parent
is different: a fault of it is taken for an element that is not there.

The faults that a step meets are those that its count goes up by (`Walker.counting`).  Where the
step introduces a version, whatever it was told before it searched was told without a fault; so it
met a fault exactly if one of its searches did (`step_blames`, `Turn.Blames.of_introduces`).  As
each version is examined for good once, an introduction comes with a fault exactly if it overlooks
the fault of a search (`introduced_after_fault_iff_overlooked`).
-/
namespace Lineage
variable {σ α : Type}

/-- What a step starts from: the branch that it takes, the branches behind it, and the state. -/
structure Stage (σ α : Type) where
  first : Branch
  rest : List Branch
  state : WalkState σ α

/-- A search for the element of a version in the other files of a parent, and the state in which it
starts. -/
structure MoveSearch (σ α : Type) where
  origin : Active
  parent : String
  state : WalkState σ α

/-- The action meets a fault. -/
def Walk.Meets {β : Type} (x : Walk (σ × Nat) α β) (s : WalkState (σ × Nat) α) : Prop :=
  s.faults < (x s).2.faults

instance {β : Type} (x : Walk (σ × Nat) α β) (s : WalkState (σ × Nat) α) :
    Decidable (Walk.Meets x s) := Nat.decLt _ _

namespace Walker
variable [Score α] (w : Walker σ α)

/-! ### Stages and searches -/

/-- What at most `fuel` steps start from, one after the other. -/
def stages : Nat → List Branch → WalkState σ α → List (Stage σ α)
  | 0, [], _ | 0, _ :: _, _ | _ + 1, [], _ => []
  | fuel + 1, first :: rest, s =>
    ⟨first, rest, s⟩ :: match w.step first rest s with
      | (.ok work, s') => stages fuel work s'
      | (.error _, _) => []

/-- The turn of the step from a stage. -/
def turnOf (st : Stage σ α) : Turn α := w.turn st.first st.state

/-- The places that are looked into, each with the state in which that is done. -/
def visits (origin : Active) {ι : Type} (look : ι → Walk σ α (Finding α)) :
    List ι → WalkState σ α → List (ι × WalkState σ α)
  | [], _ => []
  | i :: is, s => (i, s) :: match look i s with
    | (.ok x, s₁) => visits origin look is (w.record origin x s₁).2
    | (.error _, _) => []

/-- The search that examining a parent version comes to: the element is not in its file. -/
def searchAt? (origin : Active) (v : ParentVersion) (s : WalkState σ α) :
    Option (MoveSearch σ α) :=
  match Walk.attempt (w.matchIn origin v.commit v.path) s with
  | (.ok (.ok .absent), s₁) => some ⟨origin, v.viaParent, s₁⟩
  | _ => none

/-- The searches that examining parent versions comes to. -/
def searchesIn (origin : Active) (vs : List ParentVersion) (s : WalkState σ α) :
    List (MoveSearch σ α) :=
  (w.visits origin (w.examine origin) vs s).filterMap fun p => w.searchAt? origin p.1 p.2

/-- The searches of the step that takes a branch. -/
def searches : Branch → WalkState σ α → List (MoveSearch σ α)
  | .terminated _, _ => []
  | .branching a vs, s => w.searchesIn a vs s
  | .active a, s =>
    if w.outOfBudget s then []
    else
      match w.askParents a s with
      | (.ok (.ok []), s₁) =>
        (w.visits a (w.examineParent a) a.commit.parentIds s₁).map fun p => ⟨a, p.1, p.2⟩
      | (.ok (.ok [v]), s₁) => w.searchesIn a [v] s₁
      | _ => []

/-- Some step that examines a node meets a fault. -/
def FaultAt (fuel : Nat) (seed : Active) (x : Session σ) (node : Int) : Prop :=
  ∃ st ∈ w.counting.stages fuel [.active seed] (opening seed x.counting),
    st.first.node = node ∧ Walk.Meets (w.counting.step st.first st.rest) st.state

/-- A search meets a fault. -/
def FailsIn (search : MoveSearch (σ × Nat) α) : Prop :=
  Walk.Meets (w.counting.followMove search.origin search.parent) search.state

/-- Some step introduces the version of a node although one of its searches meets a fault. -/
def Overlooks (fuel : Nat) (seed : Active) (x : Session σ) (node : Int) : Prop :=
  ∃ before st after,
    w.counting.stages fuel [.active seed] (opening seed x.counting) = before ++ st :: after ∧
      (w.counting.turnOf st).Introduces seed (before.map w.counting.turnOf) node ∧
        ∃ search ∈ w.counting.searches st.first st.state, w.FailsIn search

instance (fuel : Nat) (seed : Active) (x : Session σ) (node : Int) :
    Decidable (w.FaultAt fuel seed x node) :=
  List.decidableBEx _ _

variable {w} {fuel : Nat} {work left : List Branch}

/-- The log of a walk has the turns of its stages. -/
theorem log_eq_map_stages {s : WalkState σ α} :
    w.log fuel work s = (w.stages fuel work s).map w.turnOf := by
  induction fuel generalizing work s with
  | zero => cases work <;> rfl
  | succ fuel ih =>
    cases work with
    | nil => rfl
    | cons first rest =>
      rw [log, stages, List.map_cons]
      refine congrArg (w.turn first s :: ·) ?_
      rcases w.step first rest s with ⟨stop | work, s'⟩
      · rfl
      · exact ih

/-- Each step of a walk that goes on has an outcome. -/
theorem step_of_mem_stages {s s' : WalkState σ α} (h : w.steps fuel work s = (.ok left, s'))
    {st : Stage σ α} (hst : st ∈ w.stages fuel work s) :
    ∃ work s₁, w.step st.first st.rest st.state = (.ok work, s₁) := by
  induction fuel generalizing work s with
  | zero => cases work <;> cases hst
  | succ fuel ih =>
    cases work with
    | nil => cases hst
    | cons first rest =>
      obtain ⟨work', s₁, hstep, hrest⟩ := Walk.bind_ok h
      rw [stages, hstep] at hst
      rcases List.mem_cons.mp hst with rfl | hst
      · exact ⟨work', s₁, hstep⟩
      · exact ih hrest hst

end Walker

/-! ### Outcomes without faults -/

theorem Asked.counting_of_ok {β : Type} {q : Asked σ β} {s : σ × Nat} {b : β}
    (h : (q.counting s).1 = .ok b) : (q.counting s).2.2.2 = s.2 := by
  rw [q.counting_fst] at h
  unfold counting
  split <;> rename_i hanswer
  · rw [hanswer] at h
    cases h
  · rfl
  · rfl

namespace Walk
variable {β γ : Type} {x : Walk (σ × Nat) α β} {f : β → Walk (σ × Nat) α γ}

/-- The action has no outcome after a fault. -/
def Clean (x : Walk (σ × Nat) α β) : Prop := ∀ s b, (x s).1 = .ok b → (x s).2.faults = s.faults

theorem clean_pure (b : β) : Clean (pure b : Walk (σ × Nat) α β) := fun _ _ _ => rfl

theorem clean_bind (hx : Clean x) (hf : ∀ b, Clean (f b)) : Clean (x >>= f) := by
  intro s c h
  rcases houtcome : (x s).1 with stop | b
  · rw [bind_of_error houtcome] at h
    cases h
  · rw [bind_of_ok houtcome] at h ⊢
    exact (hf b _ c h).trans (hx s b houtcome)

theorem clean_tell (level : Level) (name : String) (fields : List (String × Json)) :
    Clean (tell level name fields : Walk (σ × Nat) α Unit) := fun _ _ _ => rfl

theorem clean_onRun (f : Run α → Run α) : Clean (onRun f : Walk (σ × Nat) α Unit) :=
  fun _ _ _ => rfl

theorem clean_inSession {y : SessionM (σ × Nat) β}
    (hy : ∀ x b, (y x).1 = .ok b → (y x).2.faults = x.faults) :
    Clean (inSession y : Walk (σ × Nat) α β) := fun s b h => hy s.session b h

/-- An action that was tried has an outcome of its own only without a fault. -/
theorem Clean.of_attempt (hx : Clean x) {s s₁ : WalkState (σ × Nat) α} {b : β}
    (h : attempt x s = (.ok (.ok b), s₁)) : s₁.faults = s.faults := by
  have hstate := congrArg Prod.snd h
  rw [(attempt_apply s).2] at hstate
  exact (congrArg WalkState.faults hstate).symm.trans
    (hx s b (attempt_eq_ok.mp (congrArg Prod.fst h)))

end Walk

namespace Walker
open Walk
variable {w : Walker σ α} {id path : String}

theorem buildModel_faults {s : Session (σ × Nat)} {m : CachedModel}
    (h : (SessionM.buildModel w.counting.repository w.counting.build id path s).1 = .ok m) :
    (SessionM.buildModel w.counting.repository w.counting.build id path s).2.faults = s.faults := by
  show (SessionM.buildModel w.counting.repository w.counting.build id path s).2.world.2 = s.world.2
  rw [SessionM.buildModel_world]
  rcases hbytes : (SessionM.ask (w.counting.repository.readBlob id path) s).1 with stop | bytes
  · rw [SessionM.buildModel, bind_of_error hbytes] at h
    cases h
  · exact Asked.counting_of_ok (ask_ok hbytes)

theorem modelOf_faults {s : Session (σ × Nat)} {m : CachedModel}
    (h : (SessionM.modelOf w.counting.repository w.counting.build id path s).1 = .ok m) :
    (SessionM.modelOf w.counting.repository w.counting.build id path s).2.faults = s.faults := by
  cases hentry : s.cache.get? (id, path) with
  | some m =>
    rw [SessionM.modelOf_hit hentry]
    rfl
  | none =>
    cases hflight : s.cache.inFlight.contains (id, path) with
    | true =>
      rw [SessionM.modelOf_wait hentry hflight] at h
      cases h
    | false =>
      rw [SessionM.modelOf_miss hentry hflight] at h ⊢
      split at h
      · rename_i m' s₁ hbuilt
        have hkept := buildModel_faults (congrArg Prod.fst hbuilt)
        rw [hbuilt] at hkept
        exact hkept
      · cases h

theorem parentVersions_faults {x : Session (σ × Nat)} {vs : List ParentVersion}
    (h : (parentVersions w.counting.repository id path x).1 = .ok vs) :
    (parentVersions w.counting.repository id path x).2.faults = x.faults := by
  show (parentVersions w.counting.repository id path x).2.world.2 = x.world.2
  rw [parentVersions_world]
  rcases hanswer : (w.counting.repository.parentsTouching id path x.world).1 with refusal | us
  · rw [parentVersions_answer, hanswer] at h
    cases h
  · exact Asked.counting_of_ok hanswer

variable (w)

theorem clean_modelOf (id path : String) : Clean (w.counting.modelOf id path) := by
  intro s m h
  obtain ⟨houtcome, hsession⟩ := w.counting.modelOf_session id path s
  show (w.counting.modelOf id path s).2.session.faults = s.session.faults
  rw [hsession]
  exact modelOf_faults (houtcome.symm.trans h)

/-- Asking for the parents of a version gives them only without a fault. -/
theorem askParents_clean {a : Active} {s s₁ : WalkState (σ × Nat) α} {vs : List ParentVersion}
    (h : w.counting.askParents a s = (.ok (.ok vs), s₁)) : s₁.faults = s.faults := by
  unfold askParents at h
  obtain ⟨_, s', hcount, h⟩ := bind_ok h
  obtain ⟨_, s'', hcalls, h⟩ := bind_ok h
  cases hcount
  cases hcalls
  have hclean : Clean (inSession (parentVersions w.counting.repository a.commit.id a.path) :
      Walk (σ × Nat) α (List ParentVersion)) := clean_inSession fun _ _ => parentVersions_faults
  have hkept := hclean.of_attempt h
  exact hkept

variable [Score α]

theorem clean_matchIn (origin : Active) (commit : Commit) (path : String) :
    Clean (w.counting.matchIn origin commit path) := by
  refine clean_bind (w.clean_modelOf commit.id path) fun cached => ?_
  cases cached with
  | unparseable => exact clean_pure _
  | model earlier =>
    dsimp only
    split
    · exact clean_bind (clean_onRun _) fun _ => clean_pure _
    · exact clean_bind (clean_tell _ _ _) fun _ => clean_pure _
    · exact clean_pure _

/-! ### Faults of looking -/

theorem examineParent_state (origin : Active) (parentId : String) (s : WalkState σ α) :
    (w.examineParent origin parentId s).2 = (w.followMove origin parentId s).2 := by
  rw [examineParent, bind_apply]
  rcases w.followMove origin parentId s with ⟨stop | moved, s₁⟩ <;> rfl

variable {w} {origin : Active} {s s' : WalkState (σ × Nat) α}

/-- Where the element is found in no file, a parent version was examined without a fault until the
element was searched for elsewhere. -/
theorem examine_absent {v : ParentVersion}
    (h : (w.counting.examine origin v s).1 = .ok .absent) :
    ∃ search, w.counting.searchAt? origin v s = some search ∧
      (Walk.Meets (w.counting.examine origin v) s ↔ w.FailsIn search) := by
  rw [examine, bind_apply] at h
  unfold searchAt? Walk.Meets examine
  rw [bind_apply]
  rcases htried : attempt (w.counting.matchIn origin v.commit v.path) s
    with ⟨_ | f | m | _ | _, s₁⟩ <;> rw [htried] at h
  · cases h
  · cases h
  · cases h
  · refine ⟨⟨origin, v.viaParent, s₁⟩, rfl, ?_⟩
    show s.faults < (w.counting.examineParent origin v.viaParent s₁).2.faults ↔ _
    rw [examineParent_state, ← (w.clean_matchIn origin v.commit v.path).of_attempt htried]
    rfl
  · cases h

omit [Score α] in
/-- Recording leaves the count alone. -/
theorem record_faults (x : Finding α) : (w.counting.record origin x s).2.faults = s.faults :=
  congrArg Prod.snd (w.counting.record_world origin x s)

omit [Score α] in
/-- Looking into places meets a fault exactly if looking into one of them does; and what each gives
is a finding. -/
theorem meets_visits {ι : Type} {look : ι → Walk (σ × Nat) α (Finding α)}
    (hgrows : ∀ i s, s.faults ≤ (look i s).2.faults) {is : List ι} {rs : List Resolution}
    (h : (is.mapM fun i => look i >>= w.counting.record origin) s = (.ok rs, s')) :
    s.faults ≤ s'.faults ∧
      (s.faults < s'.faults ↔
        ∃ p ∈ w.counting.visits origin look is s, Walk.Meets (look p.1) p.2) ∧
      ∀ p ∈ w.counting.visits origin look is s,
        ∃ x ∈ w.counting.findings origin look is s, (look p.1 p.2).1 = .ok x := by
  induction is generalizing s rs with
  | nil =>
    rw [List.mapM_nil] at h
    obtain ⟨-, rfl⟩ := pure_ok h
    exact ⟨Nat.le_refl _, iff_of_false (Nat.lt_irrefl _) (fun ⟨_, hp, _⟩ => nomatch hp),
      fun _ hp => nomatch hp⟩
  | cons i is ih =>
    obtain ⟨x, s₁, r, s₂, rs', hx, hrec, htail, rfl⟩ := w.counting.visit_cons_ok h
    have hkept : s₂.faults = s₁.faults := by
      have hsame : (w.counting.record origin x s₁).2.faults = s₁.faults := record_faults x
      rwa [hrec] at hsame
    obtain ⟨hle, hmeets, hfound⟩ := ih htail
    have hgrown : s.faults ≤ s₁.faults := by
      have hle := hgrows i s
      rwa [hx] at hle
    have hvisits : w.counting.visits origin look (i :: is) s
        = (i, s) :: w.counting.visits origin look is s₂ := by
      rw [visits, hx]
      exact congrArg (fun s => (i, _) :: w.counting.visits origin look is s)
        (congrArg Prod.snd hrec)
    have hhere : Walk.Meets (look i) s ↔ s.faults < s₁.faults := by
      rw [Walk.Meets, hx]
    rw [hvisits, w.counting.findings_cons is hx hrec, List.exists_mem_cons_iff, ← hmeets, hhere,
      List.forall_mem_cons]
    refine ⟨by omega, by omega, ?_, ?_⟩
    · exact ⟨x, List.mem_cons_self, congrArg Prod.fst hx⟩
    · intro p hp
      obtain ⟨y, hy, hlook⟩ := hfound p hp
      exact ⟨y, List.mem_cons_of_mem _ hy, hlook⟩

/-- Where the element is in no parent version, matching it meets a fault exactly if a search
does. -/
theorem meets_resolve {vs : List ParentVersion} {bs : List Branch}
    (h : w.counting.resolve origin vs s = (.ok bs, s'))
    (habsent : ∀ x ∈ w.counting.findings origin (w.counting.examine origin) vs s, x = .absent) :
    s.faults < s'.faults ↔ ∃ search ∈ w.counting.searchesIn origin vs s, w.FailsIn search := by
  have hgrows : ∀ (v : ParentVersion) (s : WalkState (σ × Nat) α),
      s.faults ≤ (w.counting.examine origin v s).2.faults := fun v s =>
    (w.tallies_examine origin v).grows s
  unfold resolve at h
  rw [funext (w.counting.resolveVersion_eq origin)] at h
  obtain ⟨rs, s₁, hrs, h⟩ := bind_ok h
  obtain ⟨-, rfl⟩ := pure_ok h
  obtain ⟨-, hmeets, hfound⟩ := meets_visits hgrows hrs
  rw [hmeets]
  have hsearch : ∀ p ∈ w.counting.visits origin (w.counting.examine origin) vs s,
      ∃ search, w.counting.searchAt? origin p.1 p.2 = some search ∧
        (Walk.Meets (w.counting.examine origin p.1) p.2 ↔ w.FailsIn search) := by
    intro p hp
    obtain ⟨x, hx, hlook⟩ := hfound p hp
    rw [habsent x hx] at hlook
    exact examine_absent hlook
  constructor
  · rintro ⟨p, hp, hfault⟩
    obtain ⟨search, hat, hiff⟩ := hsearch p hp
    exact ⟨search, List.mem_filterMap.mpr ⟨p, hp, hat⟩, hiff.mp hfault⟩
  · rintro ⟨search, hmem, hfails⟩
    obtain ⟨p, hp, hat⟩ := List.mem_filterMap.mp hmem
    obtain ⟨search', hat', hiff⟩ := hsearch p hp
    obtain rfl := Option.some.inj (hat.symm.trans hat')
    exact ⟨p, hp, hiff.mpr hfails⟩

/-- Following moves from parents meets a fault exactly if one of the searches does. -/
theorem meets_moves {parents : List String} {bss : List (List Branch)}
    (h : parents.mapM (w.counting.movesFrom origin) s = (.ok bss, s')) :
    s.faults < s'.faults ↔
      ∃ p ∈ w.counting.visits origin (w.counting.examineParent origin) parents s,
        w.FailsIn ⟨origin, p.1, p.2⟩ := by
  have hgrows : ∀ (parent : String) (s : WalkState (σ × Nat) α),
      s.faults ≤ (w.counting.examineParent origin parent s).2.faults := fun parent s => by
    rw [examineParent_state]
    exact (w.tallies_followMove origin parent).grows s
  rw [funext (w.counting.movesFrom_eq origin), mapM_map_outcome] at h
  obtain ⟨rs, hrs, -⟩ := map_ok h
  rw [(meets_visits hgrows hrs).2.1]
  refine exists_congr fun p => and_congr_right fun _ => ?_
  unfold Walk.Meets FailsIn Walk.Meets
  rw [examineParent_state]

end Walker

/-! ### Faults of steps -/

/-- How the faults that a step met depend on its turn: whether it met one, and whether one of its
searches did.  Where the element is in no place that was looked into, only a search can have met a
fault. -/
def Turn.Blames (met searched : Prop) : Turn α → Prop
  | .ended _ | .cut | .postponed _ _ => ¬ met
  | .lost _ _ => True
  | .fresh _ _ => met ↔ searched
  | .followed _ xs | .resolved _ xs => (∀ x ∈ xs, x = .absent) → (met ↔ searched)

namespace Walker
open Walk
variable [Score α] {w : Walker σ α} {s s' : WalkState (σ × Nat) α}

theorem advance_blames {a : Active} {bs : List Branch}
    (hbudget : ¬ w.counting.outOfBudget s = true) (h : w.counting.advance a s = (.ok bs, s')) :
    (w.counting.turn (.active a) s).Blames (s.faults < s'.faults)
      (∃ search ∈ w.counting.searches (.active a) s, w.FailsIn search) := by
  obtain ⟨s₂, hexpands, rfl⟩ := w.counting.expands_of_advance h
  show Turn.Blames (s.faults < s₂.faults) _ _
  rw [turn, searches, if_neg hbudget, if_neg hbudget]
  cases hexpands with
  | lost asked told =>
    rw [asked]
    exact trivial
  | fresh asked moves =>
    rw [asked]
    show _ ↔ _
    rw [← w.askParents_clean asked, meets_moves moves]
    simp only [List.mem_map, exists_exists_and_eq_and]
  | followed asked resolved =>
    rw [asked]
    intro habsent
    rw [← w.askParents_clean asked]
    exact meets_resolve resolved habsent
  | postponed asked told =>
    have hkept := w.askParents_clean asked
    rw [asked]
    cases told
    exact Nat.not_lt.mpr (Nat.le_of_eq hkept)

/-- **What a step met depends on its turn** as `Turn.Blames` says. -/
theorem step_blames {first : Branch} {rest work : List Branch}
    (h : w.counting.step first rest s = (.ok work, s')) :
    (w.counting.turn first s).Blames (s.faults < s'.faults)
      (∃ search ∈ w.counting.searches first s, w.FailsIn search) := by
  cases w.counting.stepped_of_step h with
  | @ended t _ ended =>
    have hworld := terminate_world t s
    rw [ended] at hworld
    exact Nat.not_lt.mpr (Nat.le_of_eq (congrArg Prod.snd hworld))
  | resolved resolved => exact meets_resolve resolved
  | @cut a _ used stopped =>
    have hworld := stopAll_world a rest s
    rw [stopped] at hworld
    rw [turn, if_pos used]
    exact Nat.not_lt.mpr (Nat.le_of_eq (congrArg Prod.snd hworld))
  | expanded left advanced => exact advance_blames (Bool.eq_false_iff.mp left) advanced

end Walker

namespace Turn
variable {met searched : Prop} {turn : Turn α} {seed : Active} {log : List (Turn α)} {node : Int}

/-- Where a turn introduces a version, its faults are those of its searches. -/
theorem Blames.of_introduces (h : turn.Blames met searched)
    (hintro : turn.Introduces seed log node) : met ↔ searched := by
  cases turn with
  | ended | cut | lost | postponed => cases hintro
  | fresh a xs => exact h
  | followed a xs | resolved a xs => exact h hintro.2

/-- A turn whose step met a fault examines its version for good. -/
theorem Blames.examined_ne (h : turn.Blames met searched) (hmet : met) : turn.examined ≠ [] := by
  cases turn with
  | ended | cut | postponed => exact absurd hmet h
  | lost | fresh | followed | resolved => exact List.cons_ne_nil _ _

end Turn

/-! ### Histories -/

namespace Walker
variable [Score α] {w : Walker σ α} {fuel : Nat} {commit : Commit} {path : String} {m : Model}
  {e : Element} {x x' : Session σ} {h : History α}

/-- The version that a turn examines stands at the node of the branch. -/
theorem node_of_examined {first : Branch} {s : WalkState σ α} {i : Nat}
    (hi : i ∈ (w.turn first s).examined) : first.node = i := by
  obtain ⟨a, hopen, hexamined⟩ :=
    (w.turn_concerns first s).open_of_examined (List.ne_nil_of_mem hi)
  rw [hexamined] at hi
  rw [List.mem_singleton.mp hi]
  cases first with
  | terminated t => cases hopen
  | active a | branching a vs =>
    cases hopen
    rfl

/-- What a history says to be introduced is what the turns of its stages introduce. -/
theorem introduced_iff_stage (hh : w.history fuel commit path m e x = (.ok h, x')) (node : Int) :
    .introduced ∈ h.reasonsAt node ↔ ∃ before st after,
      w.stages fuel [.active ⟨0, commit, path, m, e⟩] (opening ⟨0, commit, path, m, e⟩ x)
          = before ++ st :: after ∧
        (w.turnOf st).Introduces ⟨0, commit, path, m, e⟩ (before.map w.turnOf) node := by
  obtain ⟨s, rfl, hreplay⟩ := replay_of_history hh
  have hreasons : .introduced ∈ s.run.toHistory.reasonsAt node ↔
      s.run.graph.Ends [] node .introduced := Run.mem_reasonsAt_toHistory (r := s.run.graph)
  rw [hreasons, hreplay.introduced_iff, logOf, log_eq_map_stages]
  constructor
  · rintro ⟨before, turn, after, hsplit, hintro⟩
    obtain ⟨stages, _, hstages, rfl, hrest⟩ := List.map_eq_append_iff.mp hsplit
    obtain ⟨st, behind, rfl, rfl, -⟩ := List.map_eq_cons_iff.mp hrest
    exact ⟨stages, st, behind, hstages, hintro⟩
  · rintro ⟨before, st, after, hstages, hintro⟩
    refine ⟨before.map w.turnOf, w.turnOf st, after.map w.turnOf, ?_, hintro⟩
    rw [hstages, List.map_append, List.map_cons]

/-- A version is examined for good in one stage. -/
theorem stage_unique (hh : w.history fuel commit path m e x = (.ok h, x')) {st st' : Stage σ α}
    (hst : st ∈ w.stages fuel [.active ⟨0, commit, path, m, e⟩] (opening ⟨0, commit, path, m, e⟩ x))
    (hst' : st' ∈ w.stages fuel [.active ⟨0, commit, path, m, e⟩]
      (opening ⟨0, commit, path, m, e⟩ x))
    {i : Nat} (hi : i ∈ (w.turnOf st).examined) (hi' : i ∈ (w.turnOf st').examined) : st = st' := by
  obtain ⟨s, -, hreplay⟩ := replay_of_history hh
  have honce := hreplay.examined_once.1.of_append_left
  rw [logOf, log_eq_map_stages, List.flatMap_map] at honce
  exact Sequence.eq_of_mem_pieces honce hst hst' hi hi'

/-- A version is introduced and comes with a fault exactly if the fault of a search was
overlooked. -/
theorem faultAt_and_introduced_iff (hh : w.history fuel commit path m e x = (.ok h, x'))
    (node : Int) :
    (w.FaultAt fuel ⟨0, commit, path, m, e⟩ x node ∧ .introduced ∈ h.reasonsAt node) ↔
      w.Overlooks fuel ⟨0, commit, path, m, e⟩ x node := by
  have hcounted : w.counting.history fuel commit path m e x.counting
      = (.ok h, (w.counting.history fuel commit path m e x.counting).2) :=
    Prod.ext ((w.history_counting fuel commit path m e x).trans (congrArg Prod.fst hh)) rfl
  obtain ⟨final, hsteps, -⟩ := steps_of_history hcounted
  rw [introduced_iff_stage hcounted]
  constructor
  · rintro ⟨⟨st', hst', hnode, hmet⟩, before, st, after, hstages, hintro⟩
    have hst := hstages ▸ List.mem_append_right before (List.mem_cons_self (a := st) (l := after))
    obtain ⟨work, s₁, hstep⟩ := step_of_mem_stages hsteps hst
    obtain ⟨work', s₁', hstep'⟩ := step_of_mem_stages hsteps hst'
    rw [Walk.Meets, hstep'] at hmet
    -- the step that met the fault examined the node for good, and so did the one that introduced it
    obtain ⟨i, hi⟩ := List.exists_mem_of_ne_nil _ ((step_blames hstep').examined_ne hmet)
    obtain ⟨j, hj, hnode'⟩ := Turn.examined_of_introduces hintro
    obtain rfl : i = j :=
      Int.ofNat.inj ((node_of_examined hi).symm.trans (hnode.trans hnode'.symm))
    obtain rfl := stage_unique hcounted hst' hst hi (hj ▸ List.mem_singleton_self i)
    rw [hstep] at hstep'
    cases hstep'
    exact ⟨before, st', after, hstages, hintro, ((step_blames hstep).of_introduces hintro).mp hmet⟩
  · rintro ⟨before, st, after, hstages, hintro, hsearch⟩
    have hst := hstages ▸ List.mem_append_right before (List.mem_cons_self (a := st) (l := after))
    obtain ⟨work, s₁, hstep⟩ := step_of_mem_stages hsteps hst
    obtain ⟨i, hi, hnode⟩ := Turn.examined_of_introduces hintro
    refine ⟨⟨st, hst, ?_, ?_⟩, before, st, after, hstages, hintro⟩
    · exact (node_of_examined (hi ▸ List.mem_singleton_self i)).trans hnode
    · rw [Walk.Meets, hstep]
      exact ((step_blames hstep).of_introduces hintro).mpr hsearch

/-- **Where an introduction comes with a fault.**  If something could not be read while a version
was examined, the history does not say that it was introduced there, except where the fault was met
in a search for the element in another file. -/
theorem introduced_after_fault_iff_overlooked
    (hh : w.history fuel commit path m e x = (.ok h, x')) (node : Int) :
    (w.FaultAt fuel ⟨0, commit, path, m, e⟩ x node → .introduced ∉ h.reasonsAt node) ↔
      ¬ w.Overlooks fuel ⟨0, commit, path, m, e⟩ x node :=
  not_and.symm.trans (not_congr (faultAt_and_introduced_iff hh node))

/-- A fault is never reported as an introduction if moves are not followed. -/
theorem not_introduced_of_fault (hmoves : w.config.followMoves = false)
    (hh : w.history fuel commit path m e x = (.ok h, x')) (node : Int)
    (hfault : w.FaultAt fuel ⟨0, commit, path, m, e⟩ x node) : .introduced ∉ h.reasonsAt node := by
  intro hintro
  obtain ⟨_, _, _, _, _, search, _, hfails⟩ :=
    (faultAt_and_introduced_iff hh node).mp ⟨hfault, hintro⟩
  have hnone : w.counting.followMove search.origin search.parent = pure none := by
    rw [followMove]
    exact if_neg (Bool.eq_false_iff.mp hmoves)
  rw [FailsIn, hnone] at hfails
  exact Nat.lt_irrefl _ hfails

end Walker

/-! ### A source that cannot be read -/

/-- A function was moved out of a file that cannot be read at the parent. -/
def unreadableSource : Archive :=
  let f := "def f(a):\n    return a + 1\n".toUTF8.toList
  { commits := [
      { id := "r", files := [("y.py", f)], committed := 1 },
      { id := "m", parents := ["r"], files := [("x.py", f)], committed := 2 }]
    head := "m"
    damage := { blobs := [("r", "y.py")] } }

/-- The function is said to be introduced, although its old file was not read. -/
theorem unreadableSource_tells :
    (unreadableSource.tracker "x.py" (.methodAt "f" 1)).tells ⟨unreadableSource, {}, []⟩
      (fun h => h.reasonsAt 0 = [.introduced]) = true ∧
    ((unreadableSource.tracker "x.py" (.methodAt "f" 1)).start? ⟨unreadableSource, {}, []⟩).any
      (fun p => (unreadableSource.tracker "x.py" (.methodAt "f" 1)).walker.FaultAt
        (unreadableSource.tracker "x.py" (.methodAt "f" 1)).steps p.1 p.2 0) = true := by
  decide +kernel

theorem introduced_after_fault_iff_overlooked_unreadableSource : ∃ fuel commit m e x x' h,
    (unreadableSource.tracker "x.py" (.methodAt "f" 1)).walker.history fuel commit "x.py" m e x
      = (.ok h, x') ∧
    ∀ node, ((unreadableSource.tracker "x.py" (.methodAt "f" 1)).walker.FaultAt fuel
        ⟨0, commit, "x.py", m, e⟩ x node → .introduced ∉ h.reasonsAt node) ↔
      ¬ (unreadableSource.tracker "x.py" (.methodAt "f" 1)).walker.Overlooks fuel
        ⟨0, commit, "x.py", m, e⟩ x node := by
  obtain ⟨h, x', ht, -⟩ := Tracker.exists_of_tells unreadableSource_tells.1
  obtain ⟨commit, m, e, x, -, hh⟩ := Tracker.history_of_track ht
  exact ⟨_, commit, m, e, x, x', h, hh, Walker.introduced_after_fault_iff_overlooked hh⟩

theorem not_introduced_without_fault : ¬ ∀ fuel commit m e x h x',
    (unreadableSource.tracker "x.py" (.methodAt "f" 1)).walker.history fuel commit "x.py" m e x
      = (.ok h, x') →
    ∀ node, (unreadableSource.tracker "x.py" (.methodAt "f" 1)).walker.FaultAt fuel
      ⟨0, commit, "x.py", m, e⟩ x node → .introduced ∉ h.reasonsAt node := by
  intro hclaim
  obtain ⟨htells, hfaults⟩ := unreadableSource_tells
  obtain ⟨h, x', ht, hreasons⟩ := Tracker.exists_of_tells htells
  obtain ⟨commit, m, e, x, hstart, hh⟩ := Tracker.history_of_track ht
  rw [hstart] at hfaults
  refine hclaim _ commit m e x h x' hh 0 (of_decide_eq_true hfaults) ?_
  rw [of_decide_eq_true hreasons]
  exact List.mem_singleton.mpr rfl

end Lineage
