import Lineage.Proofs.History.Branches

/-! # What a joined version shows

Versions are told apart by commit, path and lines.  A file can hold several elements on
one range of lines, so a match may lead to a node that shows another element: the first
one that reached the key.  The kind is always right, since a walk stays within the kind of
its seed (`Replay.kinds`); name and signature are right for all matches exactly if no two
versions that the walk reached have one key and differ in them
(`joined_shows_iff_keys_tell_apart`).
-/
namespace Lineage
variable {σ α : Type}

/-- Keys tell versions apart: versions with one key have one qualified name and one text of
the signature. -/
def KeysTellApart (versions : List (VersionKey × Element)) : Prop :=
  ∀ v ∈ versions, ∀ v' ∈ versions, v.1 = v'.1 →
    v.2.qualifiedName = v'.2.qualifiedName ∧ v.2.signature.text = v'.2.signature.text

/-! ### Kinds -/

theorem Run.kind_of_mem_openAll {r : Run α} {ls : List (Active × Match α)} {kind : ElementKind}
    (hls : ∀ l ∈ ls, l.2.element.kind = kind) {b : Branch} {a : Active}
    (hb : b ∈ r.openAll ls) (ha : b.open? = some a) : a.element.kind = kind := by
  induction ls generalizing r with
  | nil => cases hb
  | cons l ls ih =>
    rcases List.mem_append.mp hb with hb | hb
    · have hl := hls l List.mem_cons_self
      unfold Run.opened at hb
      split at hb
      · cases hb
      · split at hb
        · obtain rfl := List.mem_singleton.mp hb
          cases ha
        · obtain rfl := List.mem_singleton.mp hb
          cases ha
          exact hl
    · exact ih (fun l hl => hls l (List.mem_cons_of_mem _ hl)) hb

variable {seed : Active} {log : List (Turn α)} {r : Run α} {work : List Branch}

/-- **A walk stays within the kind of its seed**: the versions that are still to be
examined, and those that matches lead from and to. -/
theorem Replay.kinds (h : Replay seed log r work) :
    (∀ b ∈ work, ∀ a, b.open? = some a → a.element.kind = seed.element.kind) ∧
      ∀ l ∈ log.flatMap Turn.links, l.2.element.kind = seed.element.kind := by
  induction h with
  | seed _ =>
    refine ⟨fun b hb a ha => ?_, fun l hl => nomatch hl⟩
    obtain rfl := List.mem_singleton.mp hb
    cases ha
    rfl
  | @turn log r r' first rest work turn before hturn hafter ih =>
    obtain ⟨hopen, hlinks⟩ := ih
    have hwork : work = (r.after first rest turn).2 := congrArg Prod.snd hafter
    have hnew : ∀ l ∈ turn.links, l.2.element.kind = seed.element.kind := fun l hl => by
      obtain ⟨hfirst, hkind⟩ := hturn.open_first hl
      exact hkind.trans (hopen first List.mem_cons_self _ hfirst)
    constructor
    · intro b hb a ha
      rw [hwork] at hb
      rcases r.after_work rest hturn with hafter | ⟨hafter, -⟩
      · rw [hafter] at hb
        rcases List.mem_append.mp hb with hb | hb
        · exact hopen b (List.mem_cons_of_mem _ hb) a ha
        · by_cases hpost : ∃ a vs, turn = .postponed a vs
          · obtain ⟨a', vs, rfl⟩ := hpost
            obtain rfl := List.mem_singleton.mp hb
            cases ha
            cases hturn
            exact hopen _ List.mem_cons_self a rfl
          · have hmem : a ∈ (r.news turn).filterMap Branch.open? :=
              List.mem_filterMap.mpr ⟨b, hb, ha⟩
            rw [r.filterMap_news Branch.open? (fun _ => rfl) turn
              fun a vs h => absurd ⟨a, vs, h⟩ hpost] at hmem
            obtain ⟨b', hb', ha'⟩ := List.mem_filterMap.mp hmem
            exact Run.kind_of_mem_openAll hnew hb' ha'
      · rw [hafter] at hb
        cases hb
    · intro l hl
      rw [List.flatMap_append, List.flatMap_singleton] at hl
      rcases List.mem_append.mp hl with hl | hl
      · exact hlinks l hl
      · exact hnew l hl

/-! ### Names and signatures -/

theorem kind_of_mem_reached {ls : List (Active × Match α)}
    (hkinds : ∀ l ∈ ls, l.2.element.kind = seed.element.kind) {v : VersionKey × Element}
    (hv : v ∈ reached seed ls) : v.2.kind = seed.element.kind := by
  rcases List.mem_cons.mp hv with rfl | hv
  · rfl
  · obtain ⟨l, hl, rfl⟩ := List.mem_map.mp hv
    exact hkinds l hl

/-- The nodes with the keys of the matches show what was matched exactly if keys tell the
versions apart. -/
theorem Run.Records.shows_iff {ls : List (Active × Match α)} (h : r.Records seed ls)
    (hkinds : ∀ l ∈ ls, l.2.element.kind = seed.element.kind) :
    (∀ l ∈ ls, ∀ n ∈ r.nodes, n.key = l.2.key → n.Shows l.2.element) ↔
      KeysTellApart (reached seed ls) := by
  constructor
  · intro hshows
    -- the node with the key of a version shows it, also if the version is the seed
    have hnode : ∀ v ∈ reached seed ls, ∃ n ∈ r.nodes, n.key = v.1 ∧ n.Shows v.2 := by
      intro v hv
      rcases List.mem_cons.mp hv with rfl | hmem
      · obtain ⟨n, hn, -, hkey, hseed⟩ := h.seeded
        exact ⟨n, hn, hkey, hseed⟩
      · obtain ⟨l, hl, rfl⟩ := List.mem_map.mp hmem
        obtain ⟨n, hn, hkey⟩ := h.exists_node hv
        exact ⟨n, hn, hkey, hshows l hl n hn hkey⟩
    intro v hv v' hv' heq
    obtain ⟨n, hn, hkey, -, hname, hsig⟩ := hnode v hv
    obtain ⟨n', hn', hkey', -, hname', hsig'⟩ := hnode v' hv'
    obtain rfl := h.eq_of_key hn hn' (hkey.trans (heq.trans hkey'.symm))
    exact ⟨hname.symm.trans hname', hsig.symm.trans hsig'⟩
  · intro hapart l hl n hn hkey
    have hv : (l.2.key, l.2.element) ∈ reached seed ls :=
      List.mem_cons_of_mem _ (List.mem_map.mpr ⟨l, hl, rfl⟩)
    obtain ⟨v, hv', hkey', hkind, hname, hsig⟩ := h.noted hn
    obtain ⟨hname', hsig'⟩ := hapart v hv' _ hv (hkey'.symm.trans hkey)
    exact ⟨(hkind.trans (kind_of_mem_reached hkinds hv')).trans (hkinds l hl).symm,
      hname.trans hname', hsig.trans hsig'⟩

/-! ### Histories -/

/-- **What a join shows.**  Each match of a walk has an edge, to the one node with its key,
and the node is of the kind of what was matched.  A node shows the first version that
reached its key; so the nodes also have the names and signatures of all that was matched
exactly if keys tell the versions of the walk apart. -/
theorem joined_shows_iff_keys_tell_apart [Score α] {w : Walker σ α} {fuel : Nat} {commit : Commit}
    {path : String} {m : Model} {e : Element} {x x' : Session σ} {h : History α}
    (hh : w.history fuel commit path m e x = (.ok h, x')) :
    let seed : Active := ⟨0, commit, path, m, e⟩
    let links := w.linksOf fuel seed x
    (∀ l ∈ links, ∃ n ∈ h.nodes, n.key = l.2.key ∧ n.kind = l.2.element.kind ∧
      ∃ e ∈ h.edges, e.source = l.1.node ∧ e.target = n.index) ∧
    (∀ n ∈ h.nodes, ∃ v, n.Shows v.2 ∧ (reached seed links).find? (·.1 = n.key) = some v) ∧
    ((∀ l ∈ links, ∀ n ∈ h.nodes, n.key = l.2.key → n.Shows l.2.element) ↔
      KeysTellApart (reached seed links)) := by
  intro seed links
  obtain ⟨s, rfl, hreplay⟩ := Walker.replay_of_history hh
  have hrec := hreplay.records
  obtain ⟨-, hkinds⟩ := hreplay.kinds
  refine ⟨fun l hl => ?_, hrec.first, hrec.shows_iff hkinds⟩
  obtain ⟨n, hn, hkey, hedge⟩ := hrec.linked l hl
  obtain ⟨v, hv, -, hkind, -⟩ := hrec.noted hn
  exact ⟨n, hn, hkey, (hkind.trans (kind_of_mem_reached hkinds hv)).trans (hkinds l hl).symm, hedge⟩

/-- Two parents of a merge each keep one of two variables that one line assigned. -/
def unpackedApart : Archive :=
  { commits := [
      { id := "r", files := [("x.py", "a, b = 1, 2\n".toUTF8.toList)], committed := 1 },
      { id := "a", parents := ["r"], files := [("x.py", "a = 1, 2\n".toUTF8.toList)],
        committed := 2 },
      { id := "b", parents := ["r"], files := [("x.py", "b = 1, 2\n".toUTF8.toList)],
        committed := 3 },
      { id := "m", parents := ["a", "b"], files := [("x.py", "v = 1, 2\n".toUTF8.toList)],
        committed := 4 }]
    head := "m" }

/-- The walk matches both variables on the line, and the one node for it shows the first. -/
theorem unpackedApart_tells :
    (unpackedApart.tracker "x.py" (.variableAt none "v" 1)).tells ⟨unpackedApart, {}, []⟩ (fun h =>
      ((unpackedApart.tracker "x.py" (.variableAt none "v" 1)).links ⟨unpackedApart, {}, []⟩).any
        fun l => h.nodes.any fun n => n.key = l.2.key ∧ ¬ n.Shows l.2.element) = true := by
  decide +kernel

theorem joined_shows_iff_keys_tell_apart_unpackedApart : ∃ fuel commit m e x x' h,
    (unpackedApart.tracker "x.py" (.variableAt none "v" 1)).walker.history fuel commit "x.py" m e x
      = (.ok h, x') ∧
    let seed : Active := ⟨0, commit, "x.py", m, e⟩
    let links := (unpackedApart.tracker "x.py" (.variableAt none "v" 1)).walker.linksOf fuel seed x
    (∀ l ∈ links, ∃ n ∈ h.nodes, n.key = l.2.key ∧ n.kind = l.2.element.kind ∧
      ∃ e ∈ h.edges, e.source = l.1.node ∧ e.target = n.index) ∧
    (∀ n ∈ h.nodes, ∃ v, n.Shows v.2 ∧ (reached seed links).find? (·.1 = n.key) = some v) ∧
    ((∀ l ∈ links, ∀ n ∈ h.nodes, n.key = l.2.key → n.Shows l.2.element) ↔
      KeysTellApart (reached seed links)) := by
  obtain ⟨h, x', ht, -⟩ := Tracker.exists_of_tells unpackedApart_tells
  obtain ⟨commit, m, e, x, -, hh⟩ := Tracker.history_of_track ht
  exact ⟨_, commit, m, e, x, x', h, hh, joined_shows_iff_keys_tell_apart hh⟩

theorem not_joined_shows : ¬ ∀ h x',
    (unpackedApart.tracker "x.py" (.variableAt none "v" 1)).track ⟨unpackedApart, {}, []⟩
      = (.ok h, x') →
    ∀ l ∈ (unpackedApart.tracker "x.py" (.variableAt none "v" 1)).links ⟨unpackedApart, {}, []⟩,
      ∀ n ∈ h.nodes, n.key = l.2.key → n.Shows l.2.element := by
  intro hclaim
  obtain ⟨h, x', ht, hfacts⟩ := Tracker.exists_of_tells unpackedApart_tells
  obtain ⟨l, hl, hany⟩ := List.any_eq_true.mp hfacts
  obtain ⟨n, hn, hboth⟩ := List.any_eq_true.mp hany
  obtain ⟨hkey, hshows⟩ := of_decide_eq_true hboth
  exact hshows (hclaim h x' ht l hl n hn hkey)

end Lineage
