import Lineage.Proofs.Tree.Anchors

/-!
# Trees made without recursion

The tree of a file is made by two loops, as long chains of operators nest too deep for a recursion.
The first loop takes objects from a stack and lists them, parents first; the second goes through
the list from its end and keeps the node of each object in a table, under the key of the object. An
object that is used at several places is listed at each of them. Its entry in the table is replaced
every time, also between the making of an entry and its use.

Two occurrences with one key are one object (`SyntaxObject.Coherent`). So whatever the table holds
for a key has the labels and values of the object with that key (`Table.Knows`), and only the lines
depend on the place where the entry was made. The loops give the tree of the plain recursion up to
lines, and also the lines of all objects that occur once. The trees that outlines grow into are made
in this way.
-/

namespace Lineage

/-- An object of a parsed file. Occurrences with one key are one object. The lines are missing where
the object has none of its own, or zero for one. -/
inductive SyntaxObject (κ : Type) where
  | mk (key : κ) (label value : String) (first last : Option Int) (isContext : Bool)
      (parts : List (SyntaxObject κ))

namespace SyntaxObject
variable {κ : Type} {o p q c : SyntaxObject κ}

/-- What tells this object from others. -/
def key : SyntaxObject κ → κ
  | mk key _ _ _ _ _ _ => key

/-- The class of the object. -/
def label : SyntaxObject κ → String
  | mk _ label _ _ _ _ _ => label

/-- The name, constant or list of names that the object holds besides its parts. -/
def value : SyntaxObject κ → String
  | mk _ _ value _ _ _ _ => value

/-- The first line of its own. -/
def first : SyntaxObject κ → Option Int
  | mk _ _ _ first _ _ _ => first

/-- The last line of its own. -/
def last : SyntaxObject κ → Option Int
  | mk _ _ _ _ last _ _ => last

/-- The object only says whether a name is read, bound or deleted. -/
def isContext : SyntaxObject κ → Bool
  | mk _ _ _ _ _ isContext _ => isContext

/-- The objects directly below, contexts among them. -/
def parts : SyntaxObject κ → List (SyntaxObject κ)
  | mk _ _ _ _ _ _ parts => parts

/-- The objects directly below that become nodes. -/
def children (o : SyntaxObject κ) : List (SyntaxObject κ) :=
  o.parts.filter (!·.isContext)

/-- The line the node of the object starts on, below a node that starts on `line`. -/
def start (line : Int) (o : SyntaxObject κ) : Int :=
  o.first.getD line

/-- The lines of a node of the object that starts on `start`. -/
def linesFrom (start : Int) (o : SyntaxObject κ) : LineRange :=
  ⟨start, o.last.getD start⟩

/-- What holds of an object if it holds of its children holds of every object. -/
theorem induction {P : SyntaxObject κ → Prop} (h : ∀ o, (∀ c ∈ o.children, P c) → P o)
    (o : SyntaxObject κ) : P o := by
  have hlt : ∀ c ∈ o.children, sizeOf c < sizeOf o := by
    intro c hc
    have hmem := (List.mem_filter.mp hc).1
    cases o
    have := List.sizeOf_lt_of_mem hmem
    simp only [mk.sizeOf_spec, parts] at this ⊢
    omega
  exact h o fun c hc => induction h c
termination_by sizeOf o
decreasing_by exact hlt c hc

/-! ### The plain recursion -/

mutual

/-- The tree of an object below a node that starts on `line`. -/
def translate (line : Int) : SyntaxObject κ → Tree
  | mk _ label value first last _ parts =>
    .node 0 label value ⟨first.getD line, last.getD (first.getD line)⟩
      (translateParts (first.getD line) parts)

/-- The trees of those objects that are no contexts. -/
def translateParts (line : Int) : List (SyntaxObject κ) → List Tree
  | [] => []
  | part :: parts =>
    if part.isContext then translateParts line parts
    else part.translate line :: translateParts line parts

end

mutual

/-- The object and all that is below, parents first, an object used twice listed twice. -/
def occurrences : SyntaxObject κ → List (SyntaxObject κ)
  | mk key label value first last isContext parts =>
    mk key label value first last isContext parts :: occurrencesOf parts

/-- The occurrences in those objects that are no contexts. -/
def occurrencesOf : List (SyntaxObject κ) → List (SyntaxObject κ)
  | [] => []
  | part :: parts =>
    if part.isContext then occurrencesOf parts else part.occurrences ++ occurrencesOf parts

end

theorem translateParts_eq (line : Int) (parts : List (SyntaxObject κ)) :
    translateParts line parts = (parts.filter (!·.isContext)).map (translate line) := by
  induction parts with
  | nil => rfl
  | cons part parts ih =>
    rw [translateParts, List.filter_cons]
    by_cases hcontext : part.isContext = true
    · simp only [hcontext, if_true, Bool.not_true, Bool.false_eq_true, if_false, ih]
    · rw [Bool.not_eq_true] at hcontext
      simp only [hcontext, Bool.false_eq_true, if_false, Bool.not_false, if_true, List.map_cons, ih]

theorem occurrencesOf_eq (parts : List (SyntaxObject κ)) :
    occurrencesOf parts = (parts.filter (!·.isContext)).flatMap occurrences := by
  induction parts with
  | nil => rfl
  | cons part parts ih =>
    rw [occurrencesOf, List.filter_cons]
    by_cases hcontext : part.isContext = true
    · simp only [hcontext, if_true, Bool.not_true, Bool.false_eq_true, if_false, ih]
    · rw [Bool.not_eq_true] at hcontext
      simp only [hcontext, Bool.false_eq_true, if_false, Bool.not_false, if_true,
        List.flatMap_cons, ih]

theorem translate_eq (line : Int) (o : SyntaxObject κ) :
    o.translate line = .node 0 o.label o.value (o.linesFrom (o.start line))
      (o.children.map (translate (o.start line))) := by
  cases o
  rw [translate, translateParts_eq]
  rfl

theorem sound_translate (line : Int) (o : SyntaxObject κ) : (o.translate line).Sound Tree.hash := by
  induction o using induction generalizing line with
  | h o ih =>
    rw [translate_eq]
    refine Tree.sound_node fun t ht => ?_
    obtain ⟨c, hc, rfl⟩ := List.mem_map.mp ht
    exact ih c hc _

theorem occurrences_eq (o : SyntaxObject κ) :
    o.occurrences = o :: o.children.flatMap occurrences := by
  cases o
  rw [occurrences, occurrencesOf_eq]
  rfl

theorem mem_occurrences_self (o : SyntaxObject κ) : o ∈ o.occurrences := by
  rw [occurrences_eq]
  exact List.mem_cons_self

theorem sublist_flatMap_occurrences (hc : c ∈ o.children) :
    c.occurrences.Sublist (o.children.flatMap occurrences) := by
  have h := (List.singleton_sublist.mpr hc).flatMap occurrences
  rwa [List.flatMap_singleton] at h

/-- Nothing is below itself. -/
theorem length_occurrences_lt (hq : q ∈ o.children.flatMap occurrences) :
    q.occurrences.length < o.occurrences.length := by
  induction o using induction with
  | h o ih =>
    obtain ⟨c, hc, hq⟩ := List.mem_flatMap.mp hq
    have hlt : c.occurrences.length < o.occurrences.length := by
      rw [occurrences_eq o, List.length_cons]
      exact Nat.lt_succ_of_le (sublist_flatMap_occurrences hc).length_le
    rw [occurrences_eq c] at hq
    rcases List.mem_cons.mp hq with rfl | hq
    · exact hlt
    · exact (ih c hc hq).trans hlt

/-- The object at a position, which says at each level the number of the child to go down to. -/
def at? : List Nat → SyntaxObject κ → Option (SyntaxObject κ)
  | [], o => some o
  | i :: position, o => o.children[i]?.bind (at? position)

/-- The keys of all occurrences. -/
def keys (o : SyntaxObject κ) : List κ := o.occurrences.map key

/-- Occurrences with one key are one object. -/
def Coherent (root : SyntaxObject κ) : Prop :=
  ∀ o ∈ root.occurrences, ∀ q ∈ root.occurrences, o.key = q.key → o = q

/-- The root occurs once. -/
theorem Coherent.count_key [DecidableEq κ] {root : SyntaxObject κ} (h : root.Coherent) :
    root.keys.count root.key = 1 := by
  have hbelow : root.key ∉ (root.children.flatMap occurrences).map key := by
    intro hmem
    obtain ⟨q, hq, hkey⟩ := List.mem_map.mp hmem
    have hroot : q ∈ root.occurrences := by
      rw [occurrences_eq]
      exact List.mem_cons_of_mem _ hq
    obtain rfl := h q hroot root root.mem_occurrences_self hkey
    exact Nat.lt_irrefl _ (length_occurrences_lt hq)
  rw [keys, occurrences_eq, List.map_cons, List.count_cons_self,
    List.count_eq_zero_of_not_mem hbelow]

/-! ### The two loops -/

/-- Takes objects from a stack, lists each with the line it starts on, and puts its children on the
stack, the last of them on top. -/
def discover : List (SyntaxObject κ × Int) → List (SyntaxObject κ × Int)
  | [] => []
  | (o, line) :: pending =>
    (o, o.start line) :: discover ((o.children.map (·, o.start line)).reverse ++ pending)
termination_by pending => (pending.flatMap (·.1.occurrences)).length
decreasing_by
  rw [List.flatMap_append, List.flatMap_cons, List.length_append, List.length_append,
    occurrences_eq o, List.length_cons, List.length_flatMap, List.map_reverse, List.sum_reverse,
    List.map_map, List.length_flatMap (l := o.children)]
  simp only [Function.comp_def]
  omega

/-- The objects on top of a stack are listed with all that is below them before the others. -/
theorem discover_append (pending later : List (SyntaxObject κ × Int)) :
    discover (pending ++ later) = discover pending ++ discover later := by
  induction pending using discover.induct with
  | case1 => rw [discover, List.nil_append, List.nil_append]
  | case2 o line pending ih =>
    rw [List.append_assoc] at ih
    rw [List.cons_append, discover, discover, ih, List.cons_append]

/-- What the second loop goes through: the list of the first in reverse. -/
def visits (line : Int) (o : SyntaxObject κ) : List (SyntaxObject κ × Int) :=
  (discover [(o, line)]).reverse

theorem reverse_discover (line : Int) (os : List (SyntaxObject κ)) :
    (discover (os.map (·, line)).reverse).reverse = os.flatMap (visits line) := by
  induction os with
  | nil => simp only [List.map_nil, List.reverse_nil, discover, List.flatMap_nil]
  | cons o os ih =>
    rw [List.map_cons, List.reverse_cons, discover_append, List.reverse_append, ih,
      List.flatMap_cons, visits]

/-- The second loop comes to the children from left to right, then to the object. -/
theorem visits_eq (line : Int) (o : SyntaxObject κ) :
    o.visits line = o.children.flatMap (visits (o.start line)) ++ [(o, o.start line)] := by
  rw [visits, discover, List.append_nil, List.reverse_cons, reverse_discover]

/-- The nodes made so far under the keys of their objects, the latest first. -/
abbrev Table (κ : Type) := List (κ × Tree)

variable [DecidableEq κ]

theorem Table.lookup_cons_ne {k k' : κ} (hne : k ≠ k') (t : Tree) (table : Table κ) :
    List.lookup k ((k', t) :: table) = table.lookup k := by
  rw [List.lookup_cons, beq_false_of_ne hne]

/-- Makes the node of an object from those that the table holds for its children. -/
def enter (table : Table κ) (visit : SyntaxObject κ × Int) : Option (Table κ) := do
  let children ← visit.1.children.mapM (table.lookup ·.key)
  some ((visit.1.key, .node table.length visit.1.label visit.1.value
    (visit.1.linesFrom visit.2) children) :: table)

/-- The table after the two loops, and the node that it holds for the root. Nothing is returned
where the table lacks a node that is looked up. -/
def convert (line : Int) (root : SyntaxObject κ) (table : Table κ) : Option (Table κ × Tree) := do
  let table ← (root.visits line).foldlM enter table
  let t ← table.lookup root.key
  some (table, t)

/-! ### What the table holds -/

/-- A tree stands for an object, wherever the object is used: it has the labels, values and child
order of the plain recursion, and every object below that occurs once has its own line or that of
its parent. -/
structure Renders (once : κ → Prop) (o : SyntaxObject κ) (t : Tree) : Prop where
  sound : t.Sound Tree.hash
  alike : ∀ line, t.Alike (o.translate line)
  placed : ∀ (position : List Nat) (p : SyntaxObject κ) (i : Nat) (c : SyntaxObject κ),
    o.at? position = some p → p.children[i]? = some c → once c.key →
    ∃ m n : Tree, t.at? position = some m ∧ m.children[i]? = some n ∧
      n.lines.first = c.start m.lines.first

/-- The table holds a tree of the object. -/
def Table.Knows (once : κ → Prop) (table : Table κ) (o : SyntaxObject κ) : Prop :=
  ∃ t, table.lookup o.key = some t ∧ Renders once o t

/-- The loop has gone through objects with the start line `line` above them. -/
structure Filled (once : κ → Prop) (line : Int) (os : List (SyntaxObject κ))
    (table table' : Table κ) : Prop where
  knows : ∀ q ∈ os.flatMap occurrences, table'.Knows once q
  placed : ∀ o ∈ os, once o.key → ∃ t, table'.lookup o.key = some t ∧
    t.lines.first = o.start line
  keeps : ∀ k ∉ (os.flatMap occurrences).map key, table'.lookup k = table.lookup k

variable {once : κ → Prop} {line : Int} {os : List (SyntaxObject κ)} {ts : List Tree}

omit [DecidableEq κ] in
/-- A node over trees that stand for the children of an object stands for the object. -/
theorem renders_node (id : Nat)
    (h : List.Forall₂ (fun c t => Renders once c t ∧
      (once c.key → t.lines.first = c.start (o.start line))) o.children ts) :
    Renders once o (.node id o.label o.value (o.linesFrom (o.start line)) ts) := by
  refine ⟨Tree.sound_node ?_, fun line' => ?_, ?_⟩
  · intro t ht
    obtain ⟨c, hc⟩ := exists_mem_zip_of_mem_right h.length_eq ht
    exact ((List.forall₂_iff_zip.mp h).2 hc).1.sound
  · have hshapes : ts.map Tree.shape
        = (o.children.map (translate (o.start line'))).map Tree.shape := by
      generalize o.children = cs at h
      induction h with
      | nil => rfl
      | cons hfirst _ ih =>
        rw [List.map_cons, List.map_cons, List.map_cons, ih]
        exact congrArg (· :: _) (Tree.alike_iff.mp (hfirst.1.alike _))
    rw [Tree.alike_iff, translate_eq, Tree.shape_eq_iff]
    exact ⟨rfl, rfl, hshapes⟩
  · intro position p i c hp hc honce
    cases position with
    | nil =>
      obtain rfl := Option.some.inj hp
      obtain ⟨hi, rfl⟩ := List.getElem?_eq_some_iff.mp hc
      have hi' : i < ts.length := h.length_eq ▸ hi
      exact ⟨_, ts[i], rfl, List.getElem?_eq_getElem hi', (h.get hi hi').2 honce⟩
    | cons j position =>
      obtain ⟨d, hd, hp⟩ := Option.bind_eq_some_iff.mp hp
      obtain ⟨hj, rfl⟩ := List.getElem?_eq_some_iff.mp hd
      have hj' : j < ts.length := h.length_eq ▸ hj
      obtain ⟨m, n, hm, hn⟩ := (h.get hj hj').1.placed position p i c hp hc honce
      refine ⟨m, n, ?_, hn⟩
      rw [Tree.at?]
      exact Option.bind_eq_some_iff.mpr ⟨ts[j], List.getElem?_eq_getElem hj', hm⟩

omit [DecidableEq κ] in
/-- Where every element has a result with a property, all of them together have results. -/
theorem exists_mapM {f : SyntaxObject κ → Option Tree} {R : SyntaxObject κ → Tree → Prop}
    (h : ∀ o ∈ os, ∃ t, f o = some t ∧ R o t) :
    ∃ ts, os.mapM f = some ts ∧ List.Forall₂ R os ts := by
  induction os with
  | nil => exact ⟨[], rfl, .nil⟩
  | cons o os ih =>
    obtain ⟨⟨t, ht, hR⟩, hrest⟩ := List.forall_mem_cons.mp h
    obtain ⟨ts, hts, hall⟩ := ih hrest
    refine ⟨t :: ts, ?_, .cons hR hall⟩
    rw [List.mapM_cons, ht, hts]
    rfl

variable {root : SyntaxObject κ} (hroot : root.Coherent)
include hroot

/-- The objects are gone through one after the other: what the table knows of the first it also
knows afterwards, if with a later tree. -/
theorem filled_cons {table table₁ table₂ : Table κ}
    (hmem : (o :: os).flatMap occurrences ⊆ root.occurrences)
    (honce : ∀ k, once k → (((o :: os).flatMap occurrences).map key).count k ≤ 1)
    (hfirst : Filled once line [o] table table₁) (hrest : Filled once line os table₁ table₂) :
    Filled once line (o :: os) table table₂ := by
  have hhere := hfirst.knows
  have hkeys := hfirst.keeps
  rw [List.flatMap_singleton] at hhere hkeys
  rw [List.flatMap_cons] at hmem honce
  constructor
  · intro q hq
    rw [List.flatMap_cons] at hq
    by_cases hlater : q.key ∈ (os.flatMap occurrences).map key
    · -- the entry was replaced, by a tree of the same object
      obtain ⟨q', hq', hkey⟩ := List.mem_map.mp hlater
      obtain rfl := hroot q' (hmem (List.mem_append_right _ hq')) q (hmem hq) hkey
      exact hrest.knows q' hq'
    · rcases List.mem_append.mp hq with hq | hq
      · obtain ⟨t, ht, hrenders⟩ := hhere q hq
        exact ⟨t, (hrest.keeps _ hlater).trans ht, hrenders⟩
      · exact hrest.knows q hq
  · intro c hc hconce
    rcases List.mem_cons.mp hc with rfl | hc
    · -- an object that occurs once is not made again
      have hlater : c.key ∉ (os.flatMap occurrences).map key := by
        intro hlater
        have hself : c.key ∈ c.occurrences.map key := List.mem_map_of_mem c.mem_occurrences_self
        have hle := honce c.key hconce
        rw [List.map_append, List.count_append] at hle
        have := List.count_pos_iff.mpr hself
        have := List.count_pos_iff.mpr hlater
        omega
      obtain ⟨t, ht, hplaced⟩ := hfirst.placed c List.mem_cons_self hconce
      exact ⟨t, (hrest.keeps _ hlater).trans ht, hplaced⟩
    · exact hrest.placed c hc hconce
  · intro k hk
    rw [List.flatMap_cons, List.map_append, List.mem_append, not_or] at hk
    exact (hrest.keeps k hk.2).trans (hkeys k hk.1)

/-- The objects are gone through in a run without a failure if each of them is. -/
theorem exists_filled (hmem : os.flatMap occurrences ⊆ root.occurrences)
    (honce : ∀ k, once k → ((os.flatMap occurrences).map key).count k ≤ 1)
    (heach : ∀ o ∈ os, ∀ table : Table κ,
      ∃ table', (o.visits line).foldlM enter table = some table' ∧
        Filled once line [o] table table') (table : Table κ) :
    ∃ table', (os.flatMap (visits line)).foldlM enter table = some table' ∧
      Filled once line os table table' := by
  induction os generalizing table with
  | nil => exact ⟨table, rfl, fun _ h => (nomatch h), fun _ h => (nomatch h), fun _ _ => rfl⟩
  | cons o os ih =>
    obtain ⟨hfirst, hrest⟩ := List.forall_mem_cons.mp heach
    obtain ⟨table₁, hrun₁, hfilled₁⟩ := hfirst table
    have hmem' : os.flatMap occurrences ⊆ root.occurrences := fun q hq =>
      hmem (List.mem_append_right _ hq)
    have honce' : ∀ k, once k → ((os.flatMap occurrences).map key).count k ≤ 1 := by
      intro k hk
      have hle := honce k hk
      rw [List.flatMap_cons, List.map_append, List.count_append] at hle
      omega
    obtain ⟨table₂, hrun₂, hfilled₂⟩ := ih hmem' honce' hrest table₁
    refine ⟨table₂, ?_, filled_cons hroot hmem honce hfilled₁ hfilled₂⟩
    rw [List.flatMap_cons, List.foldlM_append, hrun₁]
    exact hrun₂

/-- Once its children have been gone through, an object gets its node, on the right line. -/
theorem filled_enter {table table₁ : Table κ} (hmem : o.occurrences ⊆ root.occurrences)
    (h : Filled once (o.start line) o.children table table₁) :
    ∃ ts, enter table₁ (o, o.start line) = some ((o.key, .node table₁.length o.label o.value
        (o.linesFrom (o.start line)) ts) :: table₁) ∧
      Filled once line [o] table ((o.key, .node table₁.length o.label o.value
        (o.linesFrom (o.start line)) ts) :: table₁) := by
  have hchildren : ∀ c ∈ o.children, ∃ t, table₁.lookup c.key = some t ∧
      (Renders once c t ∧ (once c.key → t.lines.first = c.start (o.start line))) := by
    intro c hc
    obtain ⟨t, ht, hrenders⟩ := h.knows c (List.mem_flatMap.mpr ⟨c, hc, c.mem_occurrences_self⟩)
    refine ⟨t, ht, hrenders, fun hconce => ?_⟩
    obtain ⟨t', ht', hplaced⟩ := h.placed c hc hconce
    obtain rfl := Option.some.inj (ht.symm.trans ht')
    exact hplaced
  obtain ⟨ts, hts, hall⟩ := exists_mapM hchildren
  have hnode := renders_node table₁.length hall
  refine ⟨ts, ?_, ?_, ?_, ?_⟩
  · rw [enter, hts]
    rfl
  · intro q hq
    rw [List.flatMap_singleton] at hq
    by_cases hkey : q.key = o.key
    · obtain rfl := hroot q (hmem hq) o (hmem o.mem_occurrences_self) hkey
      exact ⟨_, List.lookup_cons_self, hnode⟩
    · have hbelow : q ∈ o.children.flatMap occurrences := by
        rw [occurrences_eq] at hq
        rcases List.mem_cons.mp hq with rfl | hq
        · exact absurd rfl hkey
        · exact hq
      obtain ⟨t, ht, hrenders⟩ := h.knows q hbelow
      exact ⟨t, (Table.lookup_cons_ne hkey _ _).trans ht, hrenders⟩
  · intro q hq _
    obtain rfl := List.mem_singleton.mp hq
    exact ⟨_, List.lookup_cons_self, rfl⟩
  · intro k hk
    rw [List.flatMap_singleton, occurrences_eq, List.map_cons, List.mem_cons, not_or] at hk
    exact (Table.lookup_cons_ne hk.1 _ _).trans (h.keeps k hk.2)

/-- **What the table holds after an object has been gone through**, wherever the loop is. -/
theorem visits_filled (o : SyntaxObject κ) (hmem : o.occurrences ⊆ root.occurrences)
    (honce : ∀ k, once k → o.keys.count k ≤ 1) (line : Int) (table : Table κ) :
    ∃ table', (o.visits line).foldlM enter table = some table' ∧
      Filled once line [o] table table' := by
  induction o using induction generalizing line table with
  | h o ih =>
    rw [keys, occurrences_eq, List.map_cons] at honce
    have hbelow : o.children.flatMap occurrences ⊆ root.occurrences := by
      intro q hq
      rw [occurrences_eq] at hmem
      exact hmem (List.mem_cons_of_mem _ hq)
    have honce' : ∀ k, once k → ((o.children.flatMap occurrences).map key).count k ≤ 1 :=
      fun k hk => List.count_le_count_cons.trans (honce k hk)
    have heach : ∀ c ∈ o.children, ∀ table : Table κ,
        ∃ table', (c.visits (o.start line)).foldlM enter table = some table' ∧
          Filled once (o.start line) [c] table table' := by
      intro c hc
      have hsublist := sublist_flatMap_occurrences hc
      refine ih c hc (fun q hq => hbelow (hsublist.subset hq)) (fun k hk => ?_) (o.start line)
      exact ((hsublist.map key).count_le k).trans (honce' k hk)
    obtain ⟨table₁, hrun, hfilled⟩ := exists_filled hroot hbelow honce' heach table
    obtain ⟨ts, henter, hfilled⟩ := filled_enter hroot hmem hfilled
    refine ⟨_, ?_, hfilled⟩
    rw [visits_eq, List.foldlM_append, hrun]
    show [(o, o.start line)].foldlM enter table₁ = _
    rw [List.foldlM_cons, henter]
    rfl

/-- **The loops return the tree of the plain recursion**, up to the lines of what is shared. They
never miss a node, whatever the table held before. -/
theorem exists_convert (line : Int) (table : Table κ) :
    ∃ table' t, root.convert line table = some (table', t) ∧ t.lines.first = root.start line ∧
      Renders (root.keys.count · = 1) root t := by
  have honce : ∀ k, root.keys.count k = 1 → root.keys.count k ≤ 1 := fun k hk => hk.le
  obtain ⟨table', hrun, hfilled⟩ :=
    visits_filled hroot root (List.Subset.refl _) honce line table
  obtain ⟨t, ht, hplaced⟩ := hfilled.placed root List.mem_cons_self hroot.count_key
  have hmem : root ∈ [root].flatMap occurrences := by
    rw [List.flatMap_singleton]
    exact root.mem_occurrences_self
  obtain ⟨t', ht', hrenders⟩ := hfilled.knows root hmem
  obtain rfl := Option.some.inj (ht.symm.trans ht')
  refine ⟨table', t, ?_, hplaced, hrenders⟩
  rw [convert, hrun]
  show (table'.lookup root.key).bind (fun t => some (table', t)) = _
  rw [ht]
  rfl

end SyntaxObject

end Lineage
