import Lineage.Proofs.Tree.Conversion
import Lineage.Proofs.Tree.Growth

/-!
# Outlines grow as the loops make trees

An outline stands for objects (`Outline.object`): its nodes are numbered in the order in which they
are made, and all places of an operator are one object. No two nodes have one number, so the objects
are coherent. While an outline grows, the nursery keeps what the table of the loops holds
(`Nursery.Follows`): a finished node is found under its number for good, and an operator under its
label as the latest that was made. Growth therefore ends with the tree that the loops return.
-/

namespace Lineage

namespace Outline

/-! ### The objects of an outline -/

/-- What tells the objects of an outline apart: a number, or the class of an operator. -/
inductive Key where
  | own (number : Nat)
  | operator (label : String)
  deriving DecidableEq

mutual

/-- The number of nodes. -/
def count : Outline → Nat
  | node _ _ _ children => countAll children + 1
  | interned _ => 1

/-- The number of nodes of the outlines. -/
def countAll : List Outline → Nat
  | [] => 0
  | o :: os => o.count + countAll os

end

/-- The object that all places of an operator share. -/
def operatorObject (label : String) : SyntaxObject Key :=
  .mk (.operator label) label "" none none false []

mutual

/-- The object of an outline, the nodes numbered from `n` on, children first. -/
def object (n : Nat) : Outline → SyntaxObject Key
  | node label value lines children =>
    .mk (.own (n + countAll children)) label value (lines.map (·.first)) (lines.map (·.last)) false
      (objects n children)
  | interned label => operatorObject label

/-- The objects of outlines. -/
def objects (n : Nat) : List Outline → List (SyntaxObject Key)
  | [] => []
  | o :: os => o.object n :: objects (n + o.count) os

end

/-- No object of an outline is a context. -/
theorem isContext_object (n : Nat) (o : Outline) : (o.object n).isContext = false := by
  cases o <;> rfl

theorem isContext_of_mem_objects {n : Nat} {os : List Outline} {q : SyntaxObject Key}
    (hq : q ∈ objects n os) : q.isContext = false := by
  induction os generalizing n with
  | nil => exact absurd hq List.not_mem_nil
  | cons o os ih =>
    rcases List.mem_cons.mp hq with rfl | hq
    · exact isContext_object n o
    · exact ih hq

theorem children_object_node (n : Nat) (label value : String) (lines : Option LineRange)
    (children : List Outline) :
    ((node label value lines children).object n).children = objects n children := by
  refine List.filter_eq_self.mpr fun q hq => ?_
  rw [isContext_of_mem_objects hq]
  rfl

/-- Objects are operators or numbered from `n` up to `m`, no two with one number. -/
structure Numbered (n m : Nat) (qs : List (SyntaxObject Key)) : Prop where
  le : n ≤ m
  cases : ∀ q ∈ qs, (∃ label, q = operatorObject label) ∨ ∃ i, q.key = .own i ∧ n ≤ i ∧ i < m
  unique : ∀ q ∈ qs, ∀ r ∈ qs, ∀ i, q.key = .own i → r.key = .own i → q = r

theorem Numbered.number_lt {n m i : Nat} {qs : List (SyntaxObject Key)} (h : Numbered n m qs)
    {q : SyntaxObject Key} (hq : q ∈ qs) (hi : q.key = .own i) : n ≤ i ∧ i < m := by
  rcases h.cases q hq with ⟨label, rfl⟩ | ⟨j, hj, hle, hlt⟩
  · cases hi
  · cases hj.symm.trans hi
    exact ⟨hle, hlt⟩

theorem Numbered.append {n m k : Nat} {qs rs : List (SyntaxObject Key)} (hq : Numbered n m qs)
    (hr : Numbered m k rs) : Numbered n k (qs ++ rs) := by
  refine ⟨hq.le.trans hr.le, fun q hmem => ?_, fun q hmem r hmem' i hi hi' => ?_⟩
  · rcases List.mem_append.mp hmem with hmem | hmem
    · exact (hq.cases q hmem).imp_right fun ⟨i, hi, hle, hlt⟩ =>
        ⟨i, hi, hle, hlt.trans_le hr.le⟩
    · exact (hr.cases q hmem).imp_right fun ⟨i, hi, hle, hlt⟩ => ⟨i, hi, hq.le.trans hle, hlt⟩
  · rcases List.mem_append.mp hmem with hmem | hmem <;>
      rcases List.mem_append.mp hmem' with hmem' | hmem'
    · exact hq.unique q hmem r hmem' i hi hi'
    · have := hq.number_lt hmem hi
      have := hr.number_lt hmem' hi'
      omega
    · have := hr.number_lt hmem hi
      have := hq.number_lt hmem' hi'
      omega
    · exact hr.unique q hmem r hmem' i hi hi'

theorem numbered_singleton {q : SyntaxObject Key} {n : Nat} (hq : q.key = .own n) :
    Numbered n (n + 1) [q] := by
  refine ⟨Nat.le_succ n, fun r hr => ?_, fun r hr r' hr' _ _ _ => ?_⟩
  · obtain rfl := List.mem_singleton.mp hr
    exact .inr ⟨n, hq, Nat.le_refl n, Nat.lt_succ_self n⟩
  · rw [List.mem_singleton.mp hr, List.mem_singleton.mp hr']

theorem Numbered.perm {n m : Nat} {qs rs : List (SyntaxObject Key)} (h : Numbered n m qs)
    (hperm : qs.Perm rs) : Numbered n m rs :=
  ⟨h.le, fun q hq => h.cases q (hperm.mem_iff.mpr hq), fun q hq r hr =>
    h.unique q (hperm.mem_iff.mpr hq) r (hperm.mem_iff.mpr hr)⟩

mutual

theorem numbered_object (n : Nat) (o : Outline) :
    Numbered n (n + o.count) (o.object n).occurrences := by
  cases o with
  | node label value lines children =>
    rw [SyntaxObject.occurrences_eq, children_object_node]
    have hbelow := numbered_objects n children
    have hself : Numbered (n + countAll children) (n + countAll children + 1)
        [(node label value lines children).object n] := numbered_singleton rfl
    exact (hbelow.append hself).perm (List.perm_append_singleton _ _)
  | interned label =>
    refine ⟨Nat.le_succ n, fun q hq => ?_, fun q hq r hr i hi => ?_⟩ <;>
      obtain rfl := List.mem_singleton.mp hq
    · exact .inl ⟨label, rfl⟩
    · cases hi

theorem numbered_objects (n : Nat) (os : List Outline) :
    Numbered n (n + countAll os) ((objects n os).flatMap SyntaxObject.occurrences) := by
  cases os with
  | nil => exact ⟨Nat.le_refl n, fun _ h => (nomatch h), fun _ h => (nomatch h)⟩
  | cons o os =>
    rw [objects, List.flatMap_cons, countAll, ← Nat.add_assoc]
    exact (numbered_object n o).append (numbered_objects (n + o.count) os)

end

/-- Outlines share no objects but operators. -/
theorem coherent_object (n : Nat) (o : Outline) : (o.object n).Coherent := by
  intro q hq r hr hkey
  have h := numbered_object n o
  rcases h.cases q hq with ⟨label, rfl⟩ | ⟨i, hi, -⟩
  · rcases h.cases r hr with ⟨label', rfl⟩ | ⟨i, hi, -⟩
    · cases hkey
      rfl
    · cases hkey.trans hi
  · exact h.unique q hq r hr i hi (hkey.symm.trans hi)

/-! ### Growth is the loop over the objects -/

namespace Nursery
variable {n : Nursery} {table : SyntaxObject.Table Key}

/-- The table holds as many nodes as a nursery has made, and its operators. -/
structure Follows (n : Nursery) (table : SyntaxObject.Table Key) : Prop where
  count : table.length = n.count
  operator : ∀ label, table.lookup (.operator label) = n.operator? label

theorem follows_empty : empty.Follows [] := ⟨rfl, fun _ => rfl⟩

theorem Follows.make (h : n.Follows table) (i : Nat) (t : Tree) :
    Follows ⟨n.count + 1, n.operators⟩ ((.own i, t) :: table) := by
  refine ⟨congrArg (· + 1) h.count, fun label => ?_⟩
  have hne : Key.operator label ≠ .own i := fun heq => by cases heq
  exact (SyntaxObject.Table.lookup_cons_ne hne t table).trans (h.operator label)

theorem lookup_filter_ne {label label' : String} (hne : label' ≠ label)
    (operators : List (String × Tree)) :
    (operators.filter (·.1 != label)).lookup label' = operators.lookup label' := by
  induction operators with
  | nil => rfl
  | cons p operators ih =>
    by_cases hp : p.1 = label
    · have hdrop : (p.1 != label) = false := bne_eq_false_iff_eq.mpr hp
      rw [List.filter_cons, hdrop, if_neg Bool.false_ne_true, ih, List.lookup_cons,
        beq_false_of_ne (hp ▸ hne)]
    · have hkeep : (p.1 != label) = true := bne_iff_ne.mpr hp
      rw [List.filter_cons, hkeep, if_pos rfl, List.lookup_cons, List.lookup_cons, ih]

theorem Follows.renew (h : n.Follows table) (label : String) (line : Int) :
    (n.renew label line).Follows
      ((.operator label, .node table.length label "" ⟨line, line⟩ []) :: table) := by
  refine ⟨congrArg (· + 1) h.count, fun label' => ?_⟩
  rw [operator?, Nursery.renew, Nursery.make, h.count]
  by_cases heq : label' = label
  · subst heq
    rw [List.lookup_cons_self, List.lookup_cons_self]
  · have hkey : Key.operator label' ≠ Key.operator label := fun h => heq (Key.operator.inj h)
    rw [SyntaxObject.Table.lookup_cons_ne hkey, List.lookup_cons, beq_false_of_ne heq]
    exact (h.operator label').trans (lookup_filter_ne heq _).symm

end Nursery

mutual

/-- Growth makes the nodes of an outline. -/
theorem count_grow (line : Int) (o : Outline) (n : Nursery) :
    (o.grow line n).2.count = n.count + o.count := by
  cases o with
  | node label value lines children =>
    exact congrArg (· + 1) (count_growAll (lines.getD ⟨line, line⟩).first children n)
  | interned label => rfl

theorem count_growAll (line : Int) (os : List Outline) (n : Nursery) :
    (growAll line os n).2.count = n.count + countAll os := by
  cases os with
  | nil => rfl
  | cons o os =>
    have hfirst := count_grow line o n
    have hrest := count_growAll line os (o.grow line n).2
    rw [hfirst, Nat.add_assoc] at hrest
    exact hrest

end

open SyntaxObject (visits enter Table)

/-- The nursery and the table have made the same of some outlines and their objects, and what they
find for them stays the same: numbers are not given again, and operators are renewed in both. -/
structure Agrees (n : Nursery) (table : Table Key) (qs : List (SyntaxObject Key))
    (shoots : List Shoot) (n' : Nursery) (table' : Table Key) : Prop where
  follows : n'.Follows table'
  le : n.count ≤ n'.count
  keeps : ∀ i < n.count, table'.lookup (.own i) = table.lookup (.own i)
  found : ∀ (later : Nursery) (table'' : Table Key), later.Follows table'' →
    (∀ i < n'.count, table''.lookup (.own i) = table'.lookup (.own i)) →
    qs.map (table''.lookup ·.key) = shoots.map (·.tree? later)

theorem Agrees.cons {n n₁ n₂ : Nursery} {table table₁ table₂ : Table Key} {q : SyntaxObject Key}
    {qs : List (SyntaxObject Key)} {shoot : Shoot} {shoots : List Shoot}
    (hfirst : Agrees n table [q] [shoot] n₁ table₁)
    (hrest : Agrees n₁ table₁ qs shoots n₂ table₂) :
    Agrees n table (q :: qs) (shoot :: shoots) n₂ table₂ := by
  refine ⟨hrest.follows, hfirst.le.trans hrest.le, fun i hi => ?_,
    fun later table' hlater hkeeps => ?_⟩
  · exact (hrest.keeps i (hi.trans_le hfirst.le)).trans (hfirst.keeps i hi)
  · have hhead := hfirst.found later table' hlater fun i hi =>
      (hkeeps i (hi.trans_le hrest.le)).trans (hrest.keeps i hi)
    have htail := hrest.found later table' hlater hkeeps
    rw [List.map_cons, List.map_cons, htail]
    exact congrArg (· ++ _) hhead

/-- What is found for all of a list is found by those who look for the same. -/
theorem filterMap_of_mapM {qs : List (SyntaxObject Key)} {f : SyntaxObject Key → Option Tree}
    {shoots : List Shoot} {g : Shoot → Option Tree} {ts : List Tree} (hts : qs.mapM f = some ts)
    (hsame : qs.map f = shoots.map g) : shoots.filterMap g = ts := by
  induction qs generalizing shoots ts with
  | nil =>
    obtain rfl := List.map_eq_nil_iff.mp hsame.symm
    exact Option.some.inj hts
  | cons q qs ih =>
    obtain ⟨shoot, shoots, rfl, hhead, htail⟩ := List.map_eq_cons_iff.mp hsame.symm
    rw [List.mapM_cons] at hts
    obtain ⟨t, ht, hts⟩ := Option.bind_eq_some_iff.mp hts
    obtain ⟨ts, hrest, heq⟩ := Option.bind_eq_some_iff.mp hts
    obtain rfl := Option.some.inj heq
    rw [List.filterMap_cons_some (hhead.trans ht), ih hrest htail.symm]

/-- A finished run of the loop ends with the object itself. -/
theorem enter_of_visits {q : SyntaxObject Key} {line : Int} {table table' : Table Key}
    (hrun : (q.visits line).foldlM enter table = some table') :
    ∃ table₁ ts, (q.children.flatMap (visits (q.start line))).foldlM enter table = some table₁ ∧
      q.children.mapM (table₁.lookup ·.key) = some ts ∧
      table' = (q.key, .node table₁.length q.label q.value (q.linesFrom (q.start line)) ts)
        :: table₁ := by
  rw [SyntaxObject.visits_eq, List.foldlM_append] at hrun
  obtain ⟨table₁, hbelow, hrun⟩ := Option.bind_eq_some_iff.mp hrun
  rw [List.foldlM_cons] at hrun
  obtain ⟨table₂, henter, hrun⟩ := Option.bind_eq_some_iff.mp hrun
  obtain rfl := Option.some.inj hrun
  obtain ⟨ts, hts, heq⟩ := Option.bind_eq_some_iff.mp henter
  exact ⟨table₁, ts, hbelow, hts, (Option.some.inj heq).symm⟩

mutual

theorem grow_agrees (line : Int) (o : Outline) {n : Nursery} {table table' : Table Key}
    (hn : n.Follows table)
    (hrun : ((o.object n.count).visits line).foldlM enter table = some table') :
    Agrees n table [o.object n.count] [(o.grow line n).1] (o.grow line n).2 table' := by
  obtain ⟨table₁, ts, hbelow, hts, rfl⟩ := enter_of_visits hrun
  cases o with
  | node label value lines children =>
    rw [children_object_node] at hbelow hts
    have hstart : ((node label value lines children).object n.count).start line
        = (lines.getD ⟨line, line⟩).first := by
      cases lines <;> rfl
    have hlines : ((node label value lines children).object n.count).linesFrom
        (lines.getD ⟨line, line⟩).first = lines.getD ⟨line, line⟩ := by
      cases lines <;> rfl
    rw [hstart] at hbelow ⊢
    rw [hlines]
    have hall := growAll_agrees (lines.getD ⟨line, line⟩).first children hn hbelow
    have hcount := count_growAll (lines.getD ⟨line, line⟩).first children n
    have htrees := filterMap_of_mapM hts (hall.found _ _ hall.follows fun _ _ => rfl)
    rw [← htrees, hall.follows.count]
    refine ⟨hall.follows.make _ _, hall.le.trans (Nat.le_succ _), fun i hi => ?_,
      fun later table'' hlater hkeeps => ?_⟩
    · have hne : Key.own i ≠ .own (n.count + countAll children) := by
        intro heq
        have := Key.own.inj heq
        omega
      exact (Table.lookup_cons_ne hne _ _).trans (hall.keeps i hi)
    · have hkey := hkeeps (n.count + countAll children) (hcount ▸ Nat.lt_succ_self _)
      exact congrArg ([·]) (hkey.trans List.lookup_cons_self)
  | interned label =>
    obtain rfl := Option.some.inj hbelow
    obtain rfl := Option.some.inj hts
    refine ⟨hn.renew label line, Nat.le_succ _, fun i _ => ?_, fun later table'' hlater _ => ?_⟩
    · have hne : Key.own i ≠ .operator label := fun heq => by cases heq
      exact Table.lookup_cons_ne hne _ _
    · exact congrArg ([·]) (hlater.operator label)

theorem growAll_agrees (line : Int) (os : List Outline) {n : Nursery} {table table' : Table Key}
    (hn : n.Follows table)
    (hrun : ((objects n.count os).flatMap (visits line)).foldlM enter table = some table') :
    Agrees n table (objects n.count os) (growAll line os n).1 (growAll line os n).2 table' := by
  cases os with
  | nil =>
    obtain rfl := Option.some.inj hrun
    exact ⟨hn, Nat.le_refl _, fun _ _ => rfl, fun _ _ _ _ => rfl⟩
  | cons o os =>
    rw [objects, List.flatMap_cons, List.foldlM_append] at hrun
    obtain ⟨table₁, hfirst, hrest⟩ := Option.bind_eq_some_iff.mp hrun
    have hagrees := grow_agrees line o hn hfirst
    rw [← count_grow line o n] at hrest
    have hagrees' := growAll_agrees line os hagrees.follows hrest
    rw [count_grow line o n] at hagrees'
    exact hagrees.cons hagrees'

end

/-- **An outline grows into the tree that the loops make of its objects.** -/
theorem convert_object (line : Int) (o : Outline) :
    ((o.object 0).convert line []).map (·.2) = o.tree? line := by
  obtain ⟨table, t, hconvert, -, -⟩ := SyntaxObject.exists_convert (coherent_object 0 o) line []
  rw [hconvert]
  obtain ⟨table', hrun, hlookup⟩ := Option.bind_eq_some_iff.mp hconvert
  obtain ⟨t', ht', heq⟩ := Option.bind_eq_some_iff.mp hlookup
  obtain ⟨rfl, rfl⟩ := Prod.mk.inj (Option.some.inj heq)
  have hagrees := grow_agrees line o Nursery.follows_empty hrun
  have hfound := hagrees.found _ _ hagrees.follows fun _ _ => rfl
  exact ht'.symm.trans (List.cons.inj hfound).1

end Outline

namespace SyntaxObject

/-- **The two loops give the tree of the plain recursion**, for every file in which occurrences with
one key are one object: they always return a tree, with the labels, values and child order of the
recursion and so with its digest, size and height, and an object that occurs once starts on its own
line or else on that of its parent. The trees that outlines grow into are made so. -/
theorem convert_translates :
    (∀ (κ : Type) [DecidableEq κ] (root : SyntaxObject κ), root.Coherent →
      ∀ (line : Int) (table : Table κ),
        ∃ table' t, root.convert line table = some (table', t) ∧
          t.Alike (root.translate line) ∧
          t.digest = (root.translate line).digest ∧ t.size = (root.translate line).size ∧
          t.height = (root.translate line).height ∧
          t.lines.first = root.first.getD line ∧
          ∀ (position : List Nat) (p : SyntaxObject κ) (i : Nat) (c : SyntaxObject κ),
            root.at? position = some p → p.children[i]? = some c → root.keys.count c.key = 1 →
            ∃ m n : Tree, t.at? position = some m ∧ m.children[i]? = some n ∧
              n.lines.first = c.first.getD m.lines.first) ∧
    ∀ (o : Outline) (line : Int), (o.object 0).Coherent ∧
      ((o.object 0).convert line []).map (·.2) = o.tree? line := by
  constructor
  · intro κ _ root hroot line table
    obtain ⟨table', t, hconvert, hline, hrenders⟩ := exists_convert hroot line table
    have halike := hrenders.alike line
    obtain ⟨hdigest, hsize, hheight⟩ :=
      halike.summary_eq hrenders.sound (root.sound_translate line)
    exact ⟨table', t, hconvert, halike, hdigest, hsize, hheight, hline, hrenders.placed⟩
  · intro o line
    exact ⟨Outline.coherent_object 0 o, Outline.convert_object line o⟩

/-- A function of no parameters, with two additions that share their operator. -/
def additions : Outline :=
  .node "Lambda" "" (some ⟨2, 3⟩)
    [.node "arguments" "" none [],
     .node "BinOp" "" (some ⟨2, 3⟩)
       [.node "Name" "a" (some ⟨2, 2⟩) [], .interned "Add",
        .node "BinOp" "" (some ⟨3, 3⟩)
          [.node "Name" "b" (some ⟨3, 3⟩) [], .interned "Add", .node "Name" "c" (some ⟨3, 3⟩) []]]]

/-- The operator of the outer addition is replaced by that of the inner one before it is used. The
parameter list has no lines and starts where the function does. -/
theorem convert_translates_additions :
    (additions.object 0).Coherent ∧
    (additions.object 0).keys.count (.operator "Add") = 2 ∧
    (additions.object 0).keys.count (.own 0) = 1 ∧
    ∃ table t, (additions.object 0).convert 1 [] = some (table, t) ∧
      t.Alike ((additions.object 0).translate 1) ∧ t.lines.first = 2 ∧
      ∃ n, t.children[0]? = some n ∧ n.lines.first = 2 := by
  have hroot := Outline.coherent_object 0 additions
  have honce : (additions.object 0).keys.count (.own 0) = 1 := by decide
  obtain ⟨table, t, hconvert, halike, -, -, -, hline, hplaced⟩ :=
    convert_translates.1 Outline.Key (additions.object 0) hroot 1 []
  have hstart : t.lines.first = 2 := hline
  obtain ⟨m, n, hm, hn, hfirst⟩ := hplaced [] _ 0 _ rfl rfl honce
  obtain rfl := Option.some.inj hm
  exact ⟨hroot, by decide, honce, table, t, hconvert, halike, hstart, n, hn, hfirst.trans hstart⟩

end SyntaxObject

end Lineage
