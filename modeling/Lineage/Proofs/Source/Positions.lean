import Lineage.Proofs.Source.Standing

/-!
# Where statements and their nodes stand

The parser gives statements positions that are nested and in source order (`InOrder`): a statement
lies within the one around it, and ends no later than the next one begins. A node with lines of its
own keeps them when its outline grows (`Outline.Lies`), so every statement finds its own lines again
on its node.
-/

namespace Lineage

namespace LineRange
variable {l m k : LineRange}

theorem contains_iff : l.contains m = true ↔ l.first ≤ m.first ∧ m.last ≤ l.last := by
  rw [contains, Bool.and_eq_true, decide_eq_true_eq, decide_eq_true_eq]

theorem contains_trans (h : l.contains m = true) (h' : m.contains k = true) :
    l.contains k = true := by
  rw [contains_iff] at h h' ⊢
  exact ⟨Int.le_trans h.1 h'.1, Int.le_trans h'.2 h.2⟩

end LineRange

namespace Source

/-! ### Statements in order -/

/-- The statements of an `except` clause. -/
def Handler.body : Handler → List Stmt
  | mk _ _ _ body => body

/-- The statements of a `case` clause. -/
def MatchCase.body : MatchCase → List Stmt
  | mk _ _ body => body

/-- The statements directly inside a statement, those of its clauses among them, as they follow
each other in the source. -/
def Stmt.enclosed : Stmt → List Stmt
  | .function _ _ _ _ body _ _ | .classDef _ _ _ _ body _ | .withBlock _ _ _ body => body
  | .conditional _ _ body orElse | .whileLoop _ _ body orElse | .forLoop _ _ _ _ body orElse =>
    body ++ orElse
  | .matchBlock _ _ cases => cases.flatMap MatchCase.body
  | .tryBlock _ _ body handlers orElse finish =>
    body ++ (handlers.flatMap Handler.body ++ (orElse ++ finish))
  | _ => []

/-- Each statement ends no later than the following ones begin. -/
def Follow (ss : List Stmt) : Prop := ss.Pairwise fun s r => s.lines.last ≤ r.lines.first

instance (ss : List Stmt) : Decidable (Follow ss) := inferInstanceAs (Decidable (List.Pairwise _ _))

/-- The lines of a statement hold those of the statements inside, which stand in source order. -/
inductive Stmt.InOrder : Stmt → Prop
  | mk {s : Stmt} (proper : s.lines.first ≤ s.lines.last)
      (within : ∀ r ∈ s.enclosed, s.lines.contains r.lines = true) (follow : Follow s.enclosed)
      (each : ∀ r ∈ s.enclosed, r.InOrder) : s.InOrder

/-- The positions of statements are nested and in source order. -/
structure InOrder (ss : List Stmt) : Prop where
  follow : Follow ss
  each : ∀ s ∈ ss, s.InOrder

theorem Stmt.InOrder.enclosed {s : Stmt} (h : s.InOrder) : Source.InOrder s.enclosed := by
  cases h with
  | mk _ _ follow each => exact ⟨follow, each⟩

theorem Stmt.InOrder.proper {s : Stmt} (h : s.InOrder) : s.lines.first ≤ s.lines.last := by
  cases h with
  | mk proper _ _ _ => exact proper

theorem Stmt.InOrder.contains {s r : Stmt} (h : s.InOrder) (hr : r ∈ s.enclosed) :
    s.lines.contains r.lines = true := by
  cases h with
  | mk _ within _ _ => exact within r hr

theorem InOrder.sublist {ss rs : List Stmt} (h : InOrder ss) (hsub : rs.Sublist ss) : InOrder rs :=
  ⟨h.follow.sublist hsub, fun r hr => h.each r (hsub.subset hr)⟩

/-- A statement without others inside is in order if its lines are. -/
theorem Stmt.inOrder_of_enclosed_nil {s : Stmt} (h : s.enclosed = [])
    (hproper : s.lines.first ≤ s.lines.last) : s.InOrder := by
  refine .mk hproper ?_ ?_ ?_ <;> rw [h]
  · exact fun _ hr => nomatch hr
  · exact .nil
  · exact fun _ hr => nomatch hr

end Source

/-! ### The lines of nodes -/

namespace Outline

mutual

/-- The nodes of a tree stand on the lines that an outline gives for them. -/
def Lies : Outline → Tree → Prop
  | node _ _ lines children, t => (∀ l, lines = some l → t.lines = l) ∧ LieFirst children t.children
  | interned _, _ => True

/-- The first of some trees stand on the lines that outlines give for them. -/
def LieFirst : List Outline → List Tree → Prop
  | [], _ => True
  | _ :: _, [] => False
  | o :: os, t :: ts => o.Lies t ∧ LieFirst os ts

end

theorem LieFirst.left {os post : List Outline} {ts : List Tree} (h : LieFirst (os ++ post) ts) :
    LieFirst os ts := by
  induction os generalizing ts with
  | nil => exact trivial
  | cons o os ih =>
    cases ts with
    | nil => exact h
    | cons t ts => exact ⟨h.1, ih h.2⟩

/-- Trees in the middle stand on the lines of the outlines in the middle. -/
theorem LieFirst.drop {all os : List Outline} {ts : List Tree} (h : LieFirst all ts)
    (pre post : List Outline) (hall : all = pre ++ os ++ post) {k : Nat} (hk : pre.length = k) :
    LieFirst os (ts.drop k) := by
  subst hall hk
  rw [List.append_assoc] at h
  induction pre generalizing ts with
  | nil =>
    rw [List.nil_append] at h
    exact h.left
  | cons o pre ih =>
    cases ts with
    | nil => exact h.elim
    | cons t ts => exact ih h.2

/-- A finished child stands on the lines of its outline; operators have none. -/
def Shoot.Lies (o : Outline) : Shoot → Prop
  | tree t => o.Lies t
  | operator _ => True

theorem Shoot.Fits.lies {n : Nursery} {o : Outline} {s : Shoot} {t : Tree} (h : s.Fits n o)
    (hs : s.Lies o) (ht : s.tree? n = some t) : o.Lies t := by
  cases s with
  | tree t' =>
    obtain rfl := Option.some.inj ht
    exact hs
  | operator label =>
    obtain ⟨rfl, -⟩ := h
    exact trivial

theorem lieFirst_of_fits {n : Nursery} (hn : n.Tended) {os : List Outline} {ss : List Shoot}
    (hfits : List.Forall₂ (fun o s => Shoot.Fits n o s) os ss)
    (hlies : List.Forall₂ (fun o s => Shoot.Lies o s) os ss) :
    LieFirst os (ss.filterMap (·.tree? n)) := by
  induction hfits with
  | nil => exact trivial
  | cons hfirst _ ih =>
    cases hlies with
    | cons hhead htail =>
      obtain ⟨t, ht, -, -⟩ := hfirst.tree? hn
      rw [List.filterMap_cons_some ht]
      exact ⟨hfirst.lies hhead ht, ih htail⟩

mutual

theorem grow_lies (line : Int) (o : Outline) {n : Nursery} (hn : n.Tended) :
    (o.grow line n).1.Lies o := by
  cases o with
  | node label value lines children =>
    obtain ⟨htended, -, hfits⟩ := growAll_fits (lines.getD ⟨line, line⟩).first children hn
    have hlies := growAll_lies (lines.getD ⟨line, line⟩).first children hn
    refine ⟨fun l hl => ?_, lieFirst_of_fits htended hfits hlies⟩
    rw [hl]
    rfl
  | interned label => exact trivial

theorem growAll_lies (line : Int) (os : List Outline) {n : Nursery} (hn : n.Tended) :
    List.Forall₂ (fun o s => Shoot.Lies o s) os (growAll line os n).1 := by
  cases os with
  | nil => exact .nil
  | cons o os =>
    obtain ⟨htended, -, -⟩ := grow_fits line o hn
    exact .cons (grow_lies line o hn) (growAll_lies line os htended)

end

/-- A tree stands on the lines of its outline. -/
theorem lies_of_tree? {line : Int} {o : Outline} {t : Tree} (h : o.tree? line = some t) :
    o.Lies t := by
  obtain ⟨-, -, hfits⟩ := grow_fits line o Nursery.tended_empty
  exact hfits.lies (grow_lies line o Nursery.tended_empty) h

end Outline

namespace Source

/-- The node of a statement stands on the lines of the statement. -/
theorem lines_of_lies {s : Stmt} {t : Tree} (h : s.outline.Lies t) : t.lines = s.lines := by
  cases s <;> exact h.1 _ rfl

end Source

end Lineage
