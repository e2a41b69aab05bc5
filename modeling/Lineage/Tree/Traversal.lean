import Lineage.Tree.Basic

/-!
Walks over a tree that keep the pending nodes on a stack of their own, so that a deep tree needs no
deep recursion. They visit the nodes in the orders of `Tree.preorder` and `Tree.postorder`.
-/

namespace Lineage.Tree

mutual

/-- The number of occurrences of nodes in the tree. -/
def count : Tree → Nat
  | mk _ _ _ _ _ _ _ children => 1 + countAll children

/-- The number of occurrences of nodes in the trees. -/
def countAll : List Tree → Nat
  | [] => 0
  | t :: ts => t.count + countAll ts

end

theorem count_eq (t : Tree) : t.count = 1 + countAll t.children := by
  cases t; rfl

theorem countAll_append (ts us : List Tree) : countAll (ts ++ us) = countAll ts + countAll us := by
  induction ts with
  | nil => simp [countAll]
  | cons t ts ih => simp [countAll, ih, Nat.add_assoc]

/-- Visits the node on top of the stack and puts its children in its place. -/
def visitDown : List Tree → List Tree
  | [] => []
  | t :: pending => t :: visitDown (t.children ++ pending)
termination_by pending => countAll pending
decreasing_by
  rw [countAll_append]
  simp only [countAll]
  have := count_eq t
  omega

/-- A stack entry of the walk that visits children first: a node still to be opened, or one whose
children have all been put above it. -/
inductive Pending where
  | closed (t : Tree)
  | opened (t : Tree)

/-- Steps that are still due for a stack: two for a node to be opened and its descendants, one for
an opened node. -/
def Pending.due : List Pending → Nat
  | [] => 0
  | .closed t :: rest => 2 * t.count + Pending.due rest
  | .opened _ :: rest => 1 + Pending.due rest

theorem Pending.due_closed_append (ts : List Tree) (rest : List Pending) :
    Pending.due (ts.map .closed ++ rest) = 2 * countAll ts + Pending.due rest := by
  induction ts with
  | nil => simp [countAll]
  | cons t ts ih => simp [Pending.due, countAll, ih]; omega

/-- Visits a node when it turns up opened; a closed one is opened first. -/
def visitUp : List Pending → List Tree
  | [] => []
  | .opened t :: rest => t :: visitUp rest
  | .closed t :: rest => visitUp (t.children.map .closed ++ (.opened t :: rest))
termination_by pending => Pending.due pending
decreasing_by
  · simp only [Pending.due]; omega
  · rw [Pending.due_closed_append]
    simp only [Pending.due]
    have := count_eq t
    omega

/-- The stack-driven walk with parents first. -/
def walkDown (t : Tree) : List Tree :=
  visitDown [t]

/-- The stack-driven walk with children first. -/
def walkUp (t : Tree) : List Tree :=
  visitUp [.closed t]

end Lineage.Tree
