import Lineage.Tree.Mapping

/-!
Matching two syntax trees in two phases. The first pairs identical subtrees from the top down, the
highest first. The second goes through the remaining inner nodes from the bottom up and pairs each
with the node of its label that holds most of the counterparts of its descendants.
-/

namespace Lineage

/-- The two settings of the matcher: the least height of a subtree that the first phase looks at,
and the least share of common descendants that the second phase accepts. -/
structure Matcher (α : Type) where
  minAnchorHeight : Int
  propagationSimilarity : α

namespace Matcher

/-- Pairs two subtrees node by node in the order of `preorder`. A pair with a node that is already
matched on its side is left out. -/
def mapSubtree (src dst : Tree) (m : NodeMapping) : NodeMapping :=
  (src.preorder.zip dst.preorder).foldl
    (fun m (a, b) => if !m.hasSrc a && !m.hasDst b then m.add a b else m) m

/-! ### Anchors -/

/-- The nodes that are high enough to be anchored. -/
def tall {α : Type} (s : Matcher α) (t : Tree) : List Tree :=
  t.preorder.filter fun n => s.minAnchorHeight ≤ n.height

/-- The nodes of a tree by digest, each list in preorder. -/
def byDigest (nodes : List Tree) : Std.TreeMap String (List Tree) :=
  nodes.foldr (fun n table => table.alter n.digest fun ns => some (n :: ns.getD [])) {}

/-- The last place of each node in a list of nodes. -/
def places (nodes : List Tree) : Std.TreeMap Nat Nat :=
  nodes.zipIdx.foldl (fun table (n, i) => table.insert n.id i) {}

/-- The tall nodes of a tree, the highest first and those of one height in preorder. A node that
occurs more than once counts by its last place. -/
def anchorSources {α : Type} (s : Matcher α) (t : Tree) : List Tree :=
  let place := places t.preorder
  (s.tall t).mergeSort fun a b =>
    if a.height = b.height then place.getD a.id 0 ≤ place.getD b.id 0 else b.height < a.height

/-- The node that starts nearest to `line`, the first of several. -/
def nearest? (line : Int) : List Tree → Option Tree
  | [] => none
  | t :: ts => some <| ts.foldl (fun best d =>
      if (d.lines.first - line).natAbs < (best.lines.first - line).natAbs then d else best) t

/-- Pairs one node with the nearest free node of its digest and size, if there is one. -/
def anchorOne (table : Std.TreeMap String (List Tree)) (m : NodeMapping) (src : Tree) :
    NodeMapping :=
  if m.hasSrc src then m
  else
    let free := (table.getD src.digest []).filter fun d => !m.hasDst d && d.size == src.size
    match nearest? src.lines.first free with
    | none => m
    | some dst => mapSubtree src dst m

/-- The first phase: identical subtrees. -/
def anchor {α : Type} (s : Matcher α) (a b : Tree) (m : NodeMapping) : NodeMapping :=
  (s.anchorSources a).foldl (anchorOne (byDigest (s.tall b))) m

/-! ### Containers -/

/-- The parent of each node of a tree that has one; of a node with several parents, the last in
preorder. -/
def parentsIn (t : Tree) : Std.TreeMap Nat Tree :=
  t.preorder.foldl (fun table n => n.children.foldl (fun table c => table.insert c.id n) table) {}

/-- The nodes above a node, nearest first. `fuel` bounds how many are looked at, the height of the
tree is enough. -/
def ancestors (parents : Std.TreeMap Nat Tree) : Nat → Tree → List Tree
  | 0, _ => []
  | fuel + 1, t =>
    match parents[t.id]? with
    | none => []
    | some p => p :: ancestors parents fuel p

/-- Counts how often each node occurs in a list, in the order of first occurrence. -/
def tally (nodes : List Tree) : List (Tree × Nat) :=
  let counts : Std.TreeMap Nat Nat :=
    nodes.foldl (fun table n => table.alter n.id fun k => some (k.getD 0 + 1)) {}
  let firsts := nodes.foldl
    (fun (seen : Std.TreeMap Nat Unit × List Tree) n =>
      if seen.1.contains n.id then seen else (seen.1.insert n.id (), n :: seen.2)) ({}, [])
  firsts.2.reverse.map fun n => (n, counts.getD n.id 0)

/-- Twice the common descendants as a share of all proper descendants of two nodes. -/
def dice {α : Type} [Score α] (shared : Nat) (a b : Tree) : α :=
  Score.ratio (2 * shared) ((a.size - 1) + (b.size - 1))

/-- The unmatched node of the second tree with the label of `src` that shares most descendants with
it, the first of several, if the share is large enough. -/
def bestContainer? {α : Type} [Score α] (s : Matcher α) (parents : Std.TreeMap Nat Tree)
    (fuel : Nat) (src : Tree) (m : NodeMapping) : Option Tree :=
  let counterparts := src.preorder.filterMap fun d => if d.id == src.id then none else m.mapped? d
  let above := counterparts.flatMap fun c =>
    (ancestors parents fuel c).filter fun a => a.label == src.label && !m.hasDst a
  let best := (tally above).foldl
    (fun (best : Option Tree × α) (c, shared) =>
      let share : α := dice shared src c
      if Score.lt best.2 share then (some c, share) else best) (none, Score.zero)
  if Score.le s.propagationSimilarity best.2 then best.1 else none

/-- Takes the first tree with the label and value of `child` out of a list. -/
def takeLike (child : Tree) : List Tree → Option (Tree × List Tree)
  | [] => none
  | c :: cs =>
    if c.label == child.label && c.value == child.value then some (c, cs)
    else (takeLike child cs).map fun (t, rest) => (t, c :: rest)

mutual

/-- Pairs the unmatched children of two matched nodes by label and value, and goes on below them. -/
def recoverChildren : Tree → Tree → NodeMapping → NodeMapping
  | .mk _ _ _ _ _ _ _ children, dst, m =>
    recoverAmong children (dst.children.filter fun c => !m.hasDst c) m

/-- Pairs children with the trees that are still free, first come first served. -/
def recoverAmong : List Tree → List Tree → NodeMapping → NodeMapping
  | [], _, m => m
  | child :: rest, free, m =>
    if m.hasSrc child then recoverAmong rest free m
    else
      match takeLike child free with
      | none => recoverAmong rest free m
      | some (found, free) =>
        if found.digest == child.digest && found.size == child.size then
          recoverAmong rest free (mapSubtree child found m)
        else
          recoverAmong rest free (recoverChildren child found (m.add child found))

end

/-- Pairs an unmatched inner node with its best container and recovers children below the pair. -/
def propagateOne {α : Type} [Score α] (s : Matcher α) (parents : Std.TreeMap Nat Tree) (fuel : Nat)
    (m : NodeMapping) (src : Tree) : NodeMapping :=
  if m.hasSrc src || src.children.isEmpty then m
  else
    match s.bestContainer? parents fuel src m with
    | none => m
    | some dst => recoverChildren src dst (m.add src dst)

/-- The second phase: inner nodes from the bottom up, and last the two roots if both are unmatched
and of one label. -/
def propagate {α : Type} [Score α] (s : Matcher α) (a b : Tree) (m : NodeMapping) : NodeMapping :=
  let m := a.postorder.foldl (s.propagateOne (parentsIn b) b.height) m
  if !m.hasSrc a && !m.hasDst b && a.label == b.label then recoverChildren a b (m.add a b) else m

/-- The correspondence between two trees. -/
def run {α : Type} [Score α] (s : Matcher α) (a b : Tree) : NodeMapping :=
  s.propagate a b (s.anchor a b .empty)

end Matcher

end Lineage
