import Lineage.Digest.Blake2b
import Lineage.Element.LineRange
import Lineage.Sequence.Total
import Lineage.Text.Quoted

/-!
Labelled syntax trees.

A node carries a label, a value and the lines it stands on. `Tree.node` adds to them what the
matcher keeps asking for: the digest, the size and the height of the subtree. `Tree.Sound` says of
a whole tree that these three were computed by that rule, for a hash of any kind.

A node also has an `id`. Two occurrences with one `id` are one node that is used twice, as the
operator nodes of a parsed file are; equality of labels and lines does not make two nodes one.
-/

namespace Lineage

/-- A syntax tree whose nodes remember the summary of their subtree. -/
inductive Tree where
  | mk (id : Nat) (label value : String) (lines : LineRange) (digest : String)
      (size height : Nat) (children : List Tree)

namespace Tree

/-- Which node this is: occurrences of one node share it. -/
def id : Tree → Nat
  | mk id _ _ _ _ _ _ _ => id

/-- What kind of node this is. -/
def label : Tree → String
  | mk _ label _ _ _ _ _ _ => label

/-- The name, constant or list of names that the node holds besides its children. -/
def value : Tree → String
  | mk _ _ value _ _ _ _ _ => value

/-- The lines the node stands on. -/
def lines : Tree → LineRange
  | mk _ _ _ lines _ _ _ _ => lines

/-- The hash of the labels, values and child order of the subtree. -/
def digest : Tree → String
  | mk _ _ _ _ digest _ _ _ => digest

/-- The number of nodes of the subtree, a node used twice counted twice. -/
def size : Tree → Nat
  | mk _ _ _ _ _ size _ _ => size

/-- The number of levels of the subtree. -/
def height : Tree → Nat
  | mk _ _ _ _ _ _ height _ => height

/-- The subtrees directly below, in order. -/
def children : Tree → List Tree
  | mk _ _ _ _ _ _ _ children => children

/-- What the digest of a node is the hash of: label and value, each closed by a NUL byte, then the
digests of the children. -/
def message (label value : String) (digests : List String) : ByteArray :=
  (digests.foldl (· ++ ·) (label ++ "\x00" ++ value ++ "\x00")).toUTF8

/-- The hash that tree digests are made with: sixteen bytes in hexadecimal. -/
def hash (m : ByteArray) : String :=
  Digest.Blake2b.hex (Digest.Blake2b.hash 16 m)

/-- A node over finished subtrees, with its summary filled in. -/
def node (id : Nat) (label value : String) (lines : LineRange) (children : List Tree) : Tree :=
  mk id label value lines (hash (message label value (children.map digest)))
    (1 + Sequence.total (children.map size)) (1 + (children.map height).foldl max 0) children

/-- Every node of the tree carries the summary that `h` gives for its label, value and children. -/
inductive Sound (h : ByteArray → String) : Tree → Prop where
  | node (id : Nat) (label value : String) (lines : LineRange) (children : List Tree) :
      (∀ c ∈ children, Sound h c) →
      Sound h (mk id label value lines (h (message label value (children.map digest)))
        (1 + Sequence.total (children.map size)) (1 + (children.map height).foldl max 0) children)

theorem sound_node {id : Nat} {label value : String} {lines : LineRange} {children : List Tree}
    (h : ∀ c ∈ children, Sound hash c) : Sound hash (node id label value lines children) :=
  Sound.node id label value lines children h

/-- The label with the value after a colon, or the bare label of a node without a value. -/
def token (t : Tree) : String :=
  if t.value.isEmpty then t.label else t.label ++ ":" ++ t.value

/-- A node in words: its token in quotes, its lines and its size. -/
def shown (t : Tree) : String :=
  "SyntaxNode(" ++ String.ofList (Text.Quoted.text (t.token.toList.map (·.toNat))) ++ ", lines="
    ++ t.lines.text ++ ", size=" ++ toString t.size ++ ")"

mutual

/-- The nodes of the tree, parents first, in front of `rest`. -/
def preorderOnto : Tree → List Tree → List Tree
  | mk id label value lines digest size height children, rest =>
    mk id label value lines digest size height children :: preorderAllOnto children rest

/-- The nodes of the trees, one tree after the other, in front of `rest`. -/
def preorderAllOnto : List Tree → List Tree → List Tree
  | [], rest => rest
  | t :: ts, rest => t.preorderOnto (preorderAllOnto ts rest)

end

mutual

/-- The nodes of the tree, children first, in front of `rest`. -/
def postorderOnto : Tree → List Tree → List Tree
  | mk id label value lines digest size height children, rest =>
    postorderAllOnto children (mk id label value lines digest size height children :: rest)

/-- The nodes of the trees, each children first, in front of `rest`. -/
def postorderAllOnto : List Tree → List Tree → List Tree
  | [], rest => rest
  | t :: ts, rest => t.postorderOnto (postorderAllOnto ts rest)

end

/-- All nodes, every parent before its children. -/
def preorder (t : Tree) : List Tree :=
  t.preorderOnto []

/-- All nodes, every parent after its children. -/
def postorder (t : Tree) : List Tree :=
  t.postorderOnto []

/-- The two trees agree in labels, values and child order; lines and node identity do not count. -/
inductive Alike : Tree → Tree → Prop where
  | node {i j : Nat} {label value : String} {l m : LineRange} {d e : String} {s t g k : Nat}
      {as bs : List Tree} (length : as.length = bs.length) :
      (∀ p ∈ as.zip bs, Alike p.1 p.2) →
      Alike (mk i label value l d s g as) (mk j label value m e t k bs)

end Tree

end Lineage
