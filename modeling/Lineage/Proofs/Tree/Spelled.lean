import Lineage.Proofs.Sequence.Pieces
import Lineage.Proofs.Text.Points
import Lineage.Tree.Basic

/-!
# Trees of any texts, and what their digests say

A tree whose labels and values are lists of code points, surrogates among them. Digest, size and
height are computed from the bottom up as `Tree.node` computes them.

The message of a node is cut back into label, value and digests of the children: a label holds no
NUL, so it ends at the first one; every digest is 32 hexadecimal digits, so the value ends at the
last one, whatever it holds; and the digests have one length. So two trees with one digest are
equal, unless the hash sends two messages of their nodes to one digest.

## Main statements

- `Spelled.message_inj`: a message determines label, value and digests, whatever the value is.
- `Spelled.eq_of_digest_eq`: **equal digests, equal trees**, where the hash separates the trees.
-/

namespace Lineage

open Text (Points)

/-- A tree of labels and values that may hold surrogates. A node that is used twice stands twice. -/
inductive Spelled where
  | node (label value : Points) (children : List Spelled)

/-- A text of 32 characters none of which is NUL, as digests are. -/
def Tree.IsDigest (d : String) : Prop := d.toList.length = 32 ∧ '\x00' ∉ d.toList

namespace Tree

theorem hexDigit_ne_nul (n : Nat) (hn : n < 16) : Digest.Blake2b.hexDigit n ≠ '\x00' := by
  revert n
  decide

theorem length_wordBytes (w : UInt64) : (Digest.Blake2b.wordBytes w).length = 8 := by
  simp [Digest.Blake2b.wordBytes]

theorem isDigest_hash (m : ByteArray) : IsDigest (hash m) := by
  rw [IsDigest, hash, Digest.Blake2b.hex, String.toList_ofList]
  constructor
  · rw [List.length_flatMap]
    simp [Digest.Blake2b.hash, length_wordBytes]
  · intro hmem
    obtain ⟨b, -, hb⟩ := List.mem_flatMap.mp hmem
    have hbyte : b.toNat < 256 := UInt8.toNat_lt b
    rcases List.mem_pair.mp hb with h | h
    · exact hexDigit_ne_nul _ (by omega) h.symm
    · exact hexDigit_ne_nul _ (by omega) h.symm

end Tree

namespace Spelled

/-! ### Messages -/

/-- What the digest of a node is the hash of: label and value, each closed by a NUL, then the
digests of the children. -/
def message (label value : Points) (digests : List String) : ByteArray :=
  Points.encode (label ++ 0 :: (value ++ 0 :: digests.flatMap Points.ofString))

theorem message_inj {label value label' value' : Points} {ds ds' : List String}
    (hlabel : 0 ∉ label) (hlabel' : 0 ∉ label') (hds : ∀ d ∈ ds, Tree.IsDigest d)
    (hds' : ∀ d ∈ ds', Tree.IsDigest d) (h : message label value ds = message label' value' ds') :
    label = label' ∧ value = value' ∧ ds = ds' := by
  have hclean : ∀ {l : List String}, (∀ d ∈ l, Tree.IsDigest d) →
      (0 : Text.Point) ∉ l.flatMap Points.ofString := by
    intro l hl hmem
    obtain ⟨d, hd, hnul⟩ := List.mem_flatMap.mp hmem
    exact (hl d hd).2 (Points.zero_mem_ofString.mp hnul)
  have hlength : ∀ {l : List String}, (∀ d ∈ l, Tree.IsDigest d) →
      ∀ d ∈ l, (Points.ofString d).length = 32 := by
    intro l hl d hd
    rw [Points.ofString, List.length_map]
    exact (hl d hd).1
  -- a value may hold a NUL, so the label ends at the first one and the value at the last
  obtain ⟨hl, hrest⟩ :=
    Sequence.append_cons_inj_of_notMem_left hlabel hlabel' (Points.encode_injective h)
  obtain ⟨hv, hd⟩ := Sequence.append_cons_inj_of_notMem_right (hclean hds) (hclean hds') hrest
  exact ⟨hl, hv, Sequence.flatMap_inj_of_length Points.ofString_injective (by decide)
    (hlength hds) (hlength hds') hd⟩

/-! ### Summaries -/

mutual

/-- What each node computes from its label, its value and what its children have computed. -/
def fold {β : Type} (f : Points → Points → List β → β) : Spelled → β
  | node label value children => f label value (foldAll f children)

/-- What the roots of some trees compute. -/
def foldAll {β : Type} (f : Points → Points → List β → β) : List Spelled → List β
  | [] => []
  | t :: ts => t.fold f :: foldAll f ts

end

theorem foldAll_eq_map {β : Type} (f : Points → Points → List β → β) (ts : List Spelled) :
    foldAll f ts = ts.map (fold f) := by
  induction ts with
  | nil => rfl
  | cons t ts ih => rw [foldAll, ih, List.map_cons]

/-- The hash of the labels, values and child order of the tree. -/
def digest : Spelled → String :=
  fold fun label value digests => Tree.hash (message label value digests)

/-- The number of nodes of the tree. -/
def size : Spelled → Nat :=
  fold fun _ _ sizes => 1 + Sequence.total sizes

/-- The number of levels of the tree. -/
def height : Spelled → Nat :=
  fold fun _ _ heights => 1 + heights.foldl max 0

section
variable (label value : Points) (children : List Spelled)

theorem digest_node : (node label value children).digest
    = Tree.hash (message label value (children.map digest)) := by
  rw [digest, fold, foldAll_eq_map]

theorem size_node :
    (node label value children).size = 1 + Sequence.total (children.map size) := by
  rw [size, fold, foldAll_eq_map]

theorem height_node :
    (node label value children).height = 1 + (children.map height).foldl max 0 := by
  rw [height, fold, foldAll_eq_map]

end

theorem isDigest_digest (t : Spelled) : Tree.IsDigest t.digest := by
  cases t
  rw [digest_node]
  exact Tree.isDigest_hash _

mutual

/-- The messages that are hashed for the digest of a tree. -/
def messages : Spelled → List ByteArray
  | node label value children => message label value (children.map digest) :: messagesOf children

/-- The messages that are hashed for the digests of trees. -/
def messagesOf : List Spelled → List ByteArray
  | [] => []
  | t :: ts => t.messages ++ messagesOf ts

end

theorem mem_messagesOf {ts : List Spelled} {t : Spelled} (ht : t ∈ ts) {m : ByteArray}
    (hm : m ∈ t.messages) : m ∈ messagesOf ts := by
  induction ts with
  | nil => exact nomatch ht
  | cons u us ih =>
    rw [messagesOf, List.mem_append]
    rcases List.mem_cons.mp ht with rfl | ht
    · exact .inl hm
    · exact .inr (ih ht)

/-! ### Equal digests -/

/-- No label of the tree holds a NUL. -/
inductive Labelled : Spelled → Prop where
  | node {label value : Points} {children : List Spelled} :
      0 ∉ label → (∀ c ∈ children, Labelled c) → Labelled (node label value children)

/-- The hash tells the messages of one tree from those of another. -/
def HashSeparates (u v : Spelled) : Prop :=
  ∀ m ∈ u.messages, ∀ n ∈ v.messages, Tree.hash m = Tree.hash n → m = n

instance (u v : Spelled) : Decidable (HashSeparates u v) :=
  inferInstanceAs
    (Decidable (∀ m ∈ u.messages, ∀ n ∈ v.messages, Tree.hash m = Tree.hash n → m = n))

theorem HashSeparates.children {label value label' value' : Points} {us vs : List Spelled}
    (h : HashSeparates (node label value us) (node label' value' vs)) {u v : Spelled}
    (hu : u ∈ us) (hv : v ∈ vs) : HashSeparates u v := fun m hm n hn =>
  h m (List.mem_cons_of_mem _ (mem_messagesOf hu hm)) n
    (List.mem_cons_of_mem _ (mem_messagesOf hv hn))

/-- **Equal digests, equal trees**, where the hash separates them. -/
theorem eq_of_digest_eq {u v : Spelled} (hu : u.Labelled) (hv : v.Labelled)
    (hapart : HashSeparates u v) (h : u.digest = v.digest) : u = v := by
  -- on one tree; the other has as many children, with the same digests
  induction hu generalizing v with
  | @node label value us hlabel _ ih =>
    cases hv with
    | @node label' value' vs hlabel' hvs =>
      rw [digest_node, digest_node] at h
      obtain ⟨rfl, rfl, hdigests⟩ := message_inj hlabel hlabel'
        (List.forall_mem_map.mpr fun c _ => c.isDigest_digest)
        (List.forall_mem_map.mpr fun c _ => c.isDigest_digest)
        (hapart _ List.mem_cons_self _ List.mem_cons_self h)
      have hlength : us.length = vs.length := by
        simpa only [List.length_map] using congrArg List.length hdigests
      congr 1
      apply List.ext_getElem hlength
      intro i hi hi'
      have hdigest : us[i].digest = vs[i].digest := by
        have hat := List.getElem_of_eq hdigests (by rw [List.length_map]; exact hi)
        rwa [List.getElem_map, List.getElem_map] at hat
      have hmem := List.getElem_mem hi
      have hmem' := List.getElem_mem hi'
      exact ih _ hmem (hvs _ hmem') (hapart.children hmem hmem') hdigest

end Spelled

end Lineage
