import Lineage.Proofs.Tree.Spelled

/-!
# What a digest says about a tree

A tree spells its labels and values in characters, so it is a tree of any texts, with the same
messages and the same summary (`Tree.Sound.summary_spelled`). So two trees with one digest have the
same shape, unless the hash sends two messages of their nodes to one digest.

## Main statements

- `Tree.shape_eq_of_digest_eq`: **equal digests, equal shapes**, where the hash separates the trees.
-/

namespace Lineage

open Text (Points)

/-- A tree of labels and values: what digests are made from. -/
inductive Shape where
  | node (label value : String) (children : List Shape)

/-- No label of the shape holds a NUL. -/
inductive Shape.Labelled : Shape → Prop where
  | node {label value : String} {children : List Shape} :
      '\x00' ∉ label.toList → (∀ c ∈ children, Labelled c) → Labelled (node label value children)

/-! ### Spelling -/

namespace Shape

mutual

/-- The labels and values by their code points. -/
def spelled : Shape → Spelled
  | node label value children =>
    .node (Points.ofString label) (Points.ofString value) (spelledAll children)

/-- Shapes by the code points of their labels and values. -/
def spelledAll : List Shape → List Spelled
  | [] => []
  | s :: ss => s.spelled :: spelledAll ss

end

theorem spelledAll_eq_map (ss : List Shape) : spelledAll ss = ss.map spelled := by
  induction ss with
  | nil => rfl
  | cons s ss ih => rw [spelledAll, ih, List.map_cons]

mutual

theorem spelled_inj {s s' : Shape} (h : s.spelled = s'.spelled) : s = s' := by
  cases s
  cases s'
  rw [spelled, spelled, Spelled.node.injEq] at h
  obtain ⟨hlabel, hvalue, hchildren⟩ := h
  rw [Points.ofString_injective hlabel, Points.ofString_injective hvalue,
    spelledAll_inj hchildren]

theorem spelledAll_inj {ss ss' : List Shape} (h : spelledAll ss = spelledAll ss') : ss = ss' := by
  cases ss with
  | nil =>
    cases ss' with
    | nil => rfl
    | cons => cases h
  | cons =>
    cases ss' with
    | nil => cases h
    | cons =>
      rw [spelledAll, spelledAll] at h
      obtain ⟨hs, hss⟩ := List.cons.inj h
      rw [spelled_inj hs, spelledAll_inj hss]

end

theorem Labelled.spelled {s : Shape} (h : s.Labelled) : s.spelled.Labelled := by
  induction h with
  | node hlabel _ ih =>
    rw [Shape.spelled, spelledAll_eq_map]
    exact .node (mt Points.zero_mem_ofString.mp hlabel) (List.forall_mem_map.mpr ih)

end Shape

namespace Tree

theorem toList_foldl_append (ds : List String) (s : String) :
    (ds.foldl (· ++ ·) s).toList = s.toList ++ ds.flatMap String.toList := by
  induction ds generalizing s with
  | nil => simp
  | cons d ds ih => rw [List.foldl_cons, ih, String.toList_append, List.flatMap_cons,
      List.append_assoc]

/-- A message is that of the code points. -/
theorem message_eq (label value : String) (digests : List String) : message label value digests
    = Spelled.message (Points.ofString label) (Points.ofString value) digests := by
  have hnul : ("\x00" : String).toList = ['\x00'] := rfl
  have hzero : Text.Point.ofChar '\x00' = 0 := rfl
  have hdigests : (digests.flatMap String.toList).map Text.Point.ofChar
      = digests.flatMap Points.ofString := by
    rw [List.map_flatMap]
    rfl
  rw [message, ← Points.encode_ofString, Spelled.message, Points.ofString, toList_foldl_append]
  simp only [String.toList_append, hnul, List.map_append, List.map_cons, hzero,
    hdigests, List.append_assoc, List.cons_append, List.nil_append]
  rfl

/-! ### Trees -/

mutual

/-- The labels and values of a tree. -/
def shape : Tree → Shape
  | mk _ label value _ _ _ _ children => .node label value (shapes children)

/-- The shapes of trees. -/
def shapes : List Tree → List Shape
  | [] => []
  | t :: ts => t.shape :: shapes ts

end

@[simp] theorem shapes_eq_map (ts : List Tree) : shapes ts = ts.map shape := by
  induction ts with
  | nil => rfl
  | cons t ts ih => rw [shapes, ih, List.map_cons]

mutual

/-- The messages that are hashed for the digest of a tree. -/
def messages : Tree → List ByteArray
  | mk _ label value _ _ _ _ children =>
    message label value (children.map digest) :: messagesOf children

/-- The messages that are hashed for the digests of trees. -/
def messagesOf : List Tree → List ByteArray
  | [] => []
  | t :: ts => t.messages ++ messagesOf ts

end

/-- The hash tells the messages of one tree from those of another. -/
def HashSeparates (t c : Tree) : Prop :=
  ∀ m ∈ t.messages, ∀ n ∈ c.messages, hash m = hash n → m = n

instance (t c : Tree) : Decidable (HashSeparates t c) :=
  inferInstanceAs (Decidable (∀ m ∈ t.messages, ∀ n ∈ c.messages, hash m = hash n → m = n))

theorem Sound.of_mem_children {h : ByteArray → String} {t c : Tree} (ht : Sound h t)
    (hc : c ∈ t.children) : Sound h c := by
  cases ht with
  | node id label value lines children hchildren => exact hchildren c hc

/-- The tree by the code points of its labels and values. -/
def spelled (t : Tree) : Spelled := t.shape.spelled

theorem spelled_eq (t : Tree) : t.spelled
    = .node (Points.ofString t.label) (Points.ofString t.value) (t.children.map spelled) := by
  cases t
  rw [spelled, shape, Shape.spelled, shapes_eq_map, Shape.spelledAll_eq_map, List.map_map]
  rfl

/-- A sound tree has the digest, the size and the height of its spelling. -/
theorem Sound.summary_spelled {t : Tree} (ht : Sound hash t) :
    t.digest = t.spelled.digest ∧ t.size = t.spelled.size ∧ t.height = t.spelled.height := by
  induction ht with
  | node id label value lines children _ ih =>
    rw [spelled_eq, Spelled.digest_node, Spelled.size_node, Spelled.height_node, List.map_map,
      List.map_map, List.map_map, ← message_eq]
    have hdigests := List.map_congr_left fun c hc => (ih c hc).1
    have hsizes := List.map_congr_left fun c hc => (ih c hc).2.1
    have hheights := List.map_congr_left fun c hc => (ih c hc).2.2
    refine ⟨?_, ?_, ?_⟩
    · exact congrArg (fun ds => hash (message label value ds)) hdigests
    · exact congrArg (1 + Sequence.total ·) hsizes
    · exact congrArg (1 + List.foldl max 0 ·) hheights

/-- The same messages are hashed for a sound tree and for its spelling. -/
theorem Sound.messages_spelled {t : Tree} (ht : Sound hash t) :
    t.spelled.messages = t.messages := by
  induction ht with
  | node id label value lines children hchildren ih =>
    have hdigests : (children.map spelled).map Spelled.digest = children.map digest := by
      rw [List.map_map]
      exact List.map_congr_left fun c hc => (hchildren c hc).summary_spelled.1.symm
    have hbelow : ∀ ts : List Tree, (∀ c ∈ ts, c.spelled.messages = c.messages) →
        Spelled.messagesOf (ts.map spelled) = messagesOf ts := by
      intro ts hts
      induction ts with
      | nil => rfl
      | cons c ts ihts =>
        obtain ⟨hc, hts⟩ := List.forall_mem_cons.mp hts
        rw [List.map_cons, Spelled.messagesOf, messagesOf, hc, ihts hts]
    rw [spelled_eq, Spelled.messages, messages, message_eq]
    exact congrArg₂ List.cons (congrArg _ hdigests) (hbelow children ih)

/-- Sound trees with one digest have one shape, where the hash separates them. -/
theorem shape_eq_of_digest_eq {t c : Tree} (ht : Sound hash t) (hc : Sound hash c)
    (htl : t.shape.Labelled) (hcl : c.shape.Labelled) (hapart : HashSeparates t c)
    (h : t.digest = c.digest) : t.shape = c.shape := by
  rw [ht.summary_spelled.1, hc.summary_spelled.1] at h
  have hseparates : Spelled.HashSeparates t.spelled c.spelled := by
    rw [Spelled.HashSeparates, ht.messages_spelled, hc.messages_spelled]
    exact hapart
  exact Shape.spelled_inj (Spelled.eq_of_digest_eq htl.spelled hcl.spelled hseparates h)

end Tree

end Lineage
