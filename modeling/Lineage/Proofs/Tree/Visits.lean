import Lineage.Proofs.Tree.Pairing
import Lineage.Tree.Traversal

/-!
# The walks with a stack are the recursive ones

At every step of a walk the stack says what is still to come: a pending node stands for the walk of
its subtree, and a node that has been opened for itself alone. So the walk of a stack is the walks
of its entries one after the other (`Tree.visitDown_eq`, `Tree.visitUp_eq`), and a walk that starts
with a single node is the recursive walk of its tree. It visits as many nodes as the tree has, one
that occurs more than once as often as it occurs.

The walk with parents first goes through the positions of a tree in an order that depends on its
shape only (`Tree.positions`, `Tree.map_at?_positions`). Two trees of one digest are alike, as long
as no two of their nodes collide (`Tree.NodesTell.alike`); so the walks of both stand at one
position at every step.

## Main statements

- `Tree.walkDown_eq`, `Tree.walkUp_eq`: the walks with a stack visit what the recursive ones visit.
- `Tree.HashSeparates.nodesTell`: no two nodes collide where the hash separates the trees.
- `Tree.walks_are_recursive`: **the walks, their lengths, and what pairs of walks come to.**
-/

namespace Lineage

namespace Tree
variable {h : ByteArray → String} {a b t c n k : Tree}

/-! ### The stack -/

/-- The walk of a stack is the walks of its nodes one after the other. -/
theorem visitDown_eq (pending : List Tree) : visitDown pending = pending.flatMap preorder := by
  -- on the steps: the children of the top take its place, and with it they are its walk
  induction pending using visitDown.induct with
  | case1 => rw [visitDown, List.flatMap_nil]
  | case2 t pending ih =>
    rw [visitDown, ih, List.flatMap_append, List.flatMap_cons, preorder_eq t, List.cons_append]

/-- What a stack entry stands for: an opened node for itself, a closed one for its subtree. -/
def Pending.remaining : Pending → List Tree
  | .closed t => t.postorder
  | .opened t => [t]

/-- The walk of a stack is what its entries stand for, one after the other. -/
theorem visitUp_eq (pending : List Pending) :
    visitUp pending = pending.flatMap Pending.remaining := by
  induction pending using visitUp.induct with
  | case1 => rw [visitUp, List.flatMap_nil]
  | case2 t rest ih =>
    rw [visitUp, ih, List.flatMap_cons]
    rfl
  | case3 t rest ih =>
    rw [visitUp, ih, List.flatMap_append, List.flatMap_map, List.flatMap_cons, List.flatMap_cons,
      Pending.remaining, Pending.remaining, postorder_eq, List.append_assoc]
    rfl

theorem walkDown_eq (t : Tree) : t.walkDown = t.preorder := by
  rw [walkDown, visitDown_eq, List.flatMap_singleton]

theorem walkUp_eq (t : Tree) : t.walkUp = t.postorder := by
  rw [walkUp, visitUp_eq, List.flatMap_singleton, Pending.remaining]

/-- Children first there are as many nodes as parents first. -/
theorem length_postorder (ht : Sound h t) : t.postorder.length = t.size := by
  induction t using induction with
  | h t ih =>
    rw [postorder_eq, List.length_append, Sequence.length_flatMap, ht.size_eq, Nat.add_comm,
      List.map_congr_left fun c hc => ih c hc (ht.of_mem_children hc)]
    rfl

/-! ### Positions -/

mutual

/-- The positions of the nodes of a tree, every parent before its children. -/
def positions : Tree → List (List Nat)
  | mk _ _ _ _ _ _ _ children => [] :: positionsAll 0 children

/-- The positions of the nodes below some children, the first of which has the number `i`. -/
def positionsAll (i : Nat) : List Tree → List (List Nat)
  | [] => []
  | t :: ts => t.positions.map (i :: ·) ++ positionsAll (i + 1) ts

end

theorem positions_eq (t : Tree) : t.positions = [] :: positionsAll 0 t.children := by
  cases t
  rw [positions]
  rfl

theorem exists_of_mem_positionsAll {ts : List Tree} {i : Nat} {p : List Nat}
    (hp : p ∈ positionsAll i ts) : ∃ j q, i ≤ j ∧ p = j :: q := by
  induction ts generalizing i with
  | nil => exact absurd hp List.not_mem_nil
  | cons t ts ih =>
    rw [positionsAll, List.mem_append] at hp
    rcases hp with hp | hp
    · obtain ⟨q, -, rfl⟩ := List.mem_map.mp hp
      exact ⟨i, q, Nat.le_refl i, rfl⟩
    · obtain ⟨j, q, hj, rfl⟩ := ih hp
      exact ⟨j, q, Nat.le_of_succ_le hj, rfl⟩

theorem nodup_positionsAll {ts : List Tree} (hts : ∀ c ∈ ts, c.positions.Nodup) (i : Nat) :
    (positionsAll i ts).Nodup := by
  induction ts generalizing i with
  | nil => exact List.nodup_nil
  | cons t ts ih =>
    obtain ⟨ht, hts⟩ := List.forall_mem_cons.mp hts
    rw [positionsAll]
    apply List.Nodup.append
    · exact ht.map fun _ _ heq => (List.cons.inj heq).2
    · exact ih hts (i + 1)
    · -- the later children have larger numbers
      intro p hp hp'
      obtain ⟨q, -, rfl⟩ := List.mem_map.mp hp
      obtain ⟨j, q', hj, heq⟩ := exists_of_mem_positionsAll hp'
      have hij : i = j := (List.cons.inj heq).1
      omega

/-- No position is listed twice. -/
theorem nodup_positions (t : Tree) : t.positions.Nodup := by
  induction t using induction with
  | h t ih =>
    rw [positions_eq, List.nodup_cons]
    refine ⟨fun hp => ?_, nodup_positionsAll ih 0⟩
    obtain ⟨j, q, -, heq⟩ := exists_of_mem_positionsAll hp
    cases heq

theorem map_at?_positionsAll {ts : List Tree} {i : Nat} (hts : t.children.drop i = ts)
    (ih : ∀ c ∈ ts, c.positions.map (at? · c) = c.preorder.map some) :
    (positionsAll i ts).map (at? · t) = (ts.flatMap preorder).map some := by
  induction ts generalizing i with
  | nil => rfl
  | cons c ts ihts =>
    obtain ⟨hc, hrest⟩ := List.forall_mem_cons.mp ih
    have hchild : t.children[i]? = some c := by
      rw [← List.head?_drop, hts, List.head?_cons]
    have hlater : t.children.drop (i + 1) = ts := by
      rw [← List.tail_drop, hts, List.tail_cons]
    have hbelow : (at? · t) ∘ (i :: ·) = (at? · c) := by
      funext p
      show t.children[i]?.bind (at? p) = at? p c
      rw [hchild, Option.bind_some]
    rw [positionsAll, List.map_append, List.map_map, hbelow, hc, ihts hlater hrest,
      List.flatMap_cons, List.map_append]

/-- **The walk goes through the positions.** -/
theorem map_at?_positions (t : Tree) : t.positions.map (at? · t) = t.preorder.map some := by
  induction t using induction with
  | h t ih =>
    rw [positions_eq, List.map_cons, map_at?_positionsAll List.drop_zero ih, preorder_eq,
      List.map_cons]
    rfl

/-- The positions depend on the shape only. -/
theorem Alike.positions_eq (hab : a.Alike b) : a.positions = b.positions := by
  induction hab with
  | @node _ _ _ _ _ _ _ _ _ _ _ _ as bs hlength _ ih =>
    have hall : ∀ (as bs : List Tree) (i : Nat),
        List.Forall₂ (fun a b => a.positions = b.positions) as bs →
        positionsAll i as = positionsAll i bs := by
      intro as bs i hab
      induction hab generalizing i with
      | nil => rfl
      | cons hab _ ih => rw [positionsAll, positionsAll, hab, ih]
    rw [positions, positions, hall as bs 0 (List.forall₂_iff_zip.mpr ⟨hlength, fun hp => ih _ hp⟩)]

/-! ### Trees of one digest -/

/-- No two nodes collide: a node of one tree and a node of the other that share a digest have one
label, one value, and children with the same digests. -/
def NodesTell (a b : Tree) : Prop :=
  ∀ n ∈ a.preorder, ∀ k ∈ b.preorder, n.digest = k.digest →
    n.label = k.label ∧ n.value = k.value ∧ n.children.map digest = k.children.map digest

instance (a b : Tree) : Decidable (NodesTell a b) :=
  inferInstanceAs (Decidable (∀ n ∈ a.preorder, ∀ k ∈ b.preorder, n.digest = k.digest →
    n.label = k.label ∧ n.value = k.value ∧ n.children.map digest = k.children.map digest))

theorem NodesTell.children (htell : a.NodesTell b) (hn : n ∈ a.children) (hk : k ∈ b.children) :
    n.NodesTell k := fun n' hn' k' hk' =>
  htell n' (mem_preorder.mpr (.inr ⟨n, hn, hn'⟩)) k' (mem_preorder.mpr (.inr ⟨k, hk, hk'⟩))

/-- Trees of one digest are alike. -/
theorem NodesTell.alike (htell : a.NodesTell b) (hdigest : a.digest = b.digest) : a.Alike b := by
  induction a using induction generalizing b with
  | h a ih =>
    obtain ⟨hlabel, hvalue, hdigests⟩ :=
      htell a a.mem_preorder_self b b.mem_preorder_self hdigest
    obtain ⟨hlength, hall⟩ := (map_eq_map_iff_zip digest digest).mp hdigests
    have halike : ∀ p ∈ a.children.zip b.children, p.1.Alike p.2 := by
      intro p hp
      obtain ⟨hn, hk⟩ := List.of_mem_zip hp
      exact ih p.1 hn (htell.children hn hk) (hall p hp)
    cases a
    cases b
    cases hlabel
    cases hvalue
    exact .node hlength halike

/-- The messages of a tree are those of its nodes. -/
theorem messages_eq (t : Tree) : t.messages
    = t.preorder.map fun n => message n.label n.value (n.children.map digest) := by
  induction t using induction with
  | h t ih =>
    have hbelow : messagesOf t.children = t.children.flatMap messages := by
      generalize t.children = ts
      induction ts with
      | nil => rfl
      | cons t ts ihts => rw [messagesOf, ihts, List.flatMap_cons]
    rw [preorder_eq, List.map_cons, List.map_flatMap, ← List.flatMap_congr ih, ← hbelow]
    cases t
    rw [messages]
    rfl

/-- The labels of a shape are those of the nodes. -/
theorem labelled_shape_iff : t.shape.Labelled ↔ ∀ n ∈ t.preorder, '\x00' ∉ n.label.toList := by
  induction t using induction with
  | h t ih =>
    have hroot : t.shape.Labelled ↔
        '\x00' ∉ t.label.toList ∧ ∀ c ∈ t.children, c.shape.Labelled := by
      cases t
      rw [shape, shapes_eq_map, ← List.forall_mem_map (P := Shape.Labelled)]
      exact ⟨fun | .node hlabel hchildren => ⟨hlabel, hchildren⟩, fun h => .node h.1 h.2⟩
    rw [hroot, preorder_eq, List.forall_mem_cons, List.forall_mem_flatMap]
    exact and_congr_right fun _ => forall₂_congr ih

/-- Where the hash separates two trees, no two of their nodes collide. -/
theorem HashSeparates.nodesTell (ha : Sound hash a) (hb : Sound hash b) (hal : a.shape.Labelled)
    (hbl : b.shape.Labelled) (hapart : HashSeparates a b) : a.NodesTell b := by
  intro n hn k hk hdigest
  have hlabelled : ∀ {t m : Tree}, t.shape.Labelled → m ∈ t.preorder →
      0 ∉ Text.Points.ofString m.label := fun ht hm =>
    mt Text.Points.zero_mem_ofString.mp (labelled_shape_iff.mp ht _ hm)
  have hdigests : ∀ {t : Tree}, Sound hash t → ∀ d ∈ t.children.map digest, IsDigest d := by
    intro t ht
    refine List.forall_mem_map.mpr fun c hc => ?_
    rw [(ht.of_mem_children hc).digest_eq]
    exact isDigest_hash _
  rw [(ha.of_mem_preorder hn).digest_eq, (hb.of_mem_preorder hk).digest_eq] at hdigest
  rw [HashSeparates, messages_eq, messages_eq] at hapart
  have hmessage := hapart _ (List.mem_map_of_mem hn) _ (List.mem_map_of_mem hk) hdigest
  rw [message_eq, message_eq] at hmessage
  obtain ⟨hlabel, hvalue, hchildren⟩ := Spelled.message_inj (hlabelled hal hn) (hlabelled hbl hk)
    (hdigests (ha.of_mem_preorder hn)) (hdigests (hb.of_mem_preorder hk)) hmessage
  exact ⟨Text.Points.ofString_injective hlabel, Text.Points.ofString_injective hvalue, hchildren⟩

/-- What the walks of two alike trees come to at one step stands at one position of both. -/
theorem Alike.at?_of_walk (hab : a.Alike b) {i : Nat}
    (hi : (a.preorder.zip b.preorder)[i]? = some (n, k)) :
    n.label = k.label ∧ n.value = k.value ∧
      ∃ p, a.positions[i]? = some p ∧ a.at? p = some n ∧ b.at? p = some k := by
  obtain ⟨hlabel, hvalue, -⟩ :=
    shape_eq_iff.mp (alike_iff.mp (hab.of_mem_zip (List.mem_of_getElem? hi)))
  obtain ⟨hn, hk⟩ := List.getElem?_zip_eq_some.mp hi
  have hpositions : ∀ {t m : Tree}, t.preorder[i]? = some m →
      ∃ p, t.positions[i]? = some p ∧ t.at? p = some m := by
    intro t m hm
    have hmap := congrArg (·[i]?) t.map_at?_positions
    simp only [List.getElem?_map, hm, Option.map_some] at hmap
    exact Option.map_eq_some_iff.mp hmap
  obtain ⟨p, hp, hat⟩ := hpositions hn
  obtain ⟨p', hp', hat'⟩ := hpositions hk
  rw [← hab.positions_eq, hp, Option.some.injEq] at hp'
  subst hp'
  exact ⟨hlabel, hvalue, p, hp, hat, hat'⟩

/-- **The walks with a stack are the recursive ones**, whichever nodes occur at several places. So
they come to as many nodes as the tree has, which the coverage divides by; and the walks of two
trees of one digest, none of whose nodes collide, go side by side through one list of positions and
come to equal labels and values at each of them. -/
theorem walks_are_recursive (ht : t.Sound h) :
    (t.walkDown = t.preorder ∧ t.preorder = t :: t.children.flatMap preorder) ∧
    (t.walkUp = t.postorder ∧ t.postorder = t.children.flatMap postorder ++ [t]) ∧
    t.walkDown.length = t.size ∧ t.walkUp.length = t.size ∧
    (∀ (α : Type) [Score α] (m : NodeMapping),
      (m.coverage t : α) = Score.ratio (t.walkDown.countP m.hasSrc) t.walkDown.length) ∧
    ∀ c : Tree, t.NodesTell c → t.digest = c.digest →
      t.positions.Nodup ∧ t.positions = c.positions ∧ t.walkDown.length = c.walkDown.length ∧
      (∀ m, Matcher.mapSubtree t c m = (t.walkDown.zip c.walkDown).foldl
        (fun m (n, k) => if !m.hasSrc n && !m.hasDst k then m.add n k else m) m) ∧
      ∀ (i : Nat) (n k : Tree), (t.walkDown.zip c.walkDown)[i]? = some (n, k) →
        n.label = k.label ∧ n.value = k.value ∧
          ∃ p, t.positions[i]? = some p ∧ t.at? p = some n ∧ c.at? p = some k := by
  have hsize : t.preorder.length = t.size := length_preorder ht
  rw [walkDown_eq, walkUp_eq]
  refine ⟨⟨rfl, t.preorder_eq⟩, ⟨rfl, t.postorder_eq⟩, hsize, length_postorder ht, ?_, ?_⟩
  · intro α _ m
    rw [NodeMapping.coverage, NodeMapping.matchedIn, hsize]
  · intro c htell hdigest
    have halike : t.Alike c := htell.alike hdigest
    rw [walkDown_eq]
    exact ⟨t.nodup_positions, halike.positions_eq, halike.preorder.length_eq, fun _ => rfl,
      fun _ _ _ hi => halike.at?_of_walk hi⟩

/-- Two sums of three names whose operators are one node each. -/
theorem walks_are_recursive_sharedOperator :
    (Matcher.sumOf "x" 5 5).Sound hash ∧
    (Matcher.sumOf "x" 5 5).NodesTell (Matcher.sumOf "x" 7 7) ∧
    (Matcher.sumOf "x" 5 5).digest = (Matcher.sumOf "x" 7 7).digest ∧
    (Matcher.sumOf "x" 5 5).walkUp.map id = [2, 5, 3, 1, 5, 4, 0] ∧
    (Matcher.sumOf "x" 5 5).walkDown.length = 7 ∧
    (∀ n k, ((Matcher.sumOf "x" 5 5).walkDown.zip (Matcher.sumOf "x" 7 7).walkDown)[5]?
      = some (n, k) → n.label = k.label) := by
  have hsound := Matcher.sound_sumOf "x" 5 5
  have htell : (Matcher.sumOf "x" 5 5).NodesTell (Matcher.sumOf "x" 7 7) := by
    have hapart : HashSeparates (Matcher.sumOf "x" 5 5) (Matcher.sumOf "x" 7 7) := by
      decide +kernel
    exact hapart.nodesTell hsound (Matcher.sound_sumOf "x" 7 7)
      (labelled_shape_iff.mpr (by decide)) (labelled_shape_iff.mpr (by decide))
  obtain ⟨-, ⟨hup, -⟩, hlength, -, -, hpairs⟩ := walks_are_recursive hsound
  obtain ⟨-, -, -, -, hpaired⟩ := hpairs _ htell rfl
  refine ⟨hsound, htell, rfl, ?_, hlength, fun n k hi => (hpaired 5 n k hi).1⟩
  rw [hup]
  rfl

end Tree

end Lineage
