import Lineage.Sequence.Total
import Mathlib.Data.List.Flatten
import Mathlib.Data.List.Forall2
import Mathlib.Data.List.Nodup
import Mathlib.Data.List.Pairwise

/-!
# Lists made of pieces

A list that is put together from one piece for each item of another list: its length, what is
related in two such lists, and where an element comes from if nothing occurs twice. A list is cut
back into its pieces at a mark that one of them does not hold, or if they have one length.
-/

namespace Lineage.Sequence

theorem length_flatMap {β γ : Type} (f : β → List γ) (l : List β) :
    (l.flatMap f).length = total (l.map fun b => (f b).length) := by
  induction l with
  | nil => rfl
  | cons b l ih => rw [List.flatMap_cons, List.length_append, ih, List.map_cons, total]

/-- Pieces that are related item by item, put together. -/
theorem forall₂_flatMap {α β γ δ : Type} {S : γ → δ → Prop} {f : α → List γ}
    {g : β → List δ} {as : List α} {bs : List β}
    (h : List.Forall₂ (fun a b => List.Forall₂ S (f a) (g b)) as bs) :
    List.Forall₂ S (as.flatMap f) (bs.flatMap g) := by
  induction h with
  | nil => exact .nil
  | cons hab _ ih => exact List.rel_append hab ih

/-- Pieces of equal lengths are zipped one by one. -/
theorem zip_flatMap {α β γ δ : Type} {f : α → List γ} {g : β → List δ} {as : List α} {bs : List β}
    (h : List.Forall₂ (fun a b => (f a).length = (g b).length) as bs) :
    (as.flatMap f).zip (bs.flatMap g) = (as.zip bs).flatMap fun p => (f p.1).zip (g p.2) := by
  induction h with
  | nil => rfl
  | cons hab _ ih =>
    rw [List.flatMap_cons, List.flatMap_cons, List.zip_cons_cons, List.flatMap_cons,
      List.zip_append hab, ih]

/-- What occurs once altogether comes from one piece. -/
theorem eq_of_mem_pieces {β γ : Type} {f : β → List γ} {l : List β} (h : (l.flatMap f).Nodup)
    {b b' : β} (hb : b ∈ l) (hb' : b' ∈ l) {c : γ} (hc : c ∈ f b) (hc' : c ∈ f b') : b = b' := by
  have hapart := (List.nodup_flatMap.mp h).2
  have : Std.Symm (Function.onFun List.Disjoint f) :=
    ⟨fun _ _ hdisjoint _ hi hi' => hdisjoint hi' hi⟩
  by_contra hne
  exact hapart.forall hb hb' hne hc hc'

/-! ### Cutting a list into its pieces -/

theorem append_cons_inj_of_notMem_left {α : Type} {a : α} {l l' r r' : List α}
    (hl : a ∉ l) (hl' : a ∉ l') (h : l ++ a :: r = l' ++ a :: r') : l = l' ∧ r = r' := by
  induction l generalizing l' with
  | nil =>
    cases l' with
    | nil => exact ⟨rfl, (List.cons.inj h).2⟩
    | cons b l' => exact absurd ((List.cons.inj h).1 ▸ List.mem_cons_self) hl'
  | cons b l ih =>
    cases l' with
    | nil => exact absurd ((List.cons.inj h).1 ▸ List.mem_cons_self) hl
    | cons b' l' =>
      obtain ⟨rfl, htail⟩ := List.cons.inj h
      obtain ⟨rfl, hrest⟩ := ih (fun ha => hl (List.mem_cons_of_mem _ ha))
        (fun ha => hl' (List.mem_cons_of_mem _ ha)) htail
      exact ⟨rfl, hrest⟩

theorem append_cons_inj_of_notMem_right {α : Type} {a : α} {l l' r r' : List α}
    (hr : a ∉ r) (hr' : a ∉ r') (h : l ++ a :: r = l' ++ a :: r') : l = l' ∧ r = r' := by
  have hback := congrArg List.reverse h
  simp only [List.reverse_append, List.reverse_cons, List.append_assoc, List.cons_append,
    List.nil_append] at hback
  obtain ⟨hrest, hleft⟩ := append_cons_inj_of_notMem_left (fun ha => hr (List.mem_reverse.mp ha))
    (fun ha => hr' (List.mem_reverse.mp ha)) hback
  exact ⟨List.reverse_injective hleft, List.reverse_injective hrest⟩

/-- Pieces of one length are cut out of the list that they make up. -/
theorem flatMap_inj_of_length {β γ : Type} {f : β → List γ} (hf : Function.Injective f) {n : Nat}
    (hn : 0 < n) {bs bs' : List β} (h : ∀ b ∈ bs, (f b).length = n)
    (h' : ∀ b ∈ bs', (f b).length = n) (heq : bs.flatMap f = bs'.flatMap f) : bs = bs' := by
  -- nothing is left over, because the pieces are not empty
  have hnil : ∀ {b : β} {l : List γ}, (f b).length = n → [] ≠ f b ++ l := by
    intro b l hb hempty
    have hlength := congrArg List.length hempty
    rw [List.length_append, hb, List.length_nil] at hlength
    omega
  induction bs generalizing bs' with
  | nil =>
    cases bs' with
    | nil => rfl
    | cons b bs' => exact absurd heq (hnil (h' b List.mem_cons_self))
  | cons b bs ih =>
    cases bs' with
    | nil => exact absurd heq.symm (hnil (h b List.mem_cons_self))
    | cons b' bs' =>
      obtain ⟨hb, hbs⟩ := List.forall_mem_cons.mp h
      obtain ⟨hb', hbs'⟩ := List.forall_mem_cons.mp h'
      obtain ⟨hfirst, hrest⟩ := List.append_inj heq (hb.trans hb'.symm)
      rw [hf hfirst, ih hbs hbs' hrest]

end Lineage.Sequence
