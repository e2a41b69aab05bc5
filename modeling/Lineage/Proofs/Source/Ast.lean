import Lineage.Proofs.Tree.Digest

/-!
# Abstract syntax, and what its shape leaves out

A node of the abstract syntax has a class and fields. A field holds nodes, some of which may be
missing, or texts. The shape of a node keeps the nodes of all fields in one list of children, and
the texts of some fields as its value. What it leaves out is the `Unseen` of the node: which places
of each field are taken, where the texts of the value end, and the texts of the other fields.

`Ast.eq_iff`: two asts are equal if and only if they agree in shape and in what the shape leaves
out.
-/

namespace Lineage.Source

/-- The name of a class of nodes. -/
structure NodeClass where
  name : String
  named : '\x00' ∉ name.toList

/-- A node without its lines. `kept` are the texts that become its value, `dropped` the other fields
of texts, and `fields` those of nodes, with the places of missing ones. -/
inductive Ast where
  | node (cls : NodeClass) (kept : List String) (dropped : List (List String))
      (fields : List (List (Option Ast)))

/-- What the shape of a node leaves out of its fields. -/
structure Unseen where
  widths : List Nat
  dropped : List (List String)
  taken : List (List Bool)
  deriving DecidableEq

namespace Ast

/-- A node of a class whose fields all hold nodes. -/
def inner (name : String) (fields : List (List (Option Ast)))
    (named : '\x00' ∉ name.toList := by simp) : Ast :=
  .node ⟨name, named⟩ [] [] fields

/-- A node of a class with fields of texts. -/
def holding (name : String) (kept : List String) (dropped : List (List String))
    (fields : List (List (Option Ast))) (named : '\x00' ∉ name.toList := by simp) : Ast :=
  .node ⟨name, named⟩ kept dropped fields

mutual

/-- The shape of an ast: its classes and values, with the nodes of all fields in one list. -/
def shape : Ast → Shape
  | node cls kept _ fields => .node cls.name (",".intercalate kept) (fieldShapes fields)

/-- The shapes of the nodes of fields. -/
def fieldShapes : List (List (Option Ast)) → List Shape
  | [] => []
  | places :: fields => placeShapes places ++ fieldShapes fields

/-- The shapes of the nodes in the places of a field. -/
def placeShapes : List (Option Ast) → List Shape
  | [] => []
  | none :: places => placeShapes places
  | some a :: places => a.shape :: placeShapes places

end

@[simp] theorem shape_inner (name : String) (fields : List (List (Option Ast)))
    (named : '\x00' ∉ name.toList) :
    (inner name fields named).shape = .node name "" (fieldShapes fields) := rfl

@[simp] theorem shape_holding (name : String) (kept : List String) (dropped : List (List String))
    (fields : List (List (Option Ast))) (named : '\x00' ∉ name.toList) :
    (holding name kept dropped fields named).shape
      = .node name (",".intercalate kept) (fieldShapes fields) := rfl

@[simp] theorem fieldShapes_nil : fieldShapes [] = [] := rfl

@[simp] theorem fieldShapes_cons (places : List (Option Ast)) (fields : List (List (Option Ast))) :
    fieldShapes (places :: fields) = placeShapes places ++ fieldShapes fields := rfl

@[simp] theorem placeShapes_nil : placeShapes [] = [] := rfl

@[simp] theorem placeShapes_some (a : Ast) (places : List (Option Ast)) :
    placeShapes (some a :: places) = a.shape :: placeShapes places := rfl

theorem placeShapes_cons (place : Option Ast) (places : List (Option Ast)) :
    placeShapes (place :: places) = placeShapes [place] ++ placeShapes places := by
  cases place <;> rfl

mutual

/-- What the shape of an ast leaves out, node by node, parents first. -/
def unseen : Ast → List Unseen
  | node _ kept dropped fields =>
    ⟨kept.map String.length, dropped, fields.map (·.map Option.isSome)⟩ :: fieldUnseen fields

/-- What the shapes of the nodes of fields leave out. -/
def fieldUnseen : List (List (Option Ast)) → List Unseen
  | [] => []
  | places :: fields => placeUnseen places ++ fieldUnseen fields

/-- What the shapes of the nodes in the places of a field leave out. -/
def placeUnseen : List (Option Ast) → List Unseen
  | [] => []
  | none :: places => placeUnseen places
  | some a :: places => a.unseen ++ placeUnseen places

end

mutual

/-- Classes have names without NUL. -/
theorem labelled_shape : ∀ a : Ast, a.shape.Labelled
  | node cls _ _ fields => .node cls.named (labelled_fieldShapes fields)

theorem labelled_fieldShapes :
    ∀ fields : List (List (Option Ast)), ∀ s ∈ fieldShapes fields, s.Labelled
  | [], _, hs => nomatch hs
  | places :: fields, s, hs => by
    rcases List.mem_append.mp hs with hs | hs
    · exact labelled_placeShapes places s hs
    · exact labelled_fieldShapes fields s hs

theorem labelled_placeShapes :
    ∀ places : List (Option Ast), ∀ s ∈ placeShapes places, s.Labelled
  | [], _, hs => nomatch hs
  | none :: places, s, hs => labelled_placeShapes places s hs
  | some a :: places, s, hs => by
    rcases List.mem_cons.mp hs with rfl | hs
    · exact labelled_shape a
    · exact labelled_placeShapes places s hs

end

/-- Joined texts are cut apart again where their lengths are known. -/
theorem intercalate_inj {sep : String} {l l' : List String}
    (hlength : l.map String.length = l'.map String.length)
    (h : sep.intercalate l = sep.intercalate l') : l = l' := by
  induction l generalizing l' with
  | nil => exact (List.map_eq_nil_iff.mp hlength.symm).symm
  | cons s l ih =>
    cases l' with
    | nil => exact nomatch hlength
    | cons s' l' =>
      obtain ⟨hs, hl⟩ := List.cons.inj hlength
      by_cases hnil : l = []
      · subst hnil
        obtain rfl := List.map_eq_nil_iff.mp hl.symm
        rw [String.intercalate_singleton, String.intercalate_singleton] at h
        rw [h]
      · have hnil' : l' ≠ [] := fun heq => hnil (List.map_eq_nil_iff.mp (heq ▸ hl))
        rw [String.intercalate_cons_of_ne_nil hnil, String.intercalate_cons_of_ne_nil hnil'] at h
        have htext := congrArg String.toList h
        simp only [String.toList_append, List.append_assoc] at htext
        obtain ⟨hhead, htail⟩ := List.append_inj htext hs
        obtain ⟨-, hrest⟩ := List.append_inj htail rfl
        rw [String.toList_injective hhead, ih hl (String.toList_injective hrest)]

mutual

/-- An ast is read off its shape and what the shape leaves out, in front of anything else. -/
theorem eq_of_unseen_append : ∀ {a b : Ast} {u v : List Unseen}, a.shape = b.shape →
    a.unseen ++ u = b.unseen ++ v → a = b ∧ u = v
  | node ⟨name, _⟩ kept dropped fields, node ⟨name', _⟩ kept' dropped' fields', u, v, hs, hu => by
    obtain ⟨hname, hvalue, hshapes⟩ := Shape.node.inj hs
    obtain ⟨hhead, hrest⟩ := List.cons.inj hu
    obtain ⟨hwidths, hdropped, htaken⟩ := Unseen.mk.inj hhead
    -- the fields first: the list of `Unseen` does not say where this node ends
    obtain ⟨hfields, huv⟩ := fields_eq_of_unseen_append htaken hshapes hrest
    obtain rfl : name = name' := hname
    obtain rfl := intercalate_inj hwidths hvalue
    exact ⟨by rw [hdropped, hfields], huv⟩

theorem fields_eq_of_unseen_append : ∀ {fs gs : List (List (Option Ast))} {u v : List Unseen},
    fs.map (·.map Option.isSome) = gs.map (·.map Option.isSome) →
    fieldShapes fs = fieldShapes gs → fieldUnseen fs ++ u = fieldUnseen gs ++ v → fs = gs ∧ u = v
  | [], [], u, v, _, _, hu => ⟨rfl, hu⟩
  | f :: fs, g :: gs, u, v, ht, hs, hu => by
    obtain ⟨hf, hfs⟩ := List.cons.inj ht
    rw [fieldUnseen, fieldUnseen, List.append_assoc, List.append_assoc] at hu
    obtain ⟨rfl, hshapes, hunseen⟩ := places_eq_of_unseen_append hf hs hu
    obtain ⟨rfl, huv⟩ := fields_eq_of_unseen_append hfs hshapes hunseen
    exact ⟨rfl, huv⟩

theorem places_eq_of_unseen_append : ∀ {is js : List (Option Ast)} {s t : List Shape}
    {u v : List Unseen}, is.map Option.isSome = js.map Option.isSome →
    placeShapes is ++ s = placeShapes js ++ t → placeUnseen is ++ u = placeUnseen js ++ v →
    is = js ∧ s = t ∧ u = v
  | [], [], s, t, u, v, _, hs, hu => ⟨rfl, hs, hu⟩
  | none :: is, none :: js, s, t, u, v, ht, hs, hu => by
    obtain ⟨rfl, hst⟩ := places_eq_of_unseen_append (List.cons.inj ht).2 hs hu
    exact ⟨rfl, hst⟩
  | some a :: is, some b :: js, s, t, u, v, ht, hs, hu => by
    obtain ⟨hshape, hshapes⟩ := List.cons.inj hs
    rw [placeUnseen, placeUnseen, List.append_assoc, List.append_assoc] at hu
    obtain ⟨rfl, hunseen⟩ := eq_of_unseen_append hshape hu
    obtain ⟨rfl, hst⟩ := places_eq_of_unseen_append (List.cons.inj ht).2 hshapes hunseen
    exact ⟨rfl, hst⟩

end

/-- **An ast is its shape together with what the shape leaves out.** -/
theorem eq_iff {a b : Ast} : a = b ↔ a.shape = b.shape ∧ a.unseen = b.unseen := by
  constructor
  · rintro rfl
    exact ⟨rfl, rfl⟩
  · rintro ⟨hshape, hunseen⟩
    exact (eq_of_unseen_append (u := []) (v := []) hshape (by rw [hunseen])).1

end Ast

end Lineage.Source
