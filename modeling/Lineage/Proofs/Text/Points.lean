import Lineage.Text.Utf8
import Mathlib.Data.List.Basic

/-!
# Texts with surrogates in bytes

A `String` holds characters only. A text that comes from elsewhere may hold surrogates, alone or in
pairs; it is a list of code points. Its bytes are those of UTF-8, with a surrogate written in three
bytes as its neighbours are, and they determine it: the first byte of a code point says how many
follow (`Points.encode_injective`). On the characters of a string the bytes are those that the
string has (`Points.encode_ofString`).
-/

namespace Lineage.Text

/-- A code point, which may be a surrogate. -/
abbrev Point : Type := Fin 0x110000

/-- A text given by its code points. -/
abbrev Points : Type := List Point

namespace Point

/-- A byte that is not the first one of its code point. -/
def follower (n : Nat) : UInt8 := .ofNat (n % 64 + 0x80)

/-- The bytes of a code point. -/
def utf8 (p : Point) : List UInt8 :=
  if p.val ≤ 0x7f then [.ofNat p.val]
  else if p.val ≤ 0x7ff then [.ofNat (p.val / 64 + 0xc0), follower p.val]
  else if p.val ≤ 0xffff then
    [.ofNat (p.val / 4096 + 0xe0), follower (p.val / 64), follower p.val]
  else [.ofNat (p.val / 262144 + 0xf0), follower (p.val / 4096), follower (p.val / 64),
    follower p.val]

/-- The code point that bytes begin with, and the bytes after it. -/
def first? : List UInt8 → Option (Nat × List UInt8)
  | [] => none
  | b :: rest =>
    if b.toNat < 0x80 then some (b.toNat, rest)
    else if b.toNat < 0xe0 then
      match rest with
      | c :: rest => some (64 * (b.toNat - 0xc0) + Utf8.tailBits c, rest)
      | _ => none
    else if b.toNat < 0xf0 then
      match rest with
      | c :: d :: rest =>
        some (4096 * (b.toNat - 0xe0) + 64 * Utf8.tailBits c + Utf8.tailBits d, rest)
      | _ => none
    else
      match rest with
      | c :: d :: e :: rest =>
        some (262144 * (b.toNat - 0xf0) + 4096 * Utf8.tailBits c + 64 * Utf8.tailBits d
          + Utf8.tailBits e, rest)
      | _ => none

theorem tailBits_follower (n : Nat) : Utf8.tailBits (follower n) = n % 64 := by
  rw [Utf8.tailBits, follower, UInt8.toNat_ofNat']
  omega

/-- The bytes of a code point are read back, whatever comes after them. -/
theorem first?_utf8 (p : Point) (rest : List UInt8) :
    first? (utf8 p ++ rest) = some (p.val, rest) := by
  have hp := p.isLt
  have hbyte : ∀ n, n < 256 → (UInt8.ofNat n).toNat = n := fun n hn => by
    rw [UInt8.toNat_ofNat', Nat.mod_eq_of_lt hn]
  -- the first byte of each form lies above those of the shorter forms
  unfold utf8
  by_cases h₁ : p.val ≤ 0x7f
  · rw [if_pos h₁]
    show ite _ _ _ = _
    rw [hbyte _ (by omega), if_pos (by omega)]
    rfl
  rw [if_neg h₁]
  by_cases h₂ : p.val ≤ 0x7ff
  · rw [if_pos h₂]
    simp only [List.cons_append, List.nil_append, first?, tailBits_follower]
    rw [hbyte _ (by omega), if_neg (by omega), if_pos (by omega)]
    congr 2
    omega
  rw [if_neg h₂]
  by_cases h₃ : p.val ≤ 0xffff
  · rw [if_pos h₃]
    simp only [List.cons_append, List.nil_append, first?, tailBits_follower]
    rw [hbyte _ (by omega), if_neg (by omega), if_neg (by omega), if_pos (by omega)]
    congr 2
    omega
  · rw [if_neg h₃]
    simp only [List.cons_append, List.nil_append, first?, tailBits_follower]
    rw [hbyte _ (by omega), if_neg (by omega), if_neg (by omega), if_neg (by omega)]
    congr 2
    omega

theorem utf8_append_inj {p q : Point} {rest rest' : List UInt8}
    (h : utf8 p ++ rest = utf8 q ++ rest') : p = q ∧ rest = rest' := by
  have hread := congrArg first? h
  rw [first?_utf8, first?_utf8, Option.some.injEq, Prod.mk.injEq] at hread
  exact ⟨Fin.ext hread.1, hread.2⟩

/-- The code point of a character. -/
def ofChar (c : Char) : Point := ⟨c.toNat, by
  rcases c.valid with h | h
  · exact Nat.lt_trans h (by decide)
  · exact h.2⟩

theorem ofChar_injective : Function.Injective ofChar := fun _ _ h =>
  Char.toNat_inj.mp (Fin.mk.inj h)

/-- The bytes of a character are those of its code point. -/
theorem utf8_ofChar (c : Char) : utf8 (ofChar c) = String.utf8EncodeChar c := by
  have hlt : c.val.toNat < 0x110000 := (ofChar c).isLt
  show (if c.val.toNat ≤ 0x7f then _ else if c.val.toNat ≤ 0x7ff then _ else
    if c.val.toNat ≤ 0xffff then _ else _) = _
  unfold String.utf8EncodeChar
  dsimp only
  split_ifs with h₁ h₂ h₃
  · rfl
  · rw [Nat.mod_eq_of_lt (by omega)]
    rfl
  · rw [Nat.mod_eq_of_lt (b := 16) (by omega)]
    rfl
  · rw [Nat.mod_eq_of_lt (b := 8) (by omega)]
    rfl

end Point

namespace Points

/-- The bytes of a text. -/
def encode (t : Points) : ByteArray := (t.flatMap Point.utf8).toByteArray

/-- The code points of a string. -/
def ofString (s : String) : Points := s.toList.map Point.ofChar

theorem flatMap_utf8_injective : Function.Injective fun t : Points => t.flatMap Point.utf8 := by
  have hne : ∀ (p : Point) (rest : List UInt8), Point.utf8 p ++ rest ≠ [] := by
    intro p rest h
    have hread := congrArg Point.first? h
    rw [Point.first?_utf8] at hread
    cases hread
  intro t
  induction t with
  | nil =>
    intro u h
    cases u with
    | nil => rfl
    | cons p u => exact absurd h.symm (hne p _)
  | cons p t ih =>
    intro u h
    cases u with
    | nil => exact absurd h (hne p _)
    | cons q u =>
      obtain ⟨rfl, hrest⟩ := Point.utf8_append_inj h
      rw [ih hrest]

/-- **The bytes determine the text.** -/
theorem encode_injective : Function.Injective encode := fun _ _ h =>
  flatMap_utf8_injective (List.toByteArray_inj.mp h)

theorem ofString_injective : Function.Injective ofString := fun _ _ h =>
  String.toList_injective (List.map_injective_iff.mpr Point.ofChar_injective h)

theorem zero_mem_ofString {s : String} : 0 ∈ ofString s ↔ '\x00' ∈ s.toList :=
  List.mem_map_of_injective Point.ofChar_injective (a := '\x00')

/-- **A string has the bytes of its code points.** -/
theorem encode_ofString (s : String) : encode (ofString s) = s.toUTF8 := by
  rw [encode, ofString, List.flatMap_map]
  simp only [Point.utf8_ofChar]
  rw [String.toUTF8_eq_toByteArray]
  conv => rhs; rw [← String.ofList_toList (s := s)]
  rw [String.toByteArray_ofList]
  rfl

end Points

end Lineage.Text
