import Lineage.Text.CodeRanges
import Lineage.Text.NameTable

/-!
Characters by their names. Most names are listed; those of Han ideographs and Hangul syllables follow
rules. The case of a name does not count.
-/

namespace Lineage.Text

/-- Searches a table of names for one. `code` is the code point of the line before. -/
def searchNames (name : String) : List String → Nat → Option Nat
  | [], _ => none
  | line :: lines, code =>
    let line := line.toList.dropWhile (· == ' ')
    let distance := line.takeWhile (· != ' ')
    let code := code + distance.foldl (fun n c => 16 * n + hexValue c) 0
    if String.ofList (line.drop (distance.length + 1)) == name then some code
    else searchNames name lines code

/-- The character that a table has under a name. -/
def listed? (table name : String) : Option Nat := searchNames name (table.splitOn "\n") 0

/-- The rest of a text after a start. -/
def afterStart? (start : String) (name : List Char) : Option (List Char) :=
  if start.toList.isPrefixOf name then some (name.drop start.length) else none

/-- Han ideographs are named by their code points. -/
def ideograph? (name : List Char) : Option Nat := do
  let digits ← afterStart? "CJK UNIFIED IDEOGRAPH-" name
  let isHex (c : Char) : Bool := ('0' ≤ c && c ≤ '9') || ('A' ≤ c && c ≤ 'F')
  if !digits.all isHex || (digits.length != 4 && digits.length != 5) then none
  else
    let n := digits.foldl (fun n c => 16 * n + hexValue c.toLower) 0
    let ranges : List (Nat × Nat) :=
      [(0x3400, 0x4dbf), (0x4e00, 0x9fff), (0x20000, 0x2a6df), (0x2a700, 0x2b738),
        (0x2b740, 0x2b81d), (0x2b820, 0x2cea1), (0x2ceb0, 0x2ebe0), (0x30000, 0x3134a)]
    if ranges.any fun r => r.1 ≤ n && n ≤ r.2 then some n else none

/-- The sounds that a syllable may start with. -/
def hangulLeads : List String :=
  ["G", "GG", "N", "D", "DD", "R", "M", "B", "BB", "S", "SS", "", "J", "JJ", "C", "K", "T", "P", "H"]

/-- The sounds in the middle of a syllable. -/
def hangulVowels : List String :=
  ["A", "AE", "YA", "YAE", "EO", "E", "YEO", "YE", "O", "WA", "WAE", "OE", "YO", "U", "WEO", "WE",
    "WI", "YU", "EU", "YI", "I"]

/-- The sounds that a syllable may end with. -/
def hangulTails : List String :=
  ["", "G", "GG", "GS", "N", "NJ", "NH", "D", "L", "LG", "LM", "LB", "LS", "LT", "LP", "LH", "M",
    "B", "BS", "S", "SS", "NG", "J", "C", "K", "T", "P", "H"]

/-- Hangul syllables are named by their sounds. -/
def syllable? (name : List Char) : Option Nat := do
  let sounds ← afterStart? "HANGUL SYLLABLE " name
  let word := String.ofList sounds
  (hangulLeads.zipIdx).findSome? fun (lead, l) =>
    (hangulVowels.zipIdx).findSome? fun (vowel, v) =>
      (hangulTails.zipIdx).findSome? fun (tail, t) =>
        if lead ++ vowel ++ tail == word then some (0xac00 + (l * 21 + v) * 28 + t) else none

/-- The code point of the character with a name. -/
def named? (name : List Char) : Option Nat :=
  let upper := name.map Char.toUpper
  let word := String.ofList upper
  (((listed? nameTable word).orElse fun _ => listed? aliasTable word).orElse fun _ =>
    ideograph? upper).orElse fun _ => syllable? upper

end Lineage.Text
