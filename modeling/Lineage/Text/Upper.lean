import Std.Data.TreeMap
import Lineage.Text.Normal

/-!
Upper case by the full case mapping of Unicode, version 14: some characters become several.
-/

namespace Lineage.Text.Upper

/-- Characters with one upper case character each, in runs: the gap before the run, its length, the
step between its members, whether the mapping goes down, and by how much it goes up or down. -/
def runTable : String :=
    "b5 1 1 0 2e7 2a 17 1 1 20 1 7 1 1 20 0 1 1 0 79 1 18 2 1 1 1 1 1 1 e8 1 3 2 1 1 2 8 2 1 1
    2 17 2 1 1 2 3 2 1 1 0 1 1 1 12c 0 1 1 0 c3 2 2 2 1 1 2 1 1 1 1 3 1 1 1 1 5 1 1 1 1 2 1 1
    0 61 3 1 1 1 1 0 1 1 0 a3 3 1 1 0 82 2 3 2 1 1 2 1 1 1 1 4 1 1 1 1 2 1 1 1 1 3 2 2 1 1 2 1
    1 1 1 3 1 1 1 1 1 1 1 0 38 5 1 1 1 1 0 1 1 1 2 1 1 1 1 1 0 1 1 1 2 1 1 1 1 1 0 1 1 1 2 1 8
    2 1 1 0 1 1 1 4f 1 9 2 1 1 2 1 1 1 1 0 1 1 1 2 1 1 1 1 1 3 14 2 1 1 3 9 2 1 1 8 1 1 1 1 2
    2 1 0 2a3f 1 1 1 1 1 4 5 2 1 1 0 1 1 0 2a1f 0 1 1 0 2a1c 0 1 1 0 2a1e 0 1 1 1 d2 0 1 1 1
    ce 1 2 1 1 cd 1 1 1 1 ca 1 1 1 1 cb 0 1 1 0 a54f 3 1 1 1 cd 0 1 1 0 a54b 1 1 1 1 cf 1 1 1
    0 a528 0 1 1 0 a544 1 1 1 1 d1 0 1 1 1 d3 0 1 1 0 a544 0 1 1 0 29f7 0 1 1 0 a541 2 1 1 1
    d3 1 1 1 0 29fd 0 1 1 1 d5 2 1 1 1 d6 7 1 1 0 29e7 2 1 1 1 da 1 1 1 0 a543 0 1 1 1 da 3 1
    1 0 a52a 0 1 1 1 da 0 1 1 1 45 0 2 1 1 d9 0 1 1 1 47 5 1 1 1 db a 1 1 0 a515 0 1 1 0 a512
    a6 1 1 0 54 2b 2 2 1 1 3 1 1 1 1 3 3 1 0 82 2e 1 1 1 26 0 3 1 1 25 1 11 1 1 20 0 1 1 1 1f
    0 9 1 1 20 0 1 1 1 40 0 2 1 1 3f 1 1 1 1 3e 0 1 1 1 39 3 1 1 1 2f 0 1 1 1 36 0 1 1 1 8 1 c
    2 1 1 0 1 1 1 56 0 1 1 1 50 0 1 1 0 7 0 1 1 1 74 1 1 1 1 60 2 1 1 1 1 2 1 1 1 1 34 20 1 1
    20 0 10 1 1 50 1 11 2 1 1 9 1b 2 1 1 2 7 2 1 1 0 1 1 1 f 1 30 2 1 1 31 26 1 1 30 b49 2b 1
    0 bc0 2 3 1 0 bc0 2f8 6 1 1 8 882 1 1 1 186e 0 1 1 1 186d 0 1 1 1 1864 0 2 1 1 1862 0 1 1
    1 1863 0 1 1 1 185c 0 1 1 1 1825 0 1 1 0 89c2 f0 1 1 0 8a04 3 1 1 0 ee6 10 1 1 0 8a38 72
    4b 2 1 1 5 1 1 1 3b 5 30 2 1 1 0 8 1 0 8 8 6 1 0 8 a 8 1 0 8 8 8 1 0 8 8 6 1 0 8 b 4 2 0 8
    8 8 1 0 8 8 2 1 0 4a 0 4 1 0 56 0 2 1 0 64 0 2 1 0 80 0 2 1 0 70 0 2 1 0 7e 32 2 1 0 8 c 1
    1 1 1c25 11 2 1 0 8 e 2 1 0 8 3 1 1 0 7 168 1 1 1 1c 21 10 1 1 10 4 1 1 1 1 34b 1a 1 1 1a
    746 30 1 1 30 1 1 1 1 1 3 1 1 1 2a2b 0 1 1 1 2a28 1 3 2 1 1 6 1 1 1 1 2 1 1 1 1 a 32 2 1 1
    8 2 2 1 1 4 1 1 1 1 c 26 1 1 1c60 1 1 1 1 1c60 5 1 1 1 1c60 7913 17 2 1 1 13 e 2 1 1 87 7
    2 1 1 3 1f 2 1 1 a 2 2 1 1 2 5 2 1 1 4 1 1 1 1 4 2 2 1 1 0 1 1 0 30 2 a 2 1 1 b 8 2 1 1 4
    2 2 1 1 6 1 1 1 1 5 2 2 1 1 1c 1 1 1 1 35c 1 1 1 3a0 1c 50 1 1 97d0 5381 1a 1 1 20 4cd 28
    1 1 28 88 24 1 1 28 9b b 1 1 27 1 f 1 1 27 1 7 1 1 27 1 2 1 1 27 703 33 1 1 40 bcd 20 1 1
    20 5580 20 1 1 20 7aa2 22 1 1 22"

/-- Characters whose upper case has several characters: the gap before each, and its upper case. -/
def longTable : String :=
    "df 2 53 53 69 2 2bc 4e a6 2 4a 30c 19f 3 399 308 301 1f 3 3a5 308 301 1d6 2 535 552 190e 2
    48 331 0 2 54 308 0 2 57 30a 0 2 59 30a 0 2 41 2be b5 2 3a5 313 1 3 3a5 313 300 1 3 3a5
    313 301 1 3 3a5 313 342 29 2 1f08 399 0 2 1f09 399 0 2 1f0a 399 0 2 1f0b 399 0 2 1f0c 399
    0 2 1f0d 399 0 2 1f0e 399 0 2 1f0f 399 0 2 1f08 399 0 2 1f09 399 0 2 1f0a 399 0 2 1f0b 399
    0 2 1f0c 399 0 2 1f0d 399 0 2 1f0e 399 0 2 1f0f 399 0 2 1f28 399 0 2 1f29 399 0 2 1f2a 399
    0 2 1f2b 399 0 2 1f2c 399 0 2 1f2d 399 0 2 1f2e 399 0 2 1f2f 399 0 2 1f28 399 0 2 1f29 399
    0 2 1f2a 399 0 2 1f2b 399 0 2 1f2c 399 0 2 1f2d 399 0 2 1f2e 399 0 2 1f2f 399 0 2 1f68 399
    0 2 1f69 399 0 2 1f6a 399 0 2 1f6b 399 0 2 1f6c 399 0 2 1f6d 399 0 2 1f6e 399 0 2 1f6f 399
    0 2 1f68 399 0 2 1f69 399 0 2 1f6a 399 0 2 1f6b 399 0 2 1f6c 399 0 2 1f6d 399 0 2 1f6e 399
    0 2 1f6f 399 2 2 1fba 399 0 2 391 399 0 2 386 399 1 2 391 342 0 3 391 342 399 4 2 391 399
    5 2 1fca 399 0 2 397 399 0 2 389 399 1 2 397 342 0 3 397 342 399 4 2 397 399 5 3 399 308
    300 0 3 399 308 301 2 2 399 342 0 3 399 308 342 a 3 3a5 308 300 0 3 3a5 308 301 0 2 3a1
    313 1 2 3a5 342 0 3 3a5 308 342 a 2 1ffa 399 0 2 3a9 399 0 2 38f 399 1 2 3a9 342 0 3 3a9
    342 399 4 2 3a9 399 db03 2 46 46 0 2 46 49 0 2 46 4c 0 3 46 46 49 0 3 46 46 4c 0 2 53 54 0
    2 53 54 c 2 544 546 0 2 544 535 0 2 544 53b 0 2 54e 546 0 2 544 53d"

/-- Reads runs. `next` is the code point after the last run. -/
def readRuns : List Nat → Nat → List (Nat × List Nat)
  | gap :: length :: step :: down :: delta :: rest, next =>
    let first := next + gap
    (List.range length).map (fun i =>
      let n := first + i * step
      (n, [if down = 1 then n - delta else n + delta]))
      ++ readRuns rest (first + (length - 1) * step + 1)
  | _, _ => []

/-- The upper case of each character from 128 on that has one. -/
def mapping : Std.TreeMap Nat (List Nat) :=
  let numbers := hexNumbers longTable
  .ofList (readRuns (hexNumbers runTable) 0
    ++ Normal.readDecompositions numbers.length numbers 0)

/-- The upper case of a character. -/
def char (c : Char) : List Char :=
  if c.toNat < 128 then [c.toUpper]
  else
    match mapping.get? c.toNat with
    | some ns => ns.map Char.ofNat
    | none => [c]

end Lineage.Text.Upper

namespace Lineage.Text

/-- A text in upper case. -/
def upper (s : String) : String := String.ofList (s.toList.flatMap Upper.char)

end Lineage.Text
