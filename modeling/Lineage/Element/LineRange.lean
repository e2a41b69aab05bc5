/-!
Inclusive ranges of source lines. `contains` and `overlapsWholly` compare two ranges, `delta` adds
up how far their ends are apart.
-/

namespace Lineage

/-- The lines from `first` to `last`, both included; lines count from one. -/
structure LineRange where
  first : Int
  last : Int
  deriving DecidableEq, Repr, Inhabited

namespace LineRange

/-- `r` covers every line of `s`. -/
def contains (r s : LineRange) : Bool :=
  r.first ≤ s.first && s.last ≤ r.last

/-- `line` lies in the range. -/
def holds (r : LineRange) (line : Int) : Bool :=
  r.first ≤ line && line ≤ r.last

/-- One of the two ranges covers the other. -/
def overlapsWholly (r s : LineRange) : Bool :=
  r.contains s || s.contains r

/-- How far the first lines and the last lines are apart, added up. -/
def delta (r s : LineRange) : Nat :=
  (r.first - s.first).natAbs + (r.last - s.last).natAbs

/-- The number of lines past the first one; negative for a range that ends before it starts. -/
def extent (r : LineRange) : Int :=
  r.last - r.first

/-- The two ends with a hyphen between them. -/
def text (r : LineRange) : String :=
  toString r.first ++ "-" ++ toString r.last

end LineRange

end Lineage
