import Lineage.Decimal.Shortest
import Lineage.Source.Syntax
import Lineage.Text.Quoted

/-!
The text of constants.
-/

namespace Lineage.Source.Literal

/-- Floating point constants are written with a point, positionally from a ten-thousandth up to
sixteen digits. -/
def floatStyle : Decimal.ShortestStyle := ⟨-4, 15, true⟩

/-- The factor of an imaginary constant is written without a point if it is whole. -/
def imaginaryStyle : Decimal.ShortestStyle := ⟨-4, 15, false⟩

/-- The text of a constant. -/
def repr : Literal → String
  | .none => "None"
  | .bool b => if b then "True" else "False"
  | .ellipsis => "Ellipsis"
  | .int n => toString n
  | .float x => floatStyle.text x
  | .imaginary x => imaginaryStyle.text x ++ "j"
  | .text points => String.ofList (Text.Quoted.text points)
  | .bytes bs => String.ofList (Text.Quoted.bytes bs)

end Lineage.Source.Literal
