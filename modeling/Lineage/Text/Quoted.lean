import Lineage.Text.Printable

/-!
Text and bytes between quotes. Characters that do not print are written as escapes, and the quote
mark is chosen so that as few marks as possible need one: single quotes unless only they occur
inside.

A text is a list of code points, which may be surrogates; a quoted text has none.
-/

namespace Lineage.Text.Quoted

/-- The hexadecimal digit of a number below sixteen. -/
def hexDigit (n : Nat) : Char :=
  if n < 10 then Char.ofNat (48 + n) else Char.ofNat (87 + n)

/-- The last `count` hexadecimal digits of a number, with zeros in front, before `rest`. -/
def hexOnto : Nat → Nat → List Char → List Char
  | 0, _, rest => rest
  | count + 1, n, rest => hexOnto count (n / 16) (hexDigit (n % 16) :: rest)

/-- The escape of a code point. -/
def escape (n : Nat) : List Char :=
  if n = 92 then ['\\', '\\']
  else if n = 9 then ['\\', 't']
  else if n = 10 then ['\\', 'n']
  else if n = 13 then ['\\', 'r']
  else if n < 0x100 then '\\' :: 'x' :: hexOnto 2 n []
  else if n < 0x10000 then '\\' :: 'u' :: hexOnto 4 n []
  else '\\' :: 'U' :: hexOnto 8 n []

/-- The quote mark for a text: a double quote if there are only single quotes inside. -/
def mark (points : List Nat) : Nat :=
  if points.contains 39 && !points.contains 34 then 34 else 39

/-- A code point between quotes. -/
def point (quote n : Nat) : List Char :=
  if n = quote then ['\\', Char.ofNat n]
  else if n = 92 || !isPrintable n then escape n
  else [Char.ofNat n]

/-- A text between quotes. -/
def text (points : List Nat) : List Char :=
  let quote := mark points
  Char.ofNat quote :: (points.flatMap (point quote) ++ [Char.ofNat quote])

/-- A byte between quotes: bytes from 127 on never print. -/
def byte (quote n : Nat) : List Char :=
  if n = quote then ['\\', Char.ofNat n]
  else if n = 92 || n < 32 || 127 ≤ n then escape n
  else [Char.ofNat n]

/-- Bytes between quotes, with a `b` in front. -/
def bytes (bs : List UInt8) : List Char :=
  let points := bs.map (·.toNat)
  let quote := mark points
  'b' :: Char.ofNat quote :: (points.flatMap (byte quote) ++ [Char.ofNat quote])

end Lineage.Text.Quoted
