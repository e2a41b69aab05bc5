/-!
Strict decoding of UTF-8. `decode` gives the characters of a byte sequence or says why its first
faulty place is faulty. Surrogates, overlong forms and code points past the last one are faulty.
-/

namespace Lineage.Text.Utf8

/-- Why bytes are no UTF-8. -/
inductive Fault where
  | invalidStart
  | invalidContinuation
  | unexpectedEnd
  deriving DecidableEq, Repr

/-- The description of a fault. -/
def Fault.message : Fault → String
  | invalidStart => "invalid start byte"
  | invalidContinuation => "invalid continuation byte"
  | unexpectedEnd => "unexpected end of data"

/-- The byte may follow a start byte. -/
def isContinuation (b : UInt8) : Bool := 0x80 ≤ b && b < 0xc0

/-- The second byte of a longer form keeps within what its start byte allows: no overlong form, no
surrogate, nothing past the last code point. -/
def secondFits (start second : UInt8) : Bool :=
  isContinuation second &&
    (if start == 0xe0 then 0xa0 ≤ second
     else if start == 0xed then second < 0xa0
     else if start == 0xf0 then 0x90 ≤ second
     else if start == 0xf4 then second < 0x90
     else true)

/-- The six bits that a continuation byte adds. -/
def tailBits (b : UInt8) : Nat := b.toNat % 64

/-- The code point of a start byte with `mask` low bits and its continuation bytes. -/
def assemble (start : UInt8) (mask : Nat) (tail : List UInt8) : Char :=
  Char.ofNat (tail.foldl (fun n b => 64 * n + tailBits b) (start.toNat % mask))

/-- Decodes bytes, the characters read so far last one first. -/
def decodeOnto : List UInt8 → List Char → Except Fault (List Char)
  | [], done => .ok done.reverse
  | b :: rest, done =>
    if b < 0x80 then decodeOnto rest (Char.ofNat b.toNat :: done)
    else if b < 0xc2 then .error .invalidStart
    else if b < 0xe0 then
      match rest with
      | [] => .error .unexpectedEnd
      | c :: rest =>
        if isContinuation c then decodeOnto rest (assemble b 32 [c] :: done)
        else .error .invalidContinuation
    else if b < 0xf0 then
      match rest with
      | [] => .error .unexpectedEnd
      | [c] => .error (if secondFits b c then .unexpectedEnd else .invalidContinuation)
      | c :: d :: rest =>
        if secondFits b c && isContinuation d then decodeOnto rest (assemble b 16 [c, d] :: done)
        else .error .invalidContinuation
    else if b < 0xf5 then
      match rest with
      | [] => .error .unexpectedEnd
      | [c] => .error (if secondFits b c then .unexpectedEnd else .invalidContinuation)
      | [c, d] =>
        .error (if secondFits b c && isContinuation d then .unexpectedEnd else .invalidContinuation)
      | c :: d :: e :: rest =>
        if secondFits b c && isContinuation d && isContinuation e then
          decodeOnto rest (assemble b 8 [c, d, e] :: done)
        else .error .invalidContinuation
    else .error .invalidStart

/-- The characters of a byte sequence. -/
def decode (bytes : List UInt8) : Except Fault (List Char) := decodeOnto bytes []

end Lineage.Text.Utf8
