/-!
BLAKE2b without a key, for any digest length up to 64 bytes.

The working state is sixteen 64-bit words. A message is cut into blocks of 128 bytes, the last one
padded with zero bytes; each block is folded into the eight chaining words by twelve rounds. The
byte counter stays below `2 ^ 64`, so its high word is zero.
-/

namespace Lineage.Digest.Blake2b

/-- The four words that one mixing step works on. -/
structure Quad where
  a : UInt64
  b : UInt64
  c : UInt64
  d : UInt64

/-- Rotation of a word to the right. -/
@[inline] def rotateRight (w : UInt64) (n : UInt64) : UInt64 :=
  (w >>> n) ||| (w <<< (64 - n))

/-- One mixing step with two message words. -/
@[inline] def Quad.mix (q : Quad) (x y : UInt64) : Quad :=
  let a := q.a + q.b + x
  let d := rotateRight (q.d ^^^ a) 32
  let c := q.c + d
  let b := rotateRight (q.b ^^^ c) 24
  let a := a + b + y
  let d := rotateRight (d ^^^ a) 16
  let c := c + d
  let b := rotateRight (b ^^^ c) 63
  ⟨a, b, c, d⟩

/-- The working state, four columns of a four by four square of words. -/
structure Square where
  q0 : Quad
  q1 : Quad
  q2 : Quad
  q3 : Quad

/-- The chaining value: eight words. -/
structure Chain where
  h0 : UInt64
  h1 : UInt64
  h2 : UInt64
  h3 : UInt64
  h4 : UInt64
  h5 : UInt64
  h6 : UInt64
  h7 : UInt64

/-- The initial words, the fractional parts of the square roots of the first eight primes. -/
def initial : Chain where
  h0 := 0x6a09e667f3bcc908
  h1 := 0xbb67ae8584caa73b
  h2 := 0x3c6ef372fe94f82b
  h3 := 0xa54ff53a5f1d36f1
  h4 := 0x510e527fade682d1
  h5 := 0x9b05688c2b3e6c1f
  h6 := 0x1f83d9abfb41bd6b
  h7 := 0x5be0cd19137e2179

/-- The order in which each of the twelve rounds takes the sixteen message words. -/
def schedule : List (List Nat) :=
  [[0, 1, 2, 3, 4, 5, 6, 7, 8, 9, 10, 11, 12, 13, 14, 15],
   [14, 10, 4, 8, 9, 15, 13, 6, 1, 12, 0, 2, 11, 7, 5, 3],
   [11, 8, 12, 0, 5, 2, 15, 13, 10, 14, 3, 6, 7, 1, 9, 4],
   [7, 9, 3, 1, 13, 12, 11, 14, 2, 6, 5, 10, 4, 0, 15, 8],
   [9, 0, 5, 7, 2, 4, 10, 15, 14, 1, 11, 12, 6, 8, 3, 13],
   [2, 12, 6, 10, 0, 11, 8, 3, 4, 13, 7, 5, 15, 14, 1, 9],
   [12, 5, 1, 15, 14, 13, 4, 10, 0, 7, 6, 3, 9, 2, 8, 11],
   [13, 11, 7, 14, 12, 1, 3, 9, 5, 0, 15, 4, 8, 6, 2, 10],
   [6, 15, 14, 9, 11, 3, 0, 8, 12, 2, 13, 7, 1, 4, 10, 5],
   [10, 2, 8, 4, 7, 6, 1, 5, 15, 11, 9, 14, 3, 12, 13, 0],
   [0, 1, 2, 3, 4, 5, 6, 7, 8, 9, 10, 11, 12, 13, 14, 15],
   [14, 10, 4, 8, 9, 15, 13, 6, 1, 12, 0, 2, 11, 7, 5, 3]]

/-- The byte at a position, zero past the end. -/
@[inline] def byteAt (message : ByteArray) (i : Nat) : UInt64 :=
  if h : i < message.size then message[i].toUInt64 else 0

/-- Word `i` of the block that starts at `base`, lowest byte first. -/
def wordAt (message : ByteArray) (base i : Nat) : UInt64 :=
  let p := base + 8 * i
  byteAt message p ||| (byteAt message (p + 1) <<< 8) ||| (byteAt message (p + 2) <<< 16)
    ||| (byteAt message (p + 3) <<< 24) ||| (byteAt message (p + 4) <<< 32)
    ||| (byteAt message (p + 5) <<< 40) ||| (byteAt message (p + 6) <<< 48)
    ||| (byteAt message (p + 7) <<< 56)

/-- One round: the columns are mixed, then the diagonals. -/
def Square.round (s : Square) (word : Nat → UInt64) : List Nat → Square
  | [i0, i1, i2, i3, i4, i5, i6, i7, i8, i9, i10, i11, i12, i13, i14, i15] =>
    let p := s.q0.mix (word i0) (word i1)
    let q := s.q1.mix (word i2) (word i3)
    let r := s.q2.mix (word i4) (word i5)
    let t := s.q3.mix (word i6) (word i7)
    let d0 := Quad.mix ⟨p.a, q.b, r.c, t.d⟩ (word i8) (word i9)
    let d1 := Quad.mix ⟨q.a, r.b, t.c, p.d⟩ (word i10) (word i11)
    let d2 := Quad.mix ⟨r.a, t.b, p.c, q.d⟩ (word i12) (word i13)
    let d3 := Quad.mix ⟨t.a, p.b, q.c, r.d⟩ (word i14) (word i15)
    ⟨⟨d0.a, d3.b, d2.c, d1.d⟩, ⟨d1.a, d0.b, d3.c, d2.d⟩,
      ⟨d2.a, d1.b, d0.c, d3.d⟩, ⟨d3.a, d2.b, d1.c, d0.d⟩⟩
  | _ => s

/-- Folds the block that starts at `base` into the chaining value. `count` is the number of message
bytes up to the end of the block, `last` marks the final block. -/
def compress (message : ByteArray) (base count : Nat) (last : Bool) (h : Chain) : Chain :=
  let start : Square :=
    ⟨⟨h.h0, h.h4, initial.h0, initial.h4 ^^^ UInt64.ofNat count⟩,
      ⟨h.h1, h.h5, initial.h1, initial.h5⟩,
      ⟨h.h2, h.h6, initial.h2, if last then ~~~initial.h6 else initial.h6⟩,
      ⟨h.h3, h.h7, initial.h3, initial.h7⟩⟩
  let s := schedule.foldl (fun s order => s.round (wordAt message base) order) start
  ⟨h.h0 ^^^ s.q0.a ^^^ s.q0.c, h.h1 ^^^ s.q1.a ^^^ s.q1.c, h.h2 ^^^ s.q2.a ^^^ s.q2.c,
    h.h3 ^^^ s.q3.a ^^^ s.q3.c, h.h4 ^^^ s.q0.b ^^^ s.q0.d, h.h5 ^^^ s.q1.b ^^^ s.q1.d,
    h.h6 ^^^ s.q2.b ^^^ s.q2.d, h.h7 ^^^ s.q3.b ^^^ s.q3.d⟩

/-- Folds in the blocks from `base` on. The last block is the one that reaches the end of the
message, and the empty message has one block. -/
def absorb (message : ByteArray) : Nat → Nat → Chain → Chain
  | 0, base, h => compress message base message.size true h
  | blocks + 1, base, h =>
    absorb message blocks (base + 128) (compress message base (base + 128) false h)

/-- The bytes of a word, lowest first. -/
def wordBytes (w : UInt64) : List UInt8 :=
  (List.range 8).map fun i => (w >>> UInt64.ofNat (8 * i)).toUInt8

/-- The digest of a message, `length` bytes long. -/
def hash (length : Nat) (message : ByteArray) : List UInt8 :=
  let start := { initial with h0 := initial.h0 ^^^ 0x01010000 ^^^ UInt64.ofNat length }
  let h := absorb message ((message.size - 1) / 128) 0 start
  ([h.h0, h.h1, h.h2, h.h3, h.h4, h.h5, h.h6, h.h7].flatMap wordBytes).take length

/-- The lower-case hexadecimal digit of a number below sixteen. -/
def hexDigit (n : Nat) : Char :=
  if n < 10 then Char.ofNat (48 + n) else Char.ofNat (87 + n)

/-- Two hexadecimal digits for each byte. -/
def hex (bytes : List UInt8) : String :=
  String.ofList (bytes.flatMap fun b => [hexDigit (b.toNat / 16), hexDigit (b.toNat % 16)])

end Lineage.Digest.Blake2b
