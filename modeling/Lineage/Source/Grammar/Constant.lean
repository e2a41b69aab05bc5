import Lineage.Decimal.Scientific
import Lineage.Source.Escape
import Lineage.Source.Grammar.Basic

/-!
Number and string literals. String literals that stand side by side are one expression; formatted
ones among them hold expressions, which are parsed with the rules given by the caller.
-/

namespace Lineage.Source.Grammar

open Lineage.Source.Grammar.Parser

/-! ### Numbers -/

/-- The longest whole number in decimal digits that is accepted. -/
def maxDigits : Nat := 4300

/-- The value of digits in a base. -/
def digitsValue (base : Nat) (cs : List Char) : Nat :=
  cs.foldl (fun n c => base * n + (Escape.hexDigit? c).getD 0) 0

/-- The exponent after its mark. -/
def exponentValue : List Char → Int
  | '-' :: cs => -(digitsValue 10 cs : Int)
  | '+' :: cs => digitsValue 10 cs
  | cs => digitsValue 10 cs

/-- The value of a number with a point or an exponent. -/
def floatValue (cs : List Char) : Float :=
  let mantissa := cs.takeWhile fun c => c != 'e' && c != 'E'
  let exponent := exponentValue ((cs.drop mantissa.length).drop 1)
  let whole := mantissa.takeWhile (· != '.')
  let fraction := (mantissa.drop whole.length).drop 1
  Decimal.scientific (digitsValue 10 (whole ++ fraction)) (exponent - fraction.length)

/-- The message for a whole number with too many digits. -/
def tooManyDigits (count : Nat) : String :=
  "Exceeds the limit (4300 digits) for integer string conversion: value has " ++ toString count
    ++ " digits; use sys.set_int_max_str_digits() to increase the limit"
    ++ " - Consider hexadecimal for huge integer literals to avoid decimal conversion limits."

/-- The value of a number literal. -/
def numberValue (text : String) : Except String Literal :=
  let cs := text.toList.filter (· != '_')
  match cs with
  | '0' :: 'x' :: ds | '0' :: 'X' :: ds => .ok (.int (digitsValue 16 ds))
  | '0' :: 'o' :: ds | '0' :: 'O' :: ds => .ok (.int (digitsValue 8 ds))
  | '0' :: 'b' :: ds | '0' :: 'B' :: ds => .ok (.int (digitsValue 2 ds))
  | _ =>
    match cs.getLast? with
    | some 'j' | some 'J' => .ok (.imaginary (floatValue cs.dropLast))
    | _ =>
      if cs.all Number.isDigit then
        if maxDigits < cs.length then .error (tooManyDigits cs.length)
        else .ok (.int (digitsValue 10 cs))
      else .ok (.float (floatValue cs))

/-- A number literal. -/
def number : Parser Expr := do
  let t ← token (·.kind == .number)
  match numberValue t.text with
  | .ok v => return .constant ⟨t.first, t.last⟩ v false
  | .error message => raiseAt t.first message

/-! ### Formatted text -/

/-- A part of text: code points, or an expression. -/
inductive Piece where
  | points (ps : List Nat)
  | value (e : Expr)

/-- What the pieces of text are made with: the rules, the rule for names of characters, the lines of
all literals that stand side by side, and whether the first of them is marked as plain text. -/
structure TextContext where
  call : Call
  named? : List Char → Option Nat
  lines : LineRange
  unicodeMark : Bool

/-- Decodes a part of a literal. -/
def decodeText (x : TextContext) (raw : Bool) (cs : List Char) : Parser (List Nat) :=
  if raw then pure (cs.map (·.toNat))
  else
    match Escape.text x.named? cs with
    | .ok ps => pure ps
    | .error f => raiseLast f.textMessage

/-- Where a stretch of literal text ends: before an expression or a closing brace, at the end, or
after a brace that was written twice. -/
structure Stretch where
  text : List Char
  rest : List Char
  doubled : Bool

/-- The literal text up to a brace. A brace written twice stands for itself outside format
specifications, where `top` is true; a single closing brace is refused there. `taken` is the text so
far, last character first. -/
def stretch (raw top : Bool) : Nat → List Char → List Char → Except String Stretch
  | 0, taken, rest => .ok ⟨taken.reverse, rest, false⟩
  | _ + 1, taken, [] => .ok ⟨taken.reverse, [], false⟩
  | fuel + 1, taken, c :: cs =>
    match if raw then none else if c = '\\' then some cs else none with
    | some ('N' :: '\x7b' :: ds) =>
      let name := ds.takeWhile (· != '\x7d')
      let used := name ++ (ds.drop name.length).take 1
      stretch raw top fuel (used.reverse ++ '\x7b' :: 'N' :: c :: taken) (ds.drop used.length)
    | some ('N' :: d :: ds) => stretch raw top fuel (d :: 'N' :: c :: taken) ds
    | some (d :: ds) =>
      if d = '\x7b' ∨ d = '\x7d' then braceAt (c :: taken) d ds
      else stretch raw top fuel (d :: c :: taken) ds
    | _ =>
      if c = '\x7b' ∨ c = '\x7d' then braceAt taken c cs
      else stretch raw top fuel (c :: taken) cs
where
  /-- The decision at a brace. -/
  braceAt (taken : List Char) (brace : Char) (after : List Char) :
      Except String Stretch :=
    let stopped : Except String Stretch := .ok ⟨taken.reverse, brace :: after, false⟩
    if top then
      match after with
      | d :: ds =>
        if d = brace then .ok ⟨(brace :: taken).reverse, ds, true⟩
        else if brace = '\x7d' then .error "f-string: single '\x7d' is not allowed"
        else stopped
      | [] => if brace = '\x7d' then .error "f-string: single '\x7d' is not allowed" else stopped
    else stopped

/-- Finds the end of an embedded expression: quotes and brackets are skipped over, and it ends before
a conversion mark, a colon, a closing brace or an equals sign outside them. `quote?` is the quote
of the string that is open, with its length; `taken` the text so far, last character first. -/
def expressionEnd : Nat → Option (Char × Nat) → List Char → List Char → List Char →
    Except String (List Char × List Char)
  | 0, _, _, taken, rest => .ok (taken.reverse, rest)
  | _ + 1, some _, _, _, [] => .error "f-string: unterminated string"
  | _ + 1, none, bracket :: _, _, [] => .error ("f-string: unmatched '" ++ bracket.toString ++ "'")
  | _ + 1, none, [], taken, [] => .ok (taken.reverse, [])
  | fuel + 1, quote?, open_, taken, c :: cs =>
    if c = '\\' then .error "f-string expression part cannot include a backslash"
    else
      match quote? with
      | some (quote, length) =>
        if c = quote then
          if length = 3 then
            match cs with
            | d :: e :: rest =>
              if d = quote ∧ e = quote then
                expressionEnd fuel none open_ (e :: d :: c :: taken) rest
              else expressionEnd fuel quote? open_ (c :: taken) cs
            | _ => expressionEnd fuel quote? open_ (c :: taken) cs
          else expressionEnd fuel none open_ (c :: taken) cs
        else expressionEnd fuel quote? open_ (c :: taken) cs
      | none =>
        if c = '\'' ∨ c = '"' then
          match cs with
          | d :: e :: rest =>
            if d = c ∧ e = c then
              expressionEnd fuel (some (c, 3)) open_ (e :: d :: c :: taken) rest
            else expressionEnd fuel (some (c, 1)) open_ (c :: taken) cs
          | _ => expressionEnd fuel (some (c, 1)) open_ (c :: taken) cs
        else if c = '[' ∨ c = '\x7b' ∨ c = '(' then
          if 200 ≤ open_.length then .error "f-string: too many nested parenthesis"
          else expressionEnd fuel none (c :: open_) (c :: taken) cs
        else if c = '#' then .error "f-string expression part cannot include '#'"
        else if open_.isEmpty && (c == '!' || c == ':' || c == '\x7d' || c == '=' || c == '>'
            || c == '<') then
          match cs with
          | '=' :: rest =>
            if c == '!' || c == '=' || c == '<' || c == '>' then
              expressionEnd fuel none open_ ('=' :: c :: taken) rest
            else .ok (taken.reverse, c :: cs)
          | _ =>
            if c = '>' ∨ c = '<' then expressionEnd fuel none open_ (c :: taken) cs
            else .ok (taken.reverse, c :: cs)
        else if c = ']' ∨ c = '\x7d' ∨ c = ')' then
          match open_ with
          | [] => .error ("f-string: unmatched '" ++ c.toString ++ "'")
          | bracket :: outer =>
            if Lexer.closing bracket = c then expressionEnd fuel none outer (c :: taken) cs
            else .error ("f-string: closing parenthesis '" ++ c.toString
              ++ "' does not match opening parenthesis '" ++ bracket.toString ++ "'")
        else expressionEnd fuel none open_ (c :: taken) cs

/-- The number of line ends in a text. -/
def lineEnds (cs : List Char) : Nat := cs.countP (· == '\n')

/-- A blank that may stand around an embedded expression. -/
def isBlank (c : Char) : Bool := c == ' ' || c == '\t' || c == '\n' || c == '\x0c'

/-- White space that may follow an equals sign after an embedded expression. -/
def isSpace (c : Char) : Bool := isBlank c || c == '\x0b' || c == '\r'

/-- Parses an embedded expression. It may be surrounded by blanks, so it is read in parentheses. -/
def embeddedExpression (x : TextContext) (text rest : List Char) (line : Nat) : Parser Expr :=
  if text.all isBlank then
    match rest with
    | c :: _ =>
      if c == '!' || c == ':' || c == '=' then
        raiseLast ("f-string: expression required before '" ++ c.toString ++ "'")
      else raiseLast "f-string: empty expression not allowed"
    | [] => raiseLast "f-string: empty expression not allowed"
  else embedded x.call.starExpressions "f-string: " line ('(' :: text ++ [')'])

/-- Joins pieces: neighbouring text becomes one piece and empty text vanishes. -/
def joinPieces : List Piece → List Piece
  | .points ps :: rest =>
    match joinPieces rest with
    | .points qs :: rest => .points (ps ++ qs) :: rest
    | rest => if ps.isEmpty then rest else .points ps :: rest
  | .value e :: rest => .value e :: joinPieces rest
  | [] => []

/-- The expression of a piece. -/
def Piece.expr (x : TextContext) : Piece → Expr
  | .points ps => .constant x.lines (.text ps) x.unicodeMark
  | .value e => e

/-- Formatted text made of pieces. -/
def joinedText (x : TextContext) (pieces : List Piece) : Expr :=
  .joined x.lines ((joinPieces pieces).map (·.expr x))

/-- The message for an expression without its closing brace. -/
def expectingBrace : String := "f-string: expecting '\x7d'"

/-- The pieces of formatted text from a place on, with the text and the line after them. `level`
counts down how deep format specifications may still nest, `top` tells that this is none of them;
`found` are the pieces so far, last one first. -/
def formattedPieces (x : TextContext) (raw : Bool) : Nat → Nat → Bool → List Char → Nat →
    List Piece → Parser (List Piece × List Char × Nat)
  | 0, _, _, rest, line, found => pure (found.reverse, rest, line)
  | fuel + 1, level, top, rest, line, found => do
    match stretch raw top (rest.length + 1) [] rest with
    | .error message => raiseLast message
    | .ok s =>
      let points ← decodeText x raw s.text
      let line := line + lineEnds s.text
      let found := if points.isEmpty then found else .points points :: found
      if s.doubled then formattedPieces x raw fuel level top s.rest line found
      else
        match s.rest with
        | '\x7b' :: body =>
          if level = 0 then raiseLast "f-string: expressions nested too deeply"
          else
            match expressionEnd (body.length + 1) none [] [] body with
            | .error message => raiseLast message
            | .ok (text, rest) =>
              if rest.isEmpty then raiseLast expectingBrace
              else
                let value ← embeddedExpression x text rest line
                let line := line + lineEnds text
                -- an equals sign also puts the text of the expression before its value
                let (shown, rest) : Option (List Char) × List Char := match rest with
                  | '=' :: after =>
                    let blanks := after.takeWhile isSpace
                    (some (text ++ '=' :: blanks), after.drop blanks.length)
                  | _ => (none, rest)
                let line := line + lineEnds ((shown.getD []).drop text.length)
                if rest.isEmpty then raiseLast expectingBrace
                else
                  let (conversion, rest) ← (match rest with
                    | '!' :: c :: rest =>
                      if c = 's' ∨ c = 'r' ∨ c = 'a' then pure (some c, rest)
                      else raiseLast
                        "f-string: invalid conversion character: expected 's', 'r', or 'a'"
                    | ['!'] => raiseLast expectingBrace
                    | _ => pure (none, rest) : Parser (Option Char × List Char))
                  let (spec, rest, line) ← (match rest with
                    | [':'] => raiseLast expectingBrace
                    | ':' :: rest => do
                      let (pieces, rest, line) ←
                        formattedPieces x raw fuel (level - 1) false rest line []
                      pure (some (joinedText x pieces), rest, line)
                    | _ => pure (none, rest, line) : Parser (Option Expr × List Char × Nat))
                  match rest with
                  | '\x7d' :: rest =>
                    let conversion := if shown.isSome && spec.isNone && conversion.isNone then
                      some 'r' else conversion
                    let found := match shown with
                      | some text => .points (text.map (·.toNat)) :: found
                      | none => found
                    formattedPieces x raw fuel level top rest line
                      (.value (.formatted x.lines value conversion spec) :: found)
                  | _ => raiseLast expectingBrace
        | rest =>
          if !top && rest.isEmpty then raiseLast expectingBrace
          else pure (found.reverse, rest, line)

/-! ### String literals -/

/-- A string literal taken apart: its marks and the text between its quotes, with the line on which
that text starts. -/
structure StringParts where
  isBytes : Bool
  isRaw : Bool
  isFormatted : Bool
  text : List Char

/-- Takes a string literal apart. -/
def StringParts.ofToken (t : Token) : StringParts :=
  let cs := t.text.toList
  let mark := cs.takeWhile fun c => c != '"' && c != '\''
  let quoted := cs.drop mark.length
  let triple := match quoted with
    | a :: b :: c :: _ => 6 ≤ quoted.length && a == b && b == c
    | _ => false
  let width := if triple then 3 else 1
  let has (c : Char) : Bool := mark.any fun d => d.toLower == c
  ⟨has 'b', has 'r', has 'f', (quoted.drop width).take (quoted.length - 2 * width)⟩

/-- The value of one literal: pieces of text, or bytes. -/
def literalPieces (x : TextContext) (t : Token) : Parser (Except (List UInt8) (List Piece)) := do
  let parts := StringParts.ofToken t
  if parts.isBytes then
    if parts.text.any fun c => 128 ≤ c.toNat then
      raiseAt t.first "bytes can only contain ASCII literal characters"
    else if parts.isRaw then return .error (parts.text.map fun c => UInt8.ofNat c.toNat)
    else
      match Escape.bytes parts.text with
      | .ok bs => return .error bs
      | .error f => raiseLast f.bytesMessage
  else if parts.isFormatted then
    let (pieces, _, _) ←
      formattedPieces x parts.isRaw (2 * parts.text.length + 2) 2 true parts.text t.first []
    return .ok pieces
  else
    return .ok [.points (← decodeText x parts.isRaw parts.text)]

/-- The values of literals side by side, which must all be text or all bytes. -/
def allPieces (x : TextContext) : List Token → Option Bool → Parser (List UInt8 × List Piece)
  | [], _ => pure ([], [])
  | t :: ts, bytes? => do
    let value ← literalPieces x t
    let isBytes := match value with
      | .error _ => true
      | .ok _ => false
    if bytes?.any (· != isBytes) then raiseLast "cannot mix bytes and nonbytes literals"
    else
      let (bytes, pieces) ← allPieces x ts (some isBytes)
      match value with
      | .error bs => return (bs ++ bytes, pieces)
      | .ok ps => return (bytes, ps ++ pieces)

/-- String literals side by side. -/
def stringsRule (named? : List Char → Option Nat) (call : Call) : Parser Expr := do
  let ts ← many1 (token (·.kind == .string))
  let lines : LineRange := ⟨(ts.head?).elim 0 (·.first), (ts.getLast?).elim 0 (·.last)⟩
  let marked := (ts.head?).any fun t => t.text.toList.head? == some 'u'
  let x : TextContext := ⟨call, named?, lines, marked⟩
  let (bytes, pieces) ← allPieces x ts none
  if (ts.head?).any fun t => (StringParts.ofToken t).isBytes then
    return .constant lines (.bytes bytes) false
  else if ts.any fun t => (StringParts.ofToken t).isFormatted then return joinedText x pieces
  else
    let points := (joinPieces pieces).flatMap fun
      | .points ps => ps
      | .value _ => []
    return .constant lines (.text points) marked

end Lineage.Source.Grammar
