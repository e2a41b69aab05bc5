import Lineage.Source.Number
import Lineage.Source.Token
import Lineage.Text.Identifier
import Lineage.Text.Printable

/-!
From characters to tokens. Line ends count outside brackets only, changes of indentation become
tokens of their own, comments and blank lines vanish.

Reading ends with the end marker or with a fault. A *hard* fault is found by looking at characters
alone and is reported in preference to what the grammar may find wrong earlier in the file; other
faults count only where the grammar asks for the faulty token.
-/

namespace Lineage.Source

/-- A fault at which reading stops. `open?` is the innermost open bracket with its line. -/
structure LexFault where
  fault : SyntaxFault
  hard : Bool
  open? : Option (Char × Nat)
  deriving Repr

/-- All tokens of a text and the fault at which they end, if any. -/
structure TokenStream where
  tokens : Array Token
  fault : Option LexFault

/-- The reading state: the rest of the text, the line of its first character, the open indentations
and brackets, innermost first, and whether a new line starts here. -/
structure Lexer where
  rest : List Char
  line : Nat
  indents : List (Nat × Nat)
  brackets : List (Char × Nat)
  atLineStart : Bool

namespace Lexer

/-- The line reading is on; at the end of the text the last one. -/
def here (s : Lexer) : Nat := if s.rest.isEmpty then s.line - 1 else s.line

/-- A token on the current line. -/
def token (s : Lexer) (kind : TokenKind) (text : List Char) : Token :=
  ⟨kind, String.ofList text, s.here, s.here, s.brackets.length⟩

/-- A hard fault on the current line. -/
def hardFault (s : Lexer) (message : String) : LexFault :=
  ⟨⟨message, s.here⟩, true, s.brackets.head?⟩

/-- A fault that only counts where it is reached, on the current line. -/
def softFault (s : Lexer) (message : String) : LexFault :=
  ⟨⟨message, s.here⟩, false, s.brackets.head?⟩

/-- The message for a bracket that is still open at the end of the text. -/
def neverClosed (bracket : Char × Nat) : SyntaxFault :=
  ⟨"'" ++ bracket.1.toString ++ "' was never closed", bracket.2⟩

/-- The text ends too early: the innermost open bracket is at fault if there is one. -/
def endFault (s : Lexer) : LexFault :=
  match s.brackets.head? with
  | some bracket => ⟨neverClosed bracket, false, some bracket⟩
  | none => s.softFault "unexpected EOF while parsing"

/-- The message for a backslash that does not end its line. -/
def continuationMessage : String := "unexpected character after line continuation character"

/-! ### Indentation -/

/-- A measured start of a line: its column with tab stops at every eighth place and with tabs as
single places, the column of the first backslash, and the state after it. -/
structure Margin where
  column : Nat
  alternate : Nat
  continued : Nat
  state : Lexer

/-- Measures the blanks at the start of a line. A backslash joins the next line to it; the first one
after some blanks fixes the column. -/
def margin (s : Lexer) (m : Nat × Nat × Nat) : List Char → Nat → Except LexFault Margin
  | ' ' :: cs, line => margin s (m.1 + 1, m.2.1 + 1, m.2.2) cs line
  | '\t' :: cs, line => margin s ((m.1 / 8 + 1) * 8, m.2.1 + 1, m.2.2) cs line
  | '\x0c' :: cs, line => margin s (0, 0, m.2.2) cs line
  | '\\' :: '\n' :: [], line => .error ({ s with rest := [], line := line + 1 }).endFault
  | '\\' :: '\n' :: c :: cs, line =>
    margin s (m.1, m.2.1, if m.2.2 = 0 then m.1 else m.2.2) (c :: cs) (line + 1)
  | '\\' :: cs, line => .error ({ s with rest := '\\' :: cs, line := line }.softFault continuationMessage)
  | cs, line => .ok ⟨m.1, m.2.1, m.2.2, { s with rest := cs, line := line }⟩

/-- The message for tabs and blanks that do not agree. -/
def tabMessage : String := "inconsistent use of tabs and spaces in indentation"

/-- The tokens for a line that starts at a column, and the indentations open after it. -/
def indentation (s : Lexer) (column alternate : Nat) : Except LexFault (List Token × Lexer) :=
  match s.indents with
  | [] => .ok ([], s)
  | (current, currentAlternate) :: _ =>
    if column = current then
      if alternate = currentAlternate then .ok ([], s) else .error (s.softFault tabMessage)
    else if current < column then
      if 100 ≤ s.indents.length then .error (s.softFault "too many levels of indentation")
      else if alternate ≤ currentAlternate then .error (s.softFault tabMessage)
      else .ok ([s.token .indent []], { s with indents := (column, alternate) :: s.indents })
    else
      let left := s.indents.dropWhile fun i => column < i.1
      match left with
      | [] => .ok ([], s)
      | (outer, outerAlternate) :: _ =>
        if column ≠ outer then
          .error (s.softFault "unindent does not match any outer indentation level")
        else if alternate ≠ outerAlternate then .error (s.softFault tabMessage)
        else
          .ok (List.replicate (s.indents.length - left.length) (s.token .dedent []),
            { s with indents := left })

/-- Reads the start of a line. Lines without anything but a comment leave the indentation alone, and
so do lines inside brackets. -/
def lineStart (s : Lexer) : Except LexFault (List Token × Lexer) := do
  let m ← margin s (0, 0, 0) s.rest s.line
  let s := { m.state with atLineStart := false }
  let blank := match s.rest with
    | c :: _ => c == '#' || c == '\n'
    | [] => false
  if blank then
    -- the line end of such a line is no token
    let rest := s.rest.dropWhile (· != '\n')
    .ok ([], { s with rest := rest.drop 1, line := s.line + 1, atLineStart := true })
  else if s.brackets.isEmpty then
    let fixed := m.continued ≠ 0
    s.indentation (if fixed then m.continued else m.column) (if fixed then m.continued else m.alternate)
  else .ok ([], s)

/-! ### Words -/

/-- The character may be part of a word before it is looked at closely. -/
def isWordChar (c : Char) : Bool := Number.isWordChar c

/-- Four or more hexadecimal digits in upper case. -/
def codePoint (c : Char) : String :=
  let digits := (Nat.toDigits 16 c.toNat).map Char.toUpper
  String.ofList (List.replicate (4 - digits.length) '0' ++ digits)

/-- What is wrong with the first character of a word that cannot stand in an identifier there. -/
def identifierFault? : List Char → Bool → Option String
  | [], _ => none
  | c :: cs, first =>
    if c == '_' || (if first then Text.startsIdentifier c else Text.continuesIdentifier c) then
      identifierFault? cs false
    else if Text.isPrintable c.toNat then
      some ("invalid character '" ++ c.toString ++ "' (U+" ++ codePoint c ++ ")")
    else some ("invalid non-printable character U+" ++ codePoint c)

/-- The prefixes of string literals, in lower case. -/
def stringPrefixes : List String := ["", "r", "u", "b", "f", "br", "rb", "fr", "rf"]

/-- The rest of a string literal after its opening quotes: the characters up to its end, last one
first, with the text and the line after it. -/
def stringBody (quote : Char) (triple : Bool) :
    List Char → List Char → Nat → Option (List Char × List Char × Nat)
  | [], _, _ => none
  | c :: cs, taken, line =>
    if c = quote then
      if triple then
        match cs with
        | q :: r :: rest =>
          if q = quote ∧ r = quote then some (r :: q :: c :: taken, rest, line)
          else stringBody quote triple cs (c :: taken) line
        | _ => stringBody quote triple cs (c :: taken) line
      else some (c :: taken, cs, line)
    else if c = '\\' then
      match cs with
      | [] => none
      | d :: ds => stringBody quote triple ds (d :: c :: taken) (if d = '\n' then line + 1 else line)
    else if c = '\n' then
      if triple then stringBody quote triple cs (c :: taken) (line + 1) else none
    else stringBody quote triple cs (c :: taken) line

/-- The line on which an unfinished string literal stops. -/
def stringStop (triple : Bool) : List Char → Nat → Nat
  | [], line => line - 1
  | '\\' :: '\n' :: cs, line => stringStop triple cs (line + 1)
  | '\\' :: _ :: cs, line => stringStop triple cs line
  | '\n' :: cs, line => if triple then stringStop triple cs (line + 1) else line
  | _ :: cs, line => stringStop triple cs line

/-- A string literal whose opening quote is the next character; `mark` is what stands before it. -/
def string (s : Lexer) (mark : List Char) (quote : Char) (rest : List Char) :
    Except LexFault (Token × Lexer) :=
  let (triple, opened, body) := match rest with
    | q :: r :: body => if q = quote ∧ r = quote then (true, [quote, quote, quote], body)
      else (false, [quote], rest)
    | _ => (false, [quote], rest)
  match stringBody quote triple body (opened ++ mark.reverse) s.line with
  | some (taken, rest, line) =>
    .ok (⟨.string, String.ofList taken.reverse, s.line, line, s.brackets.length⟩,
      { s with rest := rest, line := line })
  | none =>
    let kind := if triple then "triple-quoted string literal" else "string literal"
    let stop := stringStop triple body s.line
    .error ⟨⟨"unterminated " ++ kind ++ " (detected at line " ++ toString stop ++ ")", s.line⟩,
      true, s.brackets.head?⟩

/-- A name or keyword. -/
def word (s : Lexer) : Except LexFault (Token × Lexer) :=
  let text := s.rest.takeWhile isWordChar
  let name := String.ofList text
  if text.any fun c => 128 ≤ c.toNat then
    match identifierFault? text true with
    | some message => .error (s.hardFault message)
    | none => .ok (s.token .name text, { s with rest := s.rest.drop text.length })
  else
    .ok (s.token (if keywords.contains name then .keyword else .name) text,
      { s with rest := s.rest.drop text.length })

/-- A string literal or a word. -/
def wordOrString (s : Lexer) : Except LexFault (Token × Lexer) :=
  let text := s.rest.takeWhile isWordChar
  match s.rest.drop text.length with
  | c :: rest =>
    if (c == '"' || c == '\'')
        && stringPrefixes.contains (String.ofList (text.map Char.toLower)) then
      s.string text c rest
    else s.word
  | [] => s.word

/-! ### Punctuation -/

/-- Operators of three characters. -/
def threeChars : List String := ["**=", "//=", "<<=", ">>=", "..."]

/-- Operators of two characters. -/
def twoChars : List String :=
  ["!=", "%=", "&=", "**", "*=", "+=", "-=", "->", "//", "/=", ":=", "<<", "<=", "<>", "==", ">=",
    ">>", "@=", "^=", "|="]

/-- The bracket that closes another one. -/
def closing : Char → Char
  | '(' => ')'
  | '[' => ']'
  | _ => '\x7d'

/-- An operator, a bracket or another character that stands for itself. -/
def punctuation (s : Lexer) (c : Char) (cs : List Char) : Except LexFault (Token × Lexer) :=
  let three := (c :: cs).take 3
  let two := (c :: cs).take 2
  if threeChars.contains (String.ofList three) then
    .ok (s.token .operator three, { s with rest := cs.drop 2 })
  else if twoChars.contains (String.ofList two) then
    .ok (s.token .operator two, { s with rest := cs.drop 1 })
  else if c == '(' || c == '[' || c == '\x7b' then
    if 200 ≤ s.brackets.length then .error (s.hardFault "too many nested parentheses")
    else
      let opened := { s with brackets := (c, s.here) :: s.brackets }
      .ok (opened.token .operator [c], { opened with rest := cs })
  else if c == ')' || c == ']' || c == '\x7d' then
    match s.brackets with
    | [] => .error (s.hardFault ("unmatched '" ++ c.toString ++ "'"))
    | (bracket, line) :: outer =>
      let s := { s with brackets := outer }
      if closing bracket == c then .ok (s.token .operator [c], { s with rest := cs })
      else
        let message := "closing parenthesis '" ++ c.toString
          ++ "' does not match opening parenthesis '" ++ bracket.toString ++ "'"
        .error (s.hardFault (if line = s.here then message
          else message ++ " on line " ++ toString line))
  else if Text.isPrintable c.toNat then .ok (s.token .operator [c], { s with rest := cs })
  else .error (s.hardFault ("invalid non-printable character U+" ++ codePoint c))

/-! ### The next token -/

/-- What one step of reading gives: tokens and the state after them, or the end. -/
inductive Step where
  | more (tokens : List Token) (state : Lexer)
  | done (tokens : List Token)
  | stop (fault : LexFault)

/-- One step for a single token. -/
def Step.ofToken : Except LexFault (Token × Lexer) → Step
  | .ok (t, s) => .more [t] s
  | .error f => .stop f

/-- Reads on inside a line. -/
def inLine (s : Lexer) : Step :=
  let rest := s.rest.dropWhile fun c => c == ' ' || c == '\t' || c == '\x0c'
  let rest := match rest with
    | '#' :: _ => rest.dropWhile (· != '\n')
    | _ => rest
  let s := { s with rest := rest }
  match rest with
  | [] => if s.brackets.isEmpty then .done [s.token .endMarker []] else .stop s.endFault
  | '\n' :: after =>
    let next := { s with rest := after, line := s.line + 1, atLineStart := true }
    if s.brackets.isEmpty then .more [s.token .newline []] next else .more [] next
  | '\\' :: '\n' :: after =>
    let next := { s with rest := after, line := s.line + 1 }
    if after.isEmpty then .stop next.endFault else .more [] next
  | '\\' :: _ => .stop (s.softFault continuationMessage)
  | c :: cs =>
    let point := c == '.' && match cs with
      | d :: _ => Number.isDigit d
      | [] => false
    if Number.isDigit c || point then
      match Number.scan rest with
      | .error message => .stop (s.hardFault message)
      | .ok n => .more [s.token .number n.taken.reverse] { s with rest := n.rest }
    else if isWordChar c then Step.ofToken s.wordOrString
    else if c == '"' || c == '\'' then Step.ofToken (s.string [] c cs)
    else Step.ofToken (s.punctuation c cs)

/-- One step of reading. -/
def step (s : Lexer) : Step :=
  if s.atLineStart then
    match s.lineStart with
    | .ok (tokens, s) => .more tokens s
    | .error fault => .stop fault
  else s.inLine

/-- Reads to the end. Each step uses up a character or comes to the start of a line, so `fuel` may be
twice the length of the text. -/
def run : Nat → Lexer → Array Token → TokenStream
  | 0, s, done => ⟨done, some s.endFault⟩
  | fuel + 1, s, done =>
    match s.step with
    | .more tokens s => run fuel s (done ++ tokens)
    | .done tokens => ⟨done ++ tokens, none⟩
    | .stop fault => ⟨done, some fault⟩

end Lexer

/-- Line ends of any of the three kinds become line feeds. -/
def unifyLineEnds : List Char → List Char
  | '\r' :: '\n' :: cs => '\n' :: unifyLineEnds cs
  | '\r' :: cs => '\n' :: unifyLineEnds cs
  | c :: cs => c :: unifyLineEnds cs
  | [] => []

/-- The text with unified line ends, closed by one. -/
def closedText (text : List Char) : List Char :=
  let text := unifyLineEnds text
  if text.getLast? = some '\n' then text else text ++ ['\n']

/-- The tokens of a text whose first line has the number `line`. -/
def tokensFrom (line : Nat) (text : List Char) : TokenStream :=
  let text := closedText text
  Lexer.run (2 * text.length + 2) ⟨text, line, [(0, 0)], [], true⟩ #[]

end Lineage.Source
