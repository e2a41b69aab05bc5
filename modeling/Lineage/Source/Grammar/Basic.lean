import Lineage.Source.Lexer
import Lineage.Source.Syntax
import Lineage.Text.Normal

/-!
Parsers over a stream of tokens, with ordered choice and unlimited backtracking.

A parser moves a mark over the tokens. It succeeds, fails without a trace, or raises a fault that
ends the whole parse. The state also keeps how many tokens have ever been looked at, since an
unexplained failure is reported at the last of them, and the results of the rules that are
remembered by position.

Faulty text is parsed twice. The second time the state is *diagnosing*: extra rules look for common
mistakes and raise a fault that names them.
-/

namespace Lineage.Source.Grammar

/-- Positional and keyword arguments of a call, with the lines they stand on. -/
structure Args where
  lines : LineRange
  positional : List Expr
  keywords : List Keyword

/-- The rules that refer to each other. -/
inductive Rule where
  | expression
  | starExpression
  | starExpressions
  | namedExpression
  | disjunction
  | conjunction
  | inversion
  | bitwiseOr
  | factor
  | awaitPrimary
  | primary
  | targetPrimary
  | strings
  | starTarget
  | targetWithStarAtom
  | singleTarget
  | deleteTarget
  | annotationTarget
  | arguments
  | pattern
  | closedPattern
  | starPattern
  | simpleStatement
  | elifStatement
  | block
  | statements
  deriving DecidableEq, Repr

/-- What a rule gives. -/
def Rule.Result : Rule → Type
  | .arguments => Args
  | .pattern | .closedPattern | .starPattern => Pattern
  | .simpleStatement | .elifStatement => Stmt
  | .block | .statements => List Stmt
  | _ => Expr

/-- The remembered outcome of a rule at one position: a result with the mark after it, or failure. -/
structure Remembered where
  rule : Rule
  outcome : Option (rule.Result × Nat)

/-- The state of a parse. `fill` is the number of tokens that have been looked at. -/
structure State where
  mark : Nat
  fill : Nat
  diagnosing : Bool
  memory : Array (List Remembered)

/-- Where a fault was found: by the rules, while reading tokens (by characters alone if it is hard), or
in the parse of an embedded expression. -/
inductive Origin where
  | rules
  | tokens (hard : Bool)
  | embedded
  deriving DecidableEq, Repr

/-- A fault that ends a parse. -/
structure Raised where
  fault : SyntaxFault
  origin : Origin

/-- What a parser gives. -/
inductive Outcome (α : Type) where
  | ok (value : α)
  | fail
  | raise (raised : Raised)

/-- A parser over a stream of tokens. -/
def Parser (α : Type) : Type := TokenStream → State → Outcome α × State

namespace Parser

variable {α β γ : Type}

instance : Monad Parser where
  pure a := fun _ s => (.ok a, s)
  bind p f := fun ts s =>
    match p ts s with
    | (.ok a, s) => f a ts s
    | (.fail, s) => (.fail, s)
    | (.raise r, s) => (.raise r, s)

/-- Fails. -/
def fail : Parser α := fun _ s => (.fail, s)

/-- Raises a fault on a line. -/
def raiseAt (line : Int) (message : String) : Parser α := fun _ s =>
  (.raise ⟨⟨message, line.toNat⟩, .rules⟩, s)

/-- Raises a fault on the line of the last token that has been looked at. -/
def raiseLast (message : String) : Parser α := fun ts s =>
  let line := match ts.tokens[s.fill - 1]? with
    | some t => t.first
    | none => 0
  (.raise ⟨⟨message, line⟩, .rules⟩, s)

/-- The next token, without passing it. Past the last token the fault of the stream is raised. -/
def peek : Parser Token := fun ts s =>
  match ts.tokens[s.mark]? with
  | some t => (.ok t, { s with fill := max s.fill (s.mark + 1) })
  | none =>
    match ts.fault with
    | some f => (.raise ⟨f.fault, .tokens f.hard⟩, s)
    | none => (.fail, s)

/-- Passes the next token if it satisfies a condition. -/
def token (p : Token → Bool) : Parser Token := fun ts s =>
  match peek ts s with
  | (.ok t, s) => if p t then (.ok t, { s with mark := s.mark + 1 }) else (.fail, s)
  | other => other

/-- An operator or bracket. -/
def op (text : String) : Parser Token := token fun t => t.kind == .operator && t.text == text

/-- A keyword. -/
def kw (text : String) : Parser Token := token fun t => t.kind == .keyword && t.text == text

/-- A token of a kind without a text of its own. -/
def layout (kind : TokenKind) : Parser Token := token fun t => t.kind == kind

/-- A name that is a keyword in this place only. -/
def soft (text : String) : Parser Token := token fun t => t.kind == .name && t.text == text

/-- The normalized text of a name. -/
def nameText (t : Token) : String := String.ofList (Text.Normal.nfkc t.text.toList)

/-- A name. -/
def name : Parser String := do return nameText (← token (·.kind == .name))

/-- The first of two parsers that succeeds; both start at the same mark. -/
def orElse (p : Parser α) (q : Unit → Parser α) : Parser α := fun ts s =>
  match p ts s with
  | (.fail, s') => q () ts { s' with mark := s.mark }
  | other => other

instance : OrElse (Parser α) := ⟨orElse⟩

/-- The first of several parsers that succeeds. -/
def first : List (Parser α) → Parser α
  | [] => fail
  | [p] => p
  | p :: ps => p.orElse fun _ => first ps

/-- Once `head` has succeeded `committed` decides alone; only if `head` fails `otherwise` is tried. -/
def commit (head : Parser α) (committed : α → Parser β) (otherwise : Parser β) : Parser β :=
  fun ts s =>
    match head ts s with
    | (.ok a, s) => committed a ts s
    | (.fail, s') => otherwise ts { s' with mark := s.mark }
    | (.raise r, s) => (.raise r, s)

/-- Succeeds in any case, with a value if the parser does. -/
def optional (p : Parser α) : Parser (Option α) := fun ts s =>
  match p ts s with
  | (.ok a, s) => (.ok (some a), s)
  | (.fail, s') => (.ok none, { s' with mark := s.mark })
  | (.raise r, s) => (.raise r, s)

/-- Tries a parser without moving the mark. -/
def look (p : Parser α) : Parser Unit := fun ts s =>
  match p ts s with
  | (.ok _, s') => (.ok (), { s' with mark := s.mark })
  | (.fail, s') => (.fail, { s' with mark := s.mark })
  | (.raise r, s) => (.raise r, s)

/-- Succeeds where a parser fails, without moving the mark. -/
def notLook (p : Parser α) : Parser Unit := fun ts s =>
  match p ts s with
  | (.ok _, s') => (.fail, { s' with mark := s.mark })
  | (.fail, s') => (.ok (), { s' with mark := s.mark })
  | (.raise r, s) => (.raise r, s)

/-- Repeats a parser at most `fuel` times, results last one first. -/
def repeatOnto (p : Parser α) : Nat → List α → Parser (List α)
  | 0, done => pure done.reverse
  | fuel + 1, done => fun ts s =>
    match p ts s with
    | (.ok a, s) => repeatOnto p fuel (a :: done) ts s
    | (.fail, s') => (.ok done.reverse, { s' with mark := s.mark })
    | (.raise r, s) => (.raise r, s)

/-- As many results as there are. Each uses up a token, so the number of tokens bounds them. -/
def many (p : Parser α) : Parser (List α) := fun ts s =>
  repeatOnto p (ts.tokens.size + 1) [] ts s

/-- One result or more. -/
def many1 (p : Parser α) : Parser (List α) := do
  let a ← p
  return a :: (← many p)

/-- One result or more with separators between them. -/
def sepBy1 (separator : String) (p : Parser α) : Parser (List α) := do
  let a ← p
  return a :: (← many do let _ ← op separator; p)

/-- Extends a value as long as one of the steps succeeds, at most `fuel` times. -/
def growOnto (step : α → Parser α) : Nat → α → Parser α
  | 0, a => pure a
  | fuel + 1, a => fun ts s =>
    match step a ts s with
    | (.ok b, s) => growOnto step fuel b ts s
    | (.fail, s') => (.ok a, { s' with mark := s.mark })
    | (.raise r, s) => (.raise r, s)

/-- A value of `p`, extended to the right as far as it goes. -/
def grow (p : Parser α) (step : α → Parser α) : Parser α := do
  let a ← p
  fun ts s => growOnto step (ts.tokens.size + 1) a ts s

/-- Passes a token that must come here: another one raises a fault. -/
def forced (text : String) : Parser Token := do
  let t ← peek
  if t.kind == .operator && t.text == text then op text
  else raiseAt t.first ("expected '" ++ text ++ "'")

/-- The first line of the next token. -/
def startLine : Parser Nat := do return (← peek).first

/-- The last line of the last token passed that is no layout. -/
def endLine : Parser Nat := fun ts s =>
  let passed := (ts.tokens.extract (s.mark - 8) s.mark).toList.reverse
  let token := match passed.find? fun t => !t.isLayout with
    | some t => some t
    | none => ((ts.tokens.extract 0 s.mark).toList.reverse).find? fun t => !t.isLayout
  (.ok (token.elim 0 (·.last)), s)

/-- Gives the result of a parser the lines from its first to its last token. -/
def spanned (p : Parser (LineRange → α)) : Parser α := do
  let start ← startLine
  let build ← p
  return build ⟨start, ← endLine⟩

/-- The lines from a given first line to the last token passed. -/
def linesFrom (start : Int) : Parser LineRange := do return ⟨start, ← endLine⟩

/-- Runs a rule for mistakes; without diagnosis it fails. -/
def diagnose (p : Parser α) : Parser α := fun ts s => if s.diagnosing then p ts s else (.fail, s)

/-- Runs a parser without diagnosis. -/
def undiagnosed (p : Parser α) : Parser α := fun ts s =>
  let (outcome, s') := p ts { s with diagnosing := false }
  (outcome, { s' with diagnosing := s.diagnosing })

/-- The bracket depth after the last token passed. -/
def depth : Parser Nat := fun ts s => (.ok ((ts.tokens[s.mark - 1]?).elim 0 (·.depth)), s)

/-! ### Whole parses -/

/-- The state before the first token. -/
def start (ts : TokenStream) : State := ⟨0, 0, false, Array.replicate (ts.tokens.size + 1) []⟩

/-- The fault to report when the rules have found `raised`. A hard fault further on in the text comes
first, and so does a bracket opened on an earlier line than the last token looked at that is never
closed. -/
def override (ts : TokenStream) (fill : Nat) (raised : Raised) : Raised :=
  match raised.origin, ts.fault with
  | .tokens _, _ | _, none => raised
  | _, some f =>
    let line := (ts.tokens[fill - 1]?).elim 0 (·.first)
    if f.hard then ⟨f.fault, .tokens true⟩
    else
      match f.open? with
      | some bracket =>
        if bracket.2 < line then ⟨Lexer.neverClosed bracket, .rules⟩ else raised
      | none => raised

/-- The fault of a text that no rule has a name for: at the last token that the first parse has
looked at. Faulty indentation is told apart. -/
def unexplained (ts : TokenStream) (reached fill : Nat) : Raised :=
  let token? := ts.tokens[reached - 1]?
  let latest := (ts.tokens[fill - 1]?).elim 0 (·.first)
  match token?.elim TokenKind.endMarker (·.kind) with
  | .indent => ⟨⟨"unexpected indent", latest⟩, .rules⟩
  | .dedent => ⟨⟨"unexpected unindent", latest⟩, .rules⟩
  | _ => override ts fill ⟨⟨"invalid syntax", token?.elim 0 (·.first)⟩, .rules⟩

/-- Parses a stream. Where the first parse fails a second one with diagnosis looks for the reason. -/
def run (p : Parser α) (ts : TokenStream) : Except Raised α :=
  match p ts (start ts) with
  | (.ok a, _) => .ok a
  | (.raise r, s) => .error (override ts s.fill r)
  | (.fail, s) =>
    match p ts { start ts with fill := s.fill, diagnosing := true } with
    | (.raise r, t) => .error (override ts t.fill r)
    | (_, t) => .error (unexplained ts s.fill t.fill)

/-- Parses an expression embedded in the text of a token. Its faults are marked as such, except for
those that reading characters finds. -/
def embedded (p : Parser α) (mark : String) (line : Nat) (text : List Char) : Parser α :=
  fun _ s =>
    match run p (tokensFrom line text) with
    | .ok a => (.ok a, s)
    | .error r =>
      let plain := r.origin == .tokens true || r.origin == .embedded
      let message := if plain then r.fault.message else mark ++ r.fault.message
      (.raise ⟨⟨message, r.fault.line⟩, .embedded⟩, s)

end Parser

/-- A way to call rules. -/
abbrev Call : Type := (r : Rule) → Parser r.Result

namespace Call

variable (c : Call)

/-- A condition, a lambda or a disjunction. -/
def expression : Parser Expr := c .expression
/-- An expression, or a starred operand. -/
def starExpression : Parser Expr := c .starExpression
/-- Expressions with commas between them, a tuple unless there is one without a comma. -/
def starExpressions : Parser Expr := c .starExpressions
/-- An expression or an assignment expression. -/
def namedExpression : Parser Expr := c .namedExpression
/-- Operands with `or` between them. -/
def disjunction : Parser Expr := c .disjunction
/-- Operands with `and` between them. -/
def conjunction : Parser Expr := c .conjunction
/-- A comparison, or the negation of one. -/
def inversion : Parser Expr := c .inversion
/-- Operands with arithmetic operators between them. -/
def bitwiseOr : Parser Expr := c .bitwiseOr
/-- A signed operand or a power. -/
def factor : Parser Expr := c .factor
/-- A primary, awaited or not. -/
def awaitPrimary : Parser Expr := c .awaitPrimary
/-- An atom with attributes, calls and subscripts. -/
def primary : Parser Expr := c .primary
/-- The part of a target before its last attribute or subscript. -/
def targetPrimary : Parser Expr := c .targetPrimary
/-- String literals side by side. -/
def strings : Parser Expr := c .strings
/-- A target, starred or not. -/
def starTarget : Parser Expr := c .starTarget
/-- A target without a star of its own. -/
def targetWithStarAtom : Parser Expr := c .targetWithStarAtom
/-- A target that is no list. -/
def singleTarget : Parser Expr := c .singleTarget
/-- A target of `del`. -/
def deleteTarget : Parser Expr := c .deleteTarget
/-- A list or tuple where an annotated target should be. -/
def annotationTarget : Parser Expr := c .annotationTarget
/-- The arguments of a call. -/
def arguments : Parser Args := c .arguments
/-- A pattern that may bind a name. -/
def pattern : Parser Pattern := c .pattern
/-- A pattern without alternatives. -/
def closedPattern : Parser Pattern := c .closedPattern
/-- A starred pattern. -/
def starPattern : Parser Pattern := c .starPattern
/-- A statement on one line. -/
def simpleStatement : Parser Stmt := c .simpleStatement
/-- An `elif` with what follows it. -/
def elifStatement : Parser Stmt := c .elifStatement
/-- The body of a compound statement. -/
def block : Parser (List Stmt) := c .block
/-- One statement or more. -/
def statements : Parser (List Stmt) := c .statements

end Call

end Lineage.Source.Grammar
