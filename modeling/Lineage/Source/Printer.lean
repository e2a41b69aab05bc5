import Lineage.Source.Literal

/-!
The text of an expression, in one fixed form: one blank around operators, parentheses only where an
operand binds less tightly than its place asks for, tuples always in parentheses except as an index.

Formatted text is written with a quote mark that needs no backslash in the embedded expressions;
where none is left over the expression has no text.
-/

namespace Lineage.Source.Printer

/-- How tightly an expression binds. Where an expression stands asks for at least some level. -/
abbrev Level : Type := Nat

namespace Level

/-- Assignment expressions. -/
def assigned : Level := 1
/-- `yield`. -/
def yielded : Level := 2
/-- Conditions and lambdas; most places ask for this. -/
def test : Level := 3
/-- `or`. -/
def or : Level := 4
/-- `and`. -/
def and : Level := 5
/-- `not`. -/
def not : Level := 6
/-- Comparisons. -/
def compare : Level := 7
/-- Any operand of a comparison. -/
def operand : Level := 8
/-- Signs. -/
def factor : Level := 14
/-- Powers. -/
def power : Level := 15
/-- `await`. -/
def await : Level := 16
/-- Names, constants and brackets. -/
def atom : Level := 17

/-- The next tighter level. -/
def next (l : Level) : Level := min (l + 1) atom

end Level

/-- How a binary operator is written, and how tightly it binds. -/
def binary : BinaryOp → String × Level
  | .bitOr => ("|", 8)
  | .bitXor => ("^", 9)
  | .bitAnd => ("&", 10)
  | .lShift => ("<<", 11)
  | .rShift => (">>", 11)
  | .add => ("+", 12)
  | .sub => ("-", 12)
  | .mult => ("*", 13)
  | .matMult => ("@", 13)
  | .div => ("/", 13)
  | .mod => ("%", 13)
  | .floorDiv => ("//", 13)
  | .pow => ("**", 15)

/-- How a sign is written, and how tightly it binds. -/
def unary : UnaryOp → String × Level
  | .invert => ("~", .factor)
  | .not => ("not ", .not)
  | .plus => ("+", .factor)
  | .minus => ("-", .factor)

/-- How a comparison operator is written. -/
def comparison : CompareOp → String
  | .eq => "=="
  | .notEq => "!="
  | .lt => "<"
  | .ltE => "<="
  | .gt => ">"
  | .gtE => ">="
  | .is => "is"
  | .isNot => "is not"
  | .isIn => "in"
  | .notIn => "not in"

/-- How a logical operator is written, and how tightly it binds. -/
def logical : BoolOp → String × Level
  | .and => ("and", .and)
  | .or => ("or", .or)

/-- The text in parentheses if its level is below the one asked for. -/
def guarded (own asked : Level) (s : String) : String :=
  if own < asked then "(" ++ s ++ ")" else s

/-- Items with commas between them; a single one has a comma after it. -/
def items : List String → String
  | [s] => s ++ ","
  | ss => ", ".intercalate ss

/-! ### Formatted text -/

/-- An expression has no text: a backslash would be needed inside formatted text. -/
inductive Fault where
  | backslash
  deriving DecidableEq, Repr

/-- The quote marks in the order in which they are tried: code points and how often they are
repeated. -/
def quoteMarks : List (List Nat) := [[39], [34], [34, 34, 34], [39, 39, 39]]

/-- A list occurs as a contiguous part of another one. -/
def occursIn (part : List Nat) : List Nat → Bool
  | [] => part.isEmpty
  | n :: ns => part.isPrefixOf (n :: ns) || occursIn part ns

/-- A code point of formatted text. Line ends and tabs are escaped only if `spaces` is true. -/
def formattedPoint (spaces : Bool) (n : Nat) : List Nat :=
  if !spaces && (n == 10 || n == 9) then [n]
  else if n = 92 || !Text.isPrintable n then (Text.Quoted.escape n).map (·.toNat)
  else [n]

/-- Some text with escapes, and the quote marks among the given ones that can stand around it. Where
none can, the text is quoted with one mark alone. -/
def narrow (points : List Nat) (marks : List (List Nat)) (spaces : Bool) :
    List Nat × List (List Nat) :=
  let escaped := points.flatMap (formattedPoint spaces)
  let fit := (if escaped.contains 10 then marks.filter (3 ≤ ·.length) else marks).filter
    fun m => !occursIn m escaped
  match fit, escaped.getLast? with
  | [], _ =>
    let quoted := (Text.Quoted.text points).map (·.toNat)
    let first := quoted.take 1
    let mark := (marks.find? fun m => occursIn first m).getD first
    ((quoted.drop 1).dropLast, [mark])
  | _, none => (escaped, fit)
  | _, some final =>
    let starts (m : List Nat) : Bool := m.head? == some final
    let sorted := fit.filter (fun m => !starts m) ++ fit.filter starts
    if (sorted.head?).any starts then (escaped.dropLast ++ [92, final], sorted)
    else (escaped, sorted)

/-- Code points as a string. -/
def ofPoints (points : List Nat) : String := String.ofList (points.map Char.ofNat)

/-- Some text between the first quote mark that fits. -/
def bare (points : List Nat) : String :=
  let (text, marks) := narrow points quoteMarks false
  let mark := (marks.head?).getD []
  ofPoints (mark ++ text ++ mark)

/-- Parts of formatted text between one quote mark. A part that is plain text has its line ends and
tabs escaped. -/
def joined (parts : List (List Nat × Bool)) : String :=
  let step (state : List Nat × List (List Nat)) (part : List Nat × Bool) :=
    let (text, marks) := narrow part.1 state.2 part.2
    (state.1 ++ text, marks)
  let (text, marks) := parts.foldl step ([], quoteMarks)
  let mark := (marks.head?).getD []
  ofPoints (mark ++ text ++ mark)

/-- Plain text in formatted text: braces are written twice. -/
def doubledBraces (points : List Nat) : List Nat :=
  points.flatMap fun n => if n = 123 || n = 125 then [n, n] else [n]

/-- The embedded expression with its conversion and its format. A blank keeps two opening braces
apart. -/
def embedded (value : String) (conversion : Option Char) (spec : Option (List Nat)) :
    Except Fault (List Nat) :=
  let cs := value.toList
  if cs.contains '\\' then .error .backslash
  else
    let blank := if cs.head? = some '\x7b' then [32] else []
    let mark := match conversion with
      | some c => [33, c.toNat]
      | none => []
    let format := match spec with
      | some points => 58 :: points
      | none => []
    .ok (123 :: (blank ++ cs.map (·.toNat) ++ mark ++ format ++ [125]))

/-! ### Expressions -/

/-- A constant. Infinite numbers are written as a number that is too large; inside formatted text
strings avoid backslashes. -/
def constant (inside : Bool) (value : Literal) (unicodeMark : Bool) : String :=
  let plain := match value with
    | .ellipsis => "..."
    | .text points => if inside then bare points else value.repr
    | .float x => if x.isInf then "1e309" else value.repr
    | .imaginary x => if x.isInf then "1e309j" else value.repr
    | _ => value.repr
  if unicodeMark then "u" ++ plain else plain

/-- A whole number or truth value needs a blank before the point of an attribute. -/
def needsBlank : Expr → Bool
  | .constant _ (.int _) _ | .constant _ (.bool _) _ => true
  | _ => false

/-- The text of an expression where a given level is asked for, inside formatted text or not. -/
abbrev Text : Type := Level → Except Fault String

/-- The texts of expressions at one level. -/
def all (level : Level) (ts : List Text) : Except Fault (List String) := ts.mapM fun t => t level

/-- Entries of a dictionary. Without a key the value is unpacked. -/
def entries (keys : List (Option Text)) (values : List Text) : Except Fault (List String) :=
  (keys.zip values).mapM fun
    | (some k, v) => return (← k .test) ++ ": " ++ (← v .test)
    | (none, v) => return "**" ++ (← v .operand)

/-- Operands of a logical operator: each next one is asked to bind more tightly. -/
def rising : Level → List Text → Except Fault (List String)
  | _, [] => return []
  | level, t :: ts => return (← t level.next) :: (← rising level.next ts)

/-- Operands after their comparison operators. -/
def compared (ops : List CompareOp) (operands : List Text) : Except Fault String := do
  let texts ← all Level.compare.next operands
  return String.join ((ops.zip texts).map fun (o, s) => " " ++ comparison o ++ " " ++ s)

/-- A parameter with its default. -/
def withDefault (param : Except Fault String) (value : Option Text) : Except Fault String := do
  match value with
  | some v => return (← param) ++ "=" ++ (← v .test)
  | none => param

/-- A parameter list: a slash ends the positional-only parameters, a star starts the keyword-only
ones. -/
def parameters (positionalOnly positional : List (Except Fault String))
    (rest : Option (Except Fault String)) (keywordOnly : List (Except Fault String))
    (keywordDefaults : List (Option Text)) (keywordRest : Option (Except Fault String))
    (defaults : List Text) : Except Fault String := do
  let plain := positionalOnly ++ positional
  let values := List.replicate (plain.length - defaults.length) none ++ defaults.map some
  let named ← (plain.zip values).mapM fun (p, v) => withDefault p v
  let slashed := if positionalOnly.isEmpty then named
    else named.take positionalOnly.length ++ "/" :: named.drop positionalOnly.length
  let star ← match rest with
    | some r => do pure ["*" ++ (← r)]
    | none => pure (if keywordOnly.isEmpty then [] else ["*"])
  let keyed ← (keywordOnly.zip keywordDefaults).mapM fun (p, v) => withDefault p v
  let last ← match keywordRest with
    | some r => do pure ["**" ++ (← r)]
    | none => pure []
  return ", ".intercalate (slashed ++ star ++ keyed ++ last)

mutual

/-- The text of an expression. -/
def text (inside : Bool) : Expr → Text
  | .boolOp _ o values => fun asked => do
    let (word, own) := logical o
    let operands ← rising own (texts inside values)
    return guarded own asked ((" " ++ word ++ " ").intercalate operands)
  | .named _ target value => fun asked => do
    return guarded .assigned asked
      ((← text inside target .atom) ++ " := " ++ (← text inside value .atom))
  | .binary _ left o right => fun asked => do
    let (mark, own) := binary o
    let (l, r) := if o = .pow then (own.next, own) else (own, own.next)
    return guarded own asked
      ((← text inside left l) ++ " " ++ mark ++ " " ++ (← text inside right r))
  | .unary _ o operand => fun asked => do
    let (mark, own) := unary o
    return guarded own asked (mark ++ (← text inside operand own))
  | .lambda _ params body => fun asked => do
    let ps ← paramsText inside params
    let head := if ps.isEmpty then "lambda: " else "lambda " ++ ps ++ ": "
    return guarded .test asked (head ++ (← text inside body .test))
  | .ifExp _ test body orElse => fun asked => do
    return guarded .test asked
      ((← text inside body .or) ++ " if " ++ (← text inside test .or) ++ " else "
        ++ (← text inside orElse .test))
  | .dict _ keys values => fun _ => do
    return "\x7b" ++ ", ".intercalate (← entries (optionalTexts inside keys) (texts inside values))
      ++ "\x7d"
  | .set _ elements => fun _ => do
    return "\x7b" ++ ", ".intercalate (← all .test (texts inside elements)) ++ "\x7d"
  | .listComp _ element generators => fun _ => do
    return "[" ++ (← text inside element .test) ++ (← clauses inside generators) ++ "]"
  | .setComp _ element generators => fun _ => do
    return "\x7b" ++ (← text inside element .test) ++ (← clauses inside generators) ++ "\x7d"
  | .dictComp _ key value generators => fun _ => do
    return "\x7b" ++ (← text inside key .test) ++ ": " ++ (← text inside value .test)
      ++ (← clauses inside generators) ++ "\x7d"
  | .generator _ element generators => fun _ => do
    return "(" ++ (← text inside element .test) ++ (← clauses inside generators) ++ ")"
  | .await _ value => fun asked => do
    return guarded .await asked ("await " ++ (← text inside value .atom))
  | .yield _ none => fun asked => return guarded .yielded asked "yield"
  | .yield _ (some value) => fun asked => do
    return guarded .yielded asked ("yield " ++ (← text inside value .atom))
  | .yieldFrom _ value => fun asked => do
    return guarded .yielded asked ("yield from " ++ (← text inside value .atom))
  | .compare _ left ops comparators => fun asked => do
    return guarded .compare asked
      ((← text inside left Level.compare.next) ++ (← compared ops (texts inside comparators)))
  | .call _ func args keywords => fun _ => do
    let plain ← all .test (texts inside args)
    let named ← keywordTexts inside keywords
    return (← text inside func .atom) ++ "(" ++ ", ".intercalate (plain ++ named) ++ ")"
  | .formatted _ value conversion spec => fun _ => do
    return "f" ++ bare (← embedded (← text true value .or) conversion (← optionalPiece spec))
  | .joined _ values => fun _ => do
    let parts ← pieces values
    return "f" ++ (if inside then bare (parts.flatMap (·.1)) else joined parts)
  | .constant _ value unicodeMark => fun _ => return constant inside value unicodeMark
  | .attr _ value name => fun _ => do
    return (← text inside value .atom) ++ (if needsBlank value then " ." else ".") ++ name
  | .subscript _ value (.tuple _ (e :: es)) => fun _ => do
    return (← text inside value .atom) ++ "[" ++ items (← all .test (texts inside (e :: es))) ++ "]"
  | .subscript _ value index => fun _ => do
    return (← text inside value .atom) ++ "[" ++ (← text inside index .test) ++ "]"
  | .starred _ value => fun _ => return "*" ++ (← text inside value .operand)
  | .name _ id => fun _ => return id
  | .list _ elements => fun _ => do
    return "[" ++ ", ".intercalate (← all .test (texts inside elements)) ++ "]"
  | .tuple _ elements => fun _ => do
    return "(" ++ items (← all .test (texts inside elements)) ++ ")"
  | .slice _ lower upper step => fun _ => do
    let bound (t : Option Text) : Except Fault String := match t with
      | some t => t .test
      | none => return ""
    let lower ← bound (optionalText inside lower)
    let upper ← bound (optionalText inside upper)
    let step ← match optionalText inside step with
      | some t => do pure (":" ++ (← t .test))
      | none => pure ""
    return lower ++ ":" ++ upper ++ step

/-- The text of an expression that may be missing. -/
def optionalText (inside : Bool) : Option Expr → Option Text
  | none => none
  | some e => some (text inside e)

/-- The texts of expressions. -/
def texts (inside : Bool) : List Expr → List Text
  | [] => []
  | e :: es => text inside e :: texts inside es

/-- The texts of expressions that may be missing. -/
def optionalTexts (inside : Bool) : List (Option Expr) → List (Option Text)
  | [] => []
  | e :: es => optionalText inside e :: optionalTexts inside es

/-- The clauses of a comprehension. -/
def clauses (inside : Bool) : List Comprehension → Except Fault String
  | [] => return ""
  | .mk target source conditions isAsync :: rest => do
    let head := if isAsync then " async for " else " for "
    let conditions ← all .or (texts inside conditions)
    return head ++ (← text inside target .assigned) ++ " in " ++ (← text inside source .or)
      ++ String.join (conditions.map (" if " ++ ·)) ++ (← clauses inside rest)

/-- The texts of keyword arguments. -/
def keywordTexts (inside : Bool) : List Keyword → Except Fault (List String)
  | [] => return []
  | .mk _ name value :: rest => do
    let head := match name with
      | some n => n ++ "="
      | none => "**"
    return (head ++ (← text inside value .test)) :: (← keywordTexts inside rest)

/-- The text of a parameter with its type hint. -/
def paramText (inside : Bool) : Param → Except Fault String
  | .mk _ name none => return name
  | .mk _ name (some hint) => return name ++ ": " ++ (← text inside hint .test)

/-- The texts of parameters. -/
def paramTexts (inside : Bool) : List Param → List (Except Fault String)
  | [] => []
  | p :: ps => paramText inside p :: paramTexts inside ps

/-- The text of a parameter that may be missing. -/
def optionalParam (inside : Bool) : Option Param → Option (Except Fault String)
  | none => none
  | some p => some (paramText inside p)

/-- The text of a parameter list. -/
def paramsText (inside : Bool) : Params → Except Fault String
  | .mk positionalOnly positional rest keywordOnly keywordDefaults keywordRest defaults =>
    parameters (paramTexts inside positionalOnly) (paramTexts inside positional)
      (optionalParam inside rest) (paramTexts inside keywordOnly)
      (optionalTexts inside keywordDefaults) (optionalParam inside keywordRest)
      (texts inside defaults)

/-- A part of formatted text, before it is put between quotes. -/
def piece : Expr → Except Fault (List Nat)
  | .constant _ (.text points) _ => return doubledBraces points
  | .formatted _ value conversion spec => do
    embedded (← text true value .or) conversion (← optionalPiece spec)
  | .joined _ values => do return (← pieces values).flatMap (·.1)
  | _ => return []

/-- A format, if there is one. -/
def optionalPiece : Option Expr → Except Fault (Option (List Nat))
  | none => return none
  | some e => return some (← piece e)

/-- The parts of formatted text, each with a mark whether it is plain text. -/
def pieces : List Expr → Except Fault (List (List Nat × Bool))
  | [] => return []
  | e :: es => do
    let isText := match e with
      | .constant .. => true
      | _ => false
    return (← piece e, isText) :: (← pieces es)

end

end Printer

/-- The text of an expression that stands alone. -/
def Expr.text (e : Expr) : Except Printer.Fault String := Printer.text false e .test

end Lineage.Source
