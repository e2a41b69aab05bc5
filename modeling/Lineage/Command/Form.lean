import Lineage.Input.Number
import Lineage.Json.Basic

/-!
Command lines: which operands and options a command takes, and what is given in a list of words.

Options may stand between the operands. A long option has two hyphens, a short one a hyphen and one
letter; short ones may be joined, the last of them with its value. After two hyphens alone all words
are operands. Of an option that is given twice the last value counts.
-/

namespace Lineage.Command

/-- The values that an operand or an option takes. -/
inductive ValueSort where
  | text
  | whole
  | number
  deriving DecidableEq, Repr

/-- A value that must be given, by its place. -/
structure Operand where
  name : String
  sort : ValueSort := .text

/-- What follows from an option: its value is taken, or a truth value is set. -/
inductive Effect where
  | takes (sort : ValueSort)
  | sets (value : Bool)
  deriving DecidableEq, Repr

/-- An option: how it is written, the name of what it sets, and how. -/
structure Choice where
  spellings : List String
  name : String
  effect : Effect

/-- What a command takes. -/
structure Form where
  operands : List Operand
  choices : List Choice

namespace ValueSort

/-- Reads a whole number. -/
def whole? (s : String) : Option Int :=
  let digits? (cs : List Char) : Option Int := do
    let digits ← Input.Number.withoutMarks? cs
    if digits.isEmpty || !digits.all Input.Number.isDigit
      || Input.Number.maxDigits < digits.length then none
    else some (Decimal.digitsValue digits)
  match Input.Number.trim s.toList with
  | '-' :: cs => (digits? cs).map fun n => -n
  | '+' :: cs => digits? cs
  | cs => digits? cs

/-- Reads a value. -/
def read? : ValueSort → String → Option Json
  | text, s => some (.text s)
  | whole, s => (whole? s).map .int
  | number, s => (Input.Number.float? s).map .float

end ValueSort

namespace Form

/-- Something that was given for an option: a word, or nothing but the option itself. -/
inductive Mention where
  | word (choice : Choice) (sort : ValueSort) (word : String)
  | alone (choice : Choice) (value : Bool)

/-- The option that is mentioned. -/
def Mention.choice : Mention → Choice
  | word choice _ _ => choice
  | alone choice _ => choice

/-- The value that is given. -/
def Mention.value? : Mention → Option Json
  | word _ sort w => sort.read? w
  | alone _ b => some (.bool b)

/-- The option that is written in a way. -/
def choice? (f : Form) (spelling : String) : Option Choice :=
  f.choices.find? fun c => c.spellings.contains spelling

/-- What a word says: it is an operand, it mentions options, or the last option in it wants the next
word as its value. -/
inductive Word where
  | operand
  | mentions (ms : List Mention)
  | wants (ms : List Mention) (choice : Choice) (sort : ValueSort)

/-- One more option before those of a word. -/
def Word.after (m : Mention) : Word → Word
  | operand => mentions [m]
  | mentions ms => mentions (m :: ms)
  | wants ms choice sort => wants (m :: ms) choice sort

/-- What joined short options say. -/
def shorts? (f : Form) : List Char → Option Word
  | [] => some (.mentions [])
  | c :: cs =>
    match f.choice? (String.ofList ['-', c]) with
    | none => none
    | some choice =>
      match choice.effect with
      | .takes sort =>
        if cs.isEmpty then some (.wants [] choice sort)
        else some (.mentions [.word choice sort (String.ofList cs)])
      | .sets b => (shorts? f cs).map (.after (.alone choice b))

/-- What a long option says; its value may follow after an equals sign. -/
def long? (f : Form) (word : List Char) : Option Word :=
  let spelling := word.takeWhile (· != '=')
  let value? := if spelling.length < word.length then some (word.drop (spelling.length + 1)) else none
  match f.choice? (String.ofList spelling) with
  | none => none
  | some choice =>
    match choice.effect, value? with
    | .takes sort, none => some (.wants [] choice sort)
    | .takes sort, some v => some (.mentions [.word choice sort (String.ofList v)])
    | .sets b, none => some (.mentions [.alone choice b])
    | .sets _, some _ => none

/-- What a word says, if it can be understood. -/
def word? (f : Form) (word : String) : Option Word :=
  match word.toList with
  | '-' :: '-' :: cs => f.long? ('-' :: '-' :: cs)
  | '-' :: c :: cs => f.shorts? (c :: cs)
  | _ => some .operand

/-- The operands and the options in a list of words. -/
def scan? (f : Form) : List String → Option (List String × List Mention)
  | [] => some ([], [])
  | w :: ws =>
    if w == "--" then some (ws, [])
    else
      match f.word? w with
      | none => none
      | some .operand => (scan? f ws).map fun r => (w :: r.1, r.2)
      | some (.mentions ms) => (scan? f ws).map fun r => (r.1, ms ++ r.2)
      | some (.wants ms choice sort) =>
        match ws with
        | [] => none
        | v :: rest => (scan? f rest).map fun r => (r.1, ms ++ .word choice sort v :: r.2)

/-- Values by name. -/
abbrev Values : Type := List (String × Json)

/-- The values of the operands; there must be as many words as operands. -/
def operandValues? : List Operand → List String → Option Values
  | [], [] => some []
  | o :: os, w :: ws => do
    let v ← o.sort.read? w
    return (o.name, v) :: (← operandValues? os ws)
  | _, _ => none

/-- The values of the options that are mentioned, each as it is given last. -/
def choiceValues? (ms : List Mention) (names : List String) : Option Values :=
  (names.filterMap fun name =>
    (ms.reverse.find? fun m => m.choice.name == name).map fun m => (name, m)).mapM fun (name, m) =>
      m.value?.map fun v => (name, v)

/-- The option that asks for help. -/
def help : Choice := ⟨["--help"], "help", .sets true⟩

/-- What is given in a list of words. Help is given whatever else there is. -/
inductive Given where
  | help
  | values (vs : Values)

/-- Reads a list of words. -/
def read? (f : Form) (words : List String) : Option Given := do
  let f := { f with choices := help :: f.choices }
  let (operands, ms) ← f.scan? words
  if ms.any fun m => m.choice.name == help.name then return .help
  let names := (f.choices.map (·.name)).eraseDups
  return .values ((← operandValues? f.operands operands) ++ (← choiceValues? ms names))

end Form

end Lineage.Command
