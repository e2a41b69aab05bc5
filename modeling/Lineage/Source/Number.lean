/-!
Number literals: how far one reaches, and what is wrong with one that cannot be read. A number ends
where no letter, digit or underscore follows it, except for a keyword that may come right after.
-/

namespace Lineage.Source.Number

/-- A decimal digit. -/
def isDigit (c : Char) : Bool := '0' ≤ c && c ≤ '9'

/-- A hexadecimal digit. -/
def isHexDigit (c : Char) : Bool :=
  isDigit c || ('a' ≤ c && c ≤ 'f') || ('A' ≤ c && c ≤ 'F')

/-- What a number has read: its characters, last one first, and the rest of the text. -/
structure Scan where
  taken : List Char
  rest : List Char

/-- The word with which a faulty literal is named. -/
def fault (kind : String) : String := "invalid " ++ kind ++ " literal"

/-- Digits of one class, with single underscores between them; `rest` starts after a digit. `bad`
is the message for an underscore without a digit after it. -/
def digitRun (p : Char → Bool) (bad : String) : List Char → List Char → Except String Scan
  | taken, '_' :: d :: rest => if p d then digitRun p bad (d :: '_' :: taken) rest else .error bad
  | _, ['_'] => .error bad
  | taken, c :: rest => if p c then digitRun p bad (c :: taken) rest else .ok ⟨taken, c :: rest⟩
  | taken, [] => .ok ⟨taken, []⟩

/-- Decimal digits after the first one. -/
def decimalTail (taken rest : List Char) : Except String Scan :=
  digitRun isDigit (fault "decimal") taken rest

/-- A keyword that may follow a number directly starts here. -/
def keywordFollows : List Char → Bool
  | 'a' :: 'n' :: 'd' :: _ | 'e' :: 'l' :: 's' :: 'e' :: _ | 'f' :: 'o' :: 'r' :: _
  | 'i' :: 'f' :: _ | 'i' :: 'n' :: _ | 'i' :: 's' :: _ | 'o' :: 'r' :: _
  | 'n' :: 'o' :: 't' :: _ => true
  | _ => false

/-- The character may be part of a word. -/
def isWordChar (c : Char) : Bool :=
  ('a' ≤ c && c ≤ 'z') || ('A' ≤ c && c ≤ 'Z') || isDigit c || c == '_' || 128 ≤ c.toNat

/-- Accepts a number of which nothing is left over. -/
def finish (kind : String) (s : Scan) : Except String Scan :=
  match s.rest with
  | c :: _ => if keywordFollows s.rest || !isWordChar c then .ok s else .error (fault kind)
  | [] => .ok s

/-- The end of a number from the mark of an imaginary one on. -/
def imaginary (s : Scan) : Except String Scan :=
  match s.rest with
  | c :: rest =>
    if c = 'j' ∨ c = 'J' then finish "imaginary" ⟨c :: s.taken, rest⟩ else finish "decimal" s
  | [] => .ok s

/-- The end of a number from its exponent on. An `e` without digits after it is left alone where it
may start a keyword. -/
def exponent (s : Scan) : Except String Scan :=
  match s.rest with
  | e :: rest =>
    if e = 'e' ∨ e = 'E' then
      match rest with
      | c :: d :: rest' =>
        if c = '+' ∨ c = '-' then
          if isDigit d then do imaginary (← decimalTail (d :: c :: e :: s.taken) rest')
          else .error (fault "decimal")
        else if isDigit c then do imaginary (← decimalTail (c :: e :: s.taken) (d :: rest'))
        else finish "decimal" s
      | [c] =>
        if c = '+' ∨ c = '-' then .error (fault "decimal")
        else if isDigit c then imaginary ⟨c :: e :: s.taken, []⟩
        else finish "decimal" s
      | [] => finish "decimal" s
    else imaginary s
  | [] => .ok s

/-- The end of a number after its point. -/
def fraction (s : Scan) : Except String Scan :=
  match s.rest with
  | d :: rest =>
    if isDigit d then do exponent (← decimalTail (d :: s.taken) rest) else exponent s
  | [] => .ok s

/-- The end of a number after its whole part. -/
def afterWhole (s : Scan) : Except String Scan :=
  match s.rest with
  | '.' :: rest => fraction ⟨'.' :: s.taken, rest⟩
  | _ => exponent s

/-- A literal in another base. `rest` starts after the mark of the base. -/
def based (p : Char → Bool) (kind : String) (taken rest : List Char) : Except String Scan :=
  let digit (c : Char) : Except String Unit :=
    if p c then .ok ()
    else if kind != "hexadecimal" && isDigit c then
      .error ("invalid digit '" ++ c.toString ++ "' in " ++ kind ++ " literal")
    else .error (fault kind)
  let rec run : List Char → List Char → Except String Scan
    | taken, '_' :: d :: rest => do digit d; run (d :: '_' :: taken) rest
    | _, ['_'] => .error (fault kind)
    | taken, c :: rest =>
      if p c then run (c :: taken) rest
      else if kind != "hexadecimal" && isDigit c then
        .error ("invalid digit '" ++ c.toString ++ "' in " ++ kind ++ " literal")
      else .ok ⟨taken, c :: rest⟩
    | taken, [] => .ok ⟨taken, []⟩
  match rest with
  | '_' :: _ => do finish kind (← run taken rest)
  | c :: rest => do digit c; finish kind (← run (c :: taken) rest)
  | [] => .error (fault kind)

/-- What is wrong with a whole number that starts with a zero. -/
def leadingZeros : String :=
  "leading zeros in decimal integer literals are not permitted; " ++
    "use an 0o prefix for octal integers"

/-- A number that starts with a zero: zero itself, or a number with a point, an exponent or an
imaginary mark. -/
def afterZero (s : Scan) : Except String Scan := do
  let whole ← decimalTail s.taken s.rest
  match whole.rest with
  | '.' :: rest => fraction ⟨'.' :: whole.taken, rest⟩
  | c :: _ =>
    if c = 'e' ∨ c = 'E' then exponent whole
    else if c = 'j' ∨ c = 'J' then imaginary whole
    else if whole.taken.any fun d => d != '0' && d != '_' then .error leadingZeros
    else finish "decimal" whole
  | [] => .ok whole

/-- The number at the start of a text whose first character is a digit, or a point with a digit
after it. -/
def scan : List Char → Except String Scan
  | '0' :: c :: rest =>
    if c = 'x' ∨ c = 'X' then based isHexDigit "hexadecimal" [c, '0'] rest
    else if c = 'o' ∨ c = 'O' then based (fun d => '0' ≤ d && d < '8') "octal" [c, '0'] rest
    else if c = 'b' ∨ c = 'B' then based (fun d => d == '0' || d == '1') "binary" [c, '0'] rest
    else afterZero ⟨['0'], c :: rest⟩
  | '.' :: rest => fraction ⟨['.'], rest⟩
  | c :: rest => do afterWhole (← decimalTail [c] rest)
  | [] => .error (fault "decimal")

end Lineage.Source.Number
