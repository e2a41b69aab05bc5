/-!
Text with style tags, as it is printed without colours.

A tag stands in square brackets and starts with a small letter, a slash or one of two signs. It is
not shown. A slash closes the last tag, or the last one of a name. A backslash before a tag makes it
plain text.
-/

namespace Lineage.Console

/-- A closing tag without the tag that it closes. -/
inductive MarkupFault where
  | unmatched (tag : String) (position : Nat)
  | nothingOpen (position : Nat)
  deriving DecidableEq, Repr

/-- The message for a fault in a marked-up text. -/
def MarkupFault.message : MarkupFault → String
  | unmatched tag position =>
    "closing tag '[" ++ tag ++ "]' at position " ++ toString position ++ " doesn't match any open tag"
  | nothingOpen position =>
    "closing tag '[/]' at position " ++ toString position ++ " has nothing to close"

/-- A tag may start with the character. -/
def startsTag (c : Char) : Bool := ('a' ≤ c && c ≤ 'z') || c == '#' || c == '/' || c == '@'

/-- The inside of the tag that starts after an opening bracket. -/
def tagOf? : List Char → Option (List Char)
  | [] => none
  | c :: cs =>
    let inside := cs.takeWhile fun d => d != '[' && d != ']'
    if startsTag c && (cs.drop inside.length).head? == some ']' then some (c :: inside) else none

/-- The name of a style without regard to case and surrounding blanks. -/
def styleName (cs : List Char) : List Char :=
  let trimmed := ((cs.dropWhile (· == ' ')).reverse.dropWhile (· == ' ')).reverse
  trimmed.map Char.toLower

/-- Removes the last open tag of a name from the open tags, the latest first. -/
def closeTag? (name : List Char) : List (List Char) → Option (List (List Char))
  | [] => none
  | t :: ts => if t == name then some ts else (closeTag? name ts).map (t :: ·)

/-- The name and the value of a tag. -/
def tagName (tag : List Char) : List Char := tag.takeWhile (· != '=')

/-- The open tags after a tag. -/
def applyTag (tag : List Char) (position : Nat) (opened : List (List Char)) :
    Except MarkupFault (List (List Char)) :=
  match tagName tag with
  | '/' :: name =>
    let name := styleName name
    if name.isEmpty then
      match opened with
      | [] => .error (.nothingOpen position)
      | _ :: rest => .ok rest
    else
      match closeTag? name opened with
      | some rest => .ok rest
      | none => .error (.unmatched (String.ofList tag) position)
  | name => .ok (styleName name :: opened)

/-- The plain characters of a marked-up text. `skip` characters of the text belong to what was read
before, `slashes` backslashes stand before its start. -/
def plainFrom : List Char → Nat → Nat → Nat → List (List Char) → Except MarkupFault (List Char)
  | [], _, _, slashes, _ => .ok (List.replicate slashes '\\')
  | _ :: cs, skip + 1, position, slashes, opened => plainFrom cs skip (position + 1) slashes opened
  | c :: cs, 0, position, slashes, opened =>
    if c = '\\' then plainFrom cs 0 (position + 1) (slashes + 1) opened
    else
      match if c = '[' then tagOf? cs else none with
      | some tag => do
        let before := List.replicate (slashes / 2) '\\'
        if slashes % 2 = 1 then
          return before ++ '[' :: (← plainFrom cs 0 (position + 1) 0 opened)
        let opened ← applyTag tag position opened
        return before ++ (← plainFrom cs (tag.length + 1) (position + 1) 0 opened)
      | none => do
        let before := List.replicate (if c = '[' then slashes - 1 else slashes) '\\'
        return before ++ c :: (← plainFrom cs 0 (position + 1) 0 opened)

/-- A marked-up text without its tags. -/
def plain (markup : String) : Except MarkupFault String :=
  (plainFrom markup.toList 0 0 0 []).map String.ofList

end Lineage.Console
