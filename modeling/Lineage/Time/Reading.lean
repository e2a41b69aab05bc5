import Lineage.Input.Reader
import Lineage.Time.Moment

/-!
Moments as they are given: as text, a date with or without a time of day, or as a number of seconds
since the start of 1970. Numbers from twenty milliards on count milliseconds.
-/

namespace Lineage.Time

/-- Why a text is no date, in words. -/
abbrev Reason : Type := String

/-- A digit. -/
def digit? (c : Char) : Option Nat :=
  if '0' ≤ c ∧ c ≤ '9' then some (c.toNat - 48) else none

/-- A number of some digits. -/
def digits? (cs : List Char) : Option Nat :=
  cs.foldl (fun n c => do return 10 * (← n) + (← digit? c)) (some 0)

/-- The date at the start of a text, and the rest of the text. -/
def readDate (cs : List Char) : Except Reason (Date × List Char) := do
  match cs with
  | y1 :: y2 :: y3 :: y4 :: s1 :: m1 :: m2 :: s2 :: d1 :: d2 :: rest =>
    let some year := digits? [y1, y2, y3, y4] | throw "invalid character in year"
    if s1 ≠ '-' then throw "invalid date separator, expected `-`"
    let some month := digits? [m1, m2] | throw "invalid character in month"
    if s2 ≠ '-' then throw "invalid date separator, expected `-`"
    let some day := digits? [d1, d2] | throw "invalid character in day"
    if month < 1 ∨ 12 < month then throw "month value is outside expected range of 1-12"
    if day < 1 ∨ daysIn year month < day then throw "day value is outside expected range"
    return (⟨year, month, day⟩, rest)
  | _ => throw "input is too short"

/-- Microseconds after the seconds, with the rest of the text. Digits past the sixth are dropped. -/
def readFraction : List Char → Option (Nat × List Char)
  | c :: rest =>
    if c = '.' ∨ c = ',' then
      let ds := rest.takeWhile fun d => (digit? d).isSome
      if ds.isEmpty ∨ 9 < ds.length then none
      else
        let six := (ds ++ List.replicate 6 '0').take 6
        (digits? six).map fun n => (n, rest.drop ds.length)
    else some (0, c :: rest)
  | [] => some (0, [])

/-- The distance to universal time at the end of a text. -/
def readOffset : List Char → Option (Option Int)
  | [] => some none
  | ['Z'] | ['z'] => some (some 0)
  | sign :: h1 :: h2 :: rest => do
    let minutes ← match rest with
      | [':', m1, m2] | [m1, m2] => digits? [m1, m2]
      | _ => none
    let hours ← digits? [h1, h2]
    let seconds : Int := hours * 3600 + minutes * 60
    if 60 ≤ minutes ∨ 86400 ≤ seconds then none
    else if sign = '+' then some (some seconds)
    else if sign = '-' ∨ sign = '−' then some (some (-seconds))
    else none
  | _ => none

/-- A time of day with its distance to universal time: the second of the day, microseconds and
offset. -/
def readClock : List Char → Option (Nat × Nat × Option Int)
  | h1 :: h2 :: ':' :: m1 :: m2 :: rest => do
    let hour ← digits? [h1, h2]
    let minute ← digits? [m1, m2]
    let (second, micros, rest) ← match rest with
      | ':' :: s1 :: s2 :: rest => do
        let second ← digits? [s1, s2]
        let (micros, rest) ← readFraction rest
        some (second, micros, rest)
      | rest => some (0, 0, rest)
    if 24 ≤ hour ∨ 60 ≤ minute ∨ 60 ≤ second then none
    let offset ← readOffset rest
    return (hour * 3600 + minute * 60 + second, micros, offset)
  | _ => none

/-- A date with a time of day. -/
def readMoment? (cs : List Char) : Option Moment :=
  match readDate cs with
  | .ok (date, sep :: clock) =>
    if sep = 'T' ∨ sep = 't' ∨ sep = ' ' ∨ sep = '_' then
      (readClock clock).map fun (second, micros, offset) =>
        ⟨date.toDays * 86400 + second, micros, offset⟩
    else none
  | _ => none

/-- The first number that counts milliseconds. -/
def watershed : Int := 20000000000

/-- The moment of a number of seconds or milliseconds, or why there is none. Numbers are universal
time. -/
def ofNumber (n : Int) (micros : Nat) : Except Reason Moment :=
  let (seconds, micros) :=
    if n.natAbs ≤ watershed.natAbs then (n, micros)
    else (Int.fdiv n 1000, (Int.fmod n 1000).toNat * 1000)
  if seconds < -62135596800 then .error "dates before 1600 are not supported as unix timestamps"
  else if 253402300799 < seconds then .error "dates after 9999 are not supported as unix timestamps"
  else .ok ⟨seconds, micros, some 0⟩

/-- A moment that is given as text. -/
def ofText (s : String) : Except Reason Moment :=
  let cs := s.toList
  match readMoment? cs with
  | some m => .ok m
  | none =>
    let number? : Option (Except Reason Moment) := match Input.Number.strictInt cs with
      | .ok n => some (ofNumber n 0)
      | .error _ => none
    match number?, readDate cs with
    | some result, _ => result
    | none, .ok (date, []) => .ok ⟨date.toDays * 86400, 0, none⟩
    | none, .ok _ => .error "unexpected extra characters at the end of the input"
    | none, .error reason => .error reason

/-- Reads a moment. -/
def reader : Input.Reader Moment := fun j =>
  let result : Except Input.Problem Moment := match j with
    | .text s => (ofText s).mapError .momentText
    | .int n => (ofNumber n 0).mapError .momentText
    | .float x =>
      let whole := x.floor
      let micros := ((x - whole) * 1000000).round.toUInt64.toNat
      (ofNumber whole.toInt64.toInt micros).mapError .momentText
    | _ => .error .notMoment
  match result with
  | .ok m => .valid m
  | .error p => .refuse p

end Lineage.Time
