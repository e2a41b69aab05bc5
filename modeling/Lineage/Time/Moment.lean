import Lineage.Decimal.Fixed
import Lineage.Time.Calendar

/-!
Moments: a date and a time of day, with or without the distance to universal time.
-/

namespace Lineage.Time

/-- A moment as a clock shows it: seconds since the start of 1970 on that clock, microseconds, and
how many seconds the clock is ahead of universal time if that is known. -/
structure Moment where
  seconds : Int
  micros : Nat := 0
  offset : Option Int := none
  deriving DecidableEq, Repr, Inhabited

namespace Moment

/-- The moment that a clock of universal time shows, without saying so. -/
def ofEpoch (seconds : Int) : Moment := ⟨seconds, 0, none⟩

/-- The seconds by universal time; a clock whose distance is not known is taken to show it. -/
def universal (m : Moment) : Int := m.seconds - m.offset.getD 0

/-- Both clocks say how far they are from universal time, or neither does. -/
def comparable (a b : Moment) : Bool := a.offset.isSome == b.offset.isSome

/-- Which of two comparable moments is earlier. -/
def compare (a b : Moment) : Ordering :=
  if a.universal < b.universal then .lt
  else if b.universal < a.universal then .gt
  else Ord.compare a.micros b.micros

/-- The date and the second of the day. -/
def split (m : Moment) : Date × Nat :=
  let days := Int.fdiv m.seconds 86400
  (Date.ofDays days, (m.seconds - days * 86400).toNat)

/-- A number with two digits. -/
def two (n : Nat) : String := Decimal.padZeros 2 (toString n)

/-- A date with hyphens. -/
def dateText (d : Date) : String :=
  Decimal.padZeros 4 (toString d.year) ++ "-" ++ two d.month ++ "-" ++ two d.day

/-- The distance to universal time. -/
def offsetText (seconds : Int) : String :=
  if seconds = 0 then "Z"
  else
    let minutes := seconds.natAbs / 60
    (if seconds < 0 then "-" else "+") ++ two (minutes / 60) ++ ":" ++ two (minutes % 60)

/-- Date and time with a `T` between them; microseconds only where there are any. -/
def iso (m : Moment) : String :=
  let (date, second) := m.split
  let fraction := if m.micros = 0 then "" else "." ++ Decimal.padZeros 6 (toString m.micros)
  let offset := match m.offset with
    | some seconds => offsetText seconds
    | none => ""
  dateText date ++ "T" ++ two (second / 3600) ++ ":" ++ two (second / 60 % 60) ++ ":"
    ++ two (second % 60) ++ fraction ++ offset

/-- Date and time up to the minute; the year has as many digits as it needs. -/
def brief (m : Moment) : String :=
  let (date, second) := m.split
  toString date.year ++ "-" ++ two date.month ++ "-" ++ two date.day ++ " " ++ two (second / 3600) ++ ":" ++ two (second / 60 % 60)

end Moment

end Lineage.Time
