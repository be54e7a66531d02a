/-!
# Dates and times of day

Days of the proleptic Gregorian calendar from year 1 to 9999, times of day down to the
microsecond, and offsets from universal time in seconds. The texts are those of ISO 8601.
-/

namespace Enrollment

/-- How many days a month has. -/
def daysInMonth (year month : Nat) : Nat :=
  if month = 2 then
    if year % 4 = 0 ∧ (year % 100 ≠ 0 ∨ year % 400 = 0) then 29 else 28
  else if month = 4 ∨ month = 6 ∨ month = 9 ∨ month = 11 then 30
  else 31

/-- A day. -/
structure Date where
  year : Nat
  month : Nat
  day : Nat
deriving DecidableEq, Repr, Inhabited

/-- Whether month and day exist; the year is not looked at. -/
def Date.isDay (d : Date) : Bool :=
  1 ≤ d.month && d.month ≤ 12 && 1 ≤ d.day && d.day ≤ daysInMonth d.year d.month

/-- A day and a time of it. `offset` is the distance from universal time in seconds, if known. -/
structure Moment where
  date : Date
  hour : Nat := 0
  minute : Nat := 0
  second : Nat := 0
  micro : Nat := 0
  offset : Option Int := none
deriving DecidableEq, Repr, Inhabited

/-- Whether the time of day exists. -/
def Moment.isTime (m : Moment) : Bool := m.hour < 24 && m.minute < 60 && m.second < 60

/-- A number in base ten, filled with zeros up to `width` digits. -/
def padded (width n : Nat) : String :=
  let digits := (toString n).toList
  String.ofList (List.replicate (width - digits.length) '0' ++ digits)

/-- An offset as `+hh:mm`, with seconds only if there are any. -/
def offsetText (seconds : Int) : String :=
  let n := seconds.natAbs
  (if seconds < 0 then "-" else "+") ++ padded 2 (n / 3600) ++ ":" ++ padded 2 (n / 60 % 60) ++
    (if n % 60 = 0 then "" else ":" ++ padded 2 (n % 60))

/-- The text `yyyy-mm-dd`. -/
def Date.iso (d : Date) : String :=
  padded 4 d.year ++ "-" ++ padded 2 d.month ++ "-" ++ padded 2 d.day

/-- The text `yyyy-mm-ddThh:mm:ss`, with microseconds if there are any and with the offset if
it is known. -/
def Moment.iso (m : Moment) : String :=
  m.date.iso ++ "T" ++ padded 2 m.hour ++ ":" ++ padded 2 m.minute ++ ":" ++ padded 2 m.second ++
    (if m.micro = 0 then "" else "." ++ padded 6 m.micro) ++
    (match m.offset with
      | none => ""
      | some seconds => offsetText seconds)

/-- The moment with a missing offset taken as universal time. -/
def Moment.orUniversal (m : Moment) : Moment :=
  { m with offset := some (m.offset.getD 0) }

end Enrollment
