import Enrollment.Decimal.Numeral
import Enrollment.Value
import Enrollment.Yaml.Token

/-!
# Timestamps

A day, or a day with a time of it and perhaps an offset, as YAML writes it. `Timestamp.read?`
takes the text apart; `Timestamp.toValue` looks whether the day and the time exist.
-/

namespace Enrollment.Yaml

/-- A time of day as it is written. -/
structure TimeOfDay where
  hour : Nat
  minute : Nat
  second : Nat
  /-- The digits after the decimal point. -/
  fraction : List Char
  /-- The offset in minutes, if there is one. -/
  offset : Option Int
deriving Repr

/-- A timestamp as it is written. -/
structure Timestamp where
  year : Nat
  month : Nat
  day : Nat
  /-- Whether month and day have two digits each. -/
  isPadded : Bool
  time : Option TimeOfDay
deriving Repr

namespace Timestamp

/-- The number of a run of digits with a length between `least` and `most`. -/
def number? (least most : Nat) (text : List Char) : Option (Nat × Nat × List Char) :=
  let digits := (text.takeWhile Char.isDigit).take most
  if digits.length < least then none
  else some (Numeral.ofDigits digits, digits.length, text.drop digits.length)

/-- The text after a mark. -/
def after? (mark : Char) : List Char → Option (List Char)
  | [] => none
  | c :: rest => if c = mark then some rest else none

/-- The text without the blanks in front. -/
def skipBlanks (text : List Char) : List Char := text.dropWhile fun c => c == ' ' || c == '\t'

/-- The offset that a text consists of. -/
def offset? (text : List Char) : Option (Option Int) := do
  match skipBlanks text with
  | [] => if text.isEmpty then return none else none
  | ['Z'] => return some 0
  | sign :: rest =>
    if sign != '-' && sign != '+' then none
    let (hours, _, rest) ← number? 1 2 rest
    let minutes ← match rest with
      | [] => some 0
      | rest => do
        let (minutes, _, rest) ← number? 2 2 (← after? ':' rest)
        if rest.isEmpty then some minutes else none
    let total : Int := hours * 60 + minutes
    return some (if sign == '-' then -total else total)

/-- The time of day that a text consists of, from the mark in front of it on. -/
def time? (text : List Char) : Option TimeOfDay := do
  let text ← match text with
    | [] => none
    | c :: rest =>
      if c = 'T' ∨ c = 't' then some rest
      else if c = ' ' ∨ c = '\t' then some (skipBlanks rest)
      else none
  let (hour, _, text) ← number? 1 2 text
  let (minute, _, text) ← number? 2 2 (← after? ':' text)
  let (second, _, text) ← number? 2 2 (← after? ':' text)
  let (fraction, text) := match text with
    | '.' :: rest => rest.span Char.isDigit
    | text => ([], text)
  return ⟨hour, minute, second, fraction, ← offset? text⟩

/-- Takes the text of a timestamp apart. -/
def read? (text : List Char) : Option Timestamp := do
  let (year, _, text) ← number? 4 4 text
  let (month, m, text) ← number? 1 2 (← after? '-' text)
  let (day, d, text) ← number? 1 2 (← after? '-' text)
  let time ← if text.isEmpty then some none else (time? text).map some
  return ⟨year, month, day, m = 2 && d = 2, time⟩

/-- The microseconds that the digits after a decimal point spell; digits after the sixth do not
count. -/
def micros (fraction : List Char) : Nat :=
  let digits := fraction.take 6
  Numeral.ofDigits digits * Nat.pow 10 (6 - digits.length)

/-- Looks whether a day exists. -/
def checkDay (d : Date) : Except ScalarFault Unit :=
  if d.year = 0 then .error (.noYear d.year)
  else if d.month < 1 ∨ 12 < d.month then .error .noMonth
  else if !d.isDay then .error .noDay
  else .ok ()

/-- Looks whether a time of day exists. -/
def checkTime (t : TimeOfDay) : Except ScalarFault Unit :=
  if 24 ≤ t.hour then .error .noHour
  else if 60 ≤ t.minute then .error .noMinute
  else if 60 ≤ t.second then .error .noSecond
  else .ok ()

/-- The day, or the moment, of a timestamp. -/
def toValue (t : Timestamp) : Except ScalarFault Value := do
  let date : Date := ⟨t.year, t.month, t.day⟩
  match t.time with
  | none => do
    checkDay date
    return .date date
  | some time => do
    if let some minutes := time.offset then
      if 1440 ≤ minutes.natAbs then throw (.farOffset minutes)
    checkDay date
    checkTime time
    return .moment
      ⟨date, time.hour, time.minute, time.second, micros time.fraction, time.offset.map (· * 60)⟩

end Timestamp

end Enrollment.Yaml
