import Enrollment.Calendar
import Enrollment.Decimal.Radix
import Enrollment.Decimal.Shortest
import Enrollment.Text.Quoted

/-!
# Plain values

The data that configuration files, error details and loosely typed arguments carry. `Value.wording`
writes a value down so that a reader can tell its kind; `Value.asText` is the same except that a
text stands for itself. Both give words to every value, but a value that holds an integer of too
many digits is never written: `Value.isWritable` has to be asked first.
-/

namespace Enrollment

/-- Plain data. Entries of a table keep their order. -/
inductive Value where
  | null
  | bool (b : Bool)
  | int (n : Int)
  | float (x : Binary64)
  | text (s : String)
  | octets (bytes : Octets)
  | list (items : List Value)
  | tuple (items : List Value)
  | set (items : List Value)
  | table (entries : List (Value × Value))
  | date (d : Date)
  | moment (m : Moment)
  /-- A reference from inside a list back to it. -/
  | sameList
  /-- A reference from inside a table back to it, with the entries that it leads to. -/
  | sameTable (entries : List (Value × Value))
deriving Repr, Inhabited

instance : Coe String Value := ⟨Value.text⟩

namespace Value

/-- The name of the kind of a value. -/
def kindName : Value → String
  | .null => "NoneType"
  | .bool _ => "bool"
  | .int _ => "int"
  | .float _ => "float"
  | .text _ => "str"
  | .octets _ => "bytes"
  | .list _ | .sameList => "list"
  | .tuple _ => "tuple"
  | .set _ => "set"
  | .table _ | .sameTable _ => "dict"
  | .date _ => "date"
  | .moment _ => "datetime"

/-- Whether a value counts as something: not null, false, zero or empty. -/
def isTruthy : Value → Bool
  | .null => false
  | .bool b => b
  | .int n => n != 0
  | .float x => !x.isZero
  | .text s => s != ""
  | .octets bytes => !bytes.isEmpty
  | .list items | .tuple items | .set items => !items.isEmpty
  | .table entries => !entries.isEmpty
  | .date _ | .moment _ | .sameList | .sameTable _ => true

/-- Whether a value is null. -/
def isNull : Value → Bool
  | .null => true
  | _ => false

/-- The parts joined by a comma and a space. -/
def commaSeparated : List String → String
  | [] => ""
  | [s] => s
  | s :: more => s ++ ", " ++ commaSeparated more

/-- A day as the call that makes it. -/
def shownDate (d : Date) : String :=
  "datetime.date(" ++ commaSeparated [toString d.year, toString d.month, toString d.day] ++ ")"

/-- An offset from universal time as the call that makes it; a negative one is written as days
back and seconds forth. -/
def shownOffset (seconds : Int) : String :=
  if seconds = 0 then "datetime.timezone.utc"
  else
    let days := seconds.fdiv 86400
    let rest := seconds.fmod 86400
    let parts := (if days = 0 then [] else ["days=" ++ toString days]) ++
      (if rest = 0 then [] else ["seconds=" ++ toString rest])
    "datetime.timezone(datetime.timedelta(" ++ commaSeparated parts ++ "))"

/-- A moment as the call that makes it; zero seconds and microseconds are left out. -/
def shownMoment (m : Moment) : String :=
  let numbers := [m.date.year, m.date.month, m.date.day, m.hour, m.minute] ++
    (if m.micro ≠ 0 then [m.second, m.micro] else if m.second ≠ 0 then [m.second] else [])
  let zone := match m.offset with
    | none => []
    | some seconds => ["tzinfo=" ++ shownOffset seconds]
  "datetime.datetime(" ++ commaSeparated (numbers.map toString ++ zone) ++ ")"

mutual

/-- The words for a value, however long its integers are. -/
def wording : Value → String
  | .null => "None"
  | .bool b => if b then "True" else "False"
  | .int n => toString n
  | .float x => x.text
  | .text s => Text.quote s
  | .octets bytes => Text.quoteOctets bytes
  | .list items => "[" ++ commaSeparated (wordings items) ++ "]"
  | .tuple [item] => "(" ++ wording item ++ ",)"
  | .tuple items => "(" ++ commaSeparated (wordings items) ++ ")"
  | .set [] => "set()"
  | .set items => "\x7b" ++ commaSeparated (wordings items) ++ "\x7d"
  | .table entries => "\x7b" ++ commaSeparated (entryWordings entries) ++ "\x7d"
  | .date d => shownDate d
  | .moment m => shownMoment m
  | .sameList => "[...]"
  | .sameTable _ => "\x7b...\x7d"

/-- The words for the values of a list. -/
def wordings : List Value → List String
  | [] => []
  | item :: more => wording item :: wordings more

/-- The words for the entries of a table. -/
def entryWordings : List (Value × Value) → List String
  | [] => []
  | (key, item) :: more => (wording key ++ ": " ++ wording item) :: entryWordings more

end

/-- The words for a value in running text: a text is itself, all else as `wording`. -/
def asText : Value → String
  | .text s => s
  | v => v.wording

/-- Whether an integer has few enough digits to be written down: as many as may be read. -/
def isShort (n : Int) : Bool := (Nat.toDigits 10 n.natAbs).length ≤ Radix.digitLimit

/-- What is said of an integer that cannot be written down. -/
def longIntegerText : String :=
  "Exceeds the limit (" ++ toString Radix.digitLimit ++
    " digits) for integer string conversion; use sys.set_int_max_str_digits() to increase the limit"

mutual

/-- Whether a value can be written down: every integer that its words show is short enough. -/
def isWritable : Value → Bool
  | .int n => isShort n
  | .list items | .tuple items | .set items => areWritable items
  | .table entries => areEntriesWritable entries
  | _ => true

/-- Whether all values of a list can be written down. -/
def areWritable : List Value → Bool
  | [] => true
  | item :: more => isWritable item && areWritable more

/-- Whether all entries of a table can be written down. -/
def areEntriesWritable : List (Value × Value) → Bool
  | [] => true
  | (key, item) :: more => isWritable key && isWritable item && areEntriesWritable more

end

/-- What a value is to one who comes from its table: a reference leads to the table itself. -/
def followed : Value → Value
  | .sameTable entries => .table entries
  | v => v

/-- The entry of a table under a text key. -/
def entry? (key : String) : List (Value × Value) → Option Value
  | [] => none
  | (.text k, item) :: more => if k = key then some item.followed else entry? key more
  | _ :: more => entry? key more

end Value

end Enrollment
