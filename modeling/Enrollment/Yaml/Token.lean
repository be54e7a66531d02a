import Enrollment.Text.Quoted

/-!
# Tokens of YAML

The pieces that a YAML text consists of, and the faults that end its reading. Indentation shows
in tokens that open and close blocks.
-/

namespace Enrollment.Yaml

/-- The stage of reading that refused a text. -/
inductive Stage where
  /-- A character that no text may have. -/
  | reader
  | scanner
  | parser
  | composer
  | constructor
deriving DecidableEq, Repr

/-- The name under which a refusal is reported. -/
def Stage.name : Stage → String
  | reader => "ReaderError"
  | scanner => "ScannerError"
  | parser => "ParserError"
  | composer => "ComposerError"
  | constructor => "ConstructorError"

/-- Why a scalar is not what its tag says, where no stage expects that. -/
inductive ScalarFault where
  /-- An escape for a character beyond the last one. -/
  | beyondUnicode
  | beyondWord
  | noDigit
  | notInteger (radix : Nat) (text : String)
  | longInteger (digits : Nat)
  | notNumber (text : String)
  | notTruth (text : String)
  | notTimestamp
  | noYear (year : Nat)
  | noMonth
  | noDay
  | noHour
  | noMinute
  | noSecond
  /-- An offset of a day or more, in minutes. -/
  | farOffset (minutes : Int)
deriving DecidableEq, Repr

namespace ScalarFault

/-- The name under which a fault is reported. -/
def name : ScalarFault → String
  | beyondWord => "OverflowError"
  | noDigit => "IndexError"
  | notTruth _ => "KeyError"
  | notTimestamp => "AttributeError"
  | _ => "ValueError"

/-- A length of time in minutes as the call that makes it. -/
def lengthText (minutes : Int) : String :=
  let days := minutes.fdiv 1440
  let seconds := minutes.fmod 1440 * 60
  "datetime.timedelta(days=" ++ toString days ++
    (if seconds = 0 then "" else ", seconds=" ++ toString seconds) ++ ")"

/-- What went wrong, for a reader. -/
def message : ScalarFault → String
  | beyondUnicode => "chr() arg not in range(0x110000)"
  | beyondWord => "Python int too large to convert to C int"
  | noDigit => "string index out of range"
  | notInteger radix text =>
    "invalid literal for int() with base " ++ toString radix ++ ": " ++ Text.quote text
  | longInteger digits =>
    "Exceeds the limit (4300 digits) for integer string conversion: value has " ++
      toString digits ++ " digits; use sys.set_int_max_str_digits() to increase the limit"
  | notNumber text => "could not convert string to float: " ++ Text.quote text
  | notTruth text => Text.quote text
  | notTimestamp => "'NoneType' object has no attribute 'groupdict'"
  | noYear year => "year " ++ toString year ++ " is out of range"
  | noMonth => "month must be in 1..12"
  | noDay => "day is out of range for month"
  | noHour => "hour must be in 0..23"
  | noMinute => "minute must be in 0..59"
  | noSecond => "second must be in 0..59"
  | farOffset minutes =>
    "offset must be a timedelta strictly between -timedelta(hours=24) and timedelta(hours=24), " ++
      "not " ++ lengthText minutes ++ "."

end ScalarFault

/-- Why a text is not read. -/
inductive Fault where
  | refused (stage : Stage)
  /-- The octets are not UTF-8. -/
  | notUtf8
  | scalar (fault : ScalarFault)
deriving DecidableEq, Repr

/-- The name under which a fault is reported. -/
def Fault.name : Fault → String
  | refused stage => stage.name
  | notUtf8 => "UnicodeDecodeError"
  | scalar fault => fault.name

/-- What follows the per cent sign of a directive. -/
inductive Directive where
  | version (major minor : Nat)
  | tag (handle pre : String)
  | other (name : String)
deriving DecidableEq, Repr

/-- A token. -/
inductive Token where
  | directive (d : Directive)
  | documentStart
  | documentEnd
  | blockSequenceStart
  | blockMappingStart
  | blockEnd
  | flowSequenceStart
  | flowSequenceEnd
  | flowMappingStart
  | flowMappingEnd
  | flowEntry
  | blockEntry
  | key
  | value
  | alias_ (name : String)
  | anchor (name : String)
  /-- A tag; one without a handle is complete. -/
  | tag (handle : Option String) (suffix : String)
  | scalar (plain : Bool) (text : String)
  | streamEnd
deriving DecidableEq, Repr, Inhabited

end Enrollment.Yaml
