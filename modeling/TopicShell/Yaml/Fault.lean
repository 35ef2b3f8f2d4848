/-!
# What can be wrong with a YAML text

Most mistakes make the text malformed.  Some are noticed only when a value is built: a number, a
truth value, a date or a character that the text spells does not exist.
-/

namespace TopicShell.Yaml

inductive DateFault where
  | year (year : Nat)
  | month
  | day
  | hour
  | minute
  | second
  deriving DecidableEq

def DateFault.message : DateFault → String
  | year y => "year " ++ toString y ++ " is out of range"
  | month => "month must be in 1..12"
  | day => "day is out of range for month"
  | hour => "hour must be in 0..23"
  | minute => "minute must be in 0..59"
  | second => "second must be in 0..59"

inductive Fault where
  | malformed
  /-- An escape names a code that no character has. -/
  | noCharacter (code : Nat)
  /-- A number without any digit, not even a sign. -/
  | noNumber
  | notInteger (base : Nat) (literal : String)
  | longInteger (digits : Nat)
  | notReal (literal : String)
  | notTruth (literal : String)
  | noDate (fault : DateFault)
  | other (message : String)
  deriving DecidableEq

def Fault.message : Fault → String
  | malformed => "malformed"
  | noCharacter code =>
    if code < 0x80000000 then "chr() arg not in range(0x110000)"
    else "Python int too large to convert to C int"
  | noNumber => "string index out of range"
  | notInteger base literal =>
    "invalid literal for int() with base " ++ toString base ++ ": " ++ literal
  | longInteger digits =>
    "Exceeds the limit (4300 digits) for integer string conversion: value has " ++ toString digits
      ++ " digits; use sys.set_int_max_str_digits() to increase the limit"
  | notReal literal => "could not convert string to float: " ++ literal
  | notTruth literal => literal
  | noDate fault => fault.message
  | other message => message

end TopicShell.Yaml
