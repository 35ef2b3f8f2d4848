import TopicShell.Template.Value

/-!
# Faults of evaluation

What can go wrong when a template is evaluated.  `undefined` and `template` come from the template
itself, `mistyped` and `invalid` from values that an operation cannot take; the others have no
relation to the template language.
-/

namespace TopicShell.Template

/-- An operation got values of types that it cannot take. -/
inductive TypeFault where
  | concatenation (left right : String)
  | operands (op left right : String)
  | operand (op type : String)
  | repetition (type : String)
  | order (op left right : String)
  | notIterable (type : String)
  | noContainer (type : String)
  | textSought (type : String)
  | noLength (type : String)
  | notCallable (type : String)
  | noItems (type : String)
  | sliceIndex
  | unhashable (type : String)
  | unpacking (type : String)
  | missingArguments (function : String) (names : List String)
  | tooManyArguments (function : String) (least most given : Nat)
  | unknownKeyword (function name : String)
  | repeatedArgument (function name : String)
  | routineKeyword (routine name : String)
  | routineArguments (routine : String) (most : Nat)
  | tooFewFormatted
  | tooManyFormatted
  | noMapping
  | formatWidth
  | formatNumber (conversion : Char) (kind type : String)
  | formatReal (type : String)
  | formatChar
  | argument (message : String)
  deriving DecidableEq

/-- An operation got a value of the right type that it cannot take. -/
inductive ValueFault where
  | tooFew (expected got : Nat)
  | tooMany (expected : Nat)
  | emptySeparator
  | zeroStep
  | rangeStep
  | incompleteFormat
  | incompleteKey
  | conversion (c : Char) (index : Nat)
  | digits
  deriving DecidableEq

inductive Division where
  | whole
  | wholeQuotient
  | wholeRemainder
  | real
  | realQuotient
  | realRemainder
  | power
  deriving DecidableEq

inductive Fault where
  | undefined (why : Absence)
  | template (message : String)
  | mistyped (cause : TypeFault)
  | invalid (cause : ValueFault)
  | zeroDivision (operation : Division)
  /-- The key is given as it is written inside a list. -/
  | key (literal : String)
  | attribute (type name : String)
  | overflow (message : String)
  | recursion
  deriving DecidableEq

namespace Fault

def quoteName (s : String) : String :=
  Text.Literal.ofText s

/-- Names in a row, the last after an "and". -/
def nameRow : List String → String
  | [] => ""
  | [a] => quoteName a
  | [a, b] => quoteName a ++ " and " ++ quoteName b
  | names =>
    ", ".intercalate ((names.dropLast).map quoteName) ++ ", and " ++ quoteName (names.getLast?.getD "")

def plural (n : Nat) : String :=
  if n = 1 then "" else "s"

end Fault

open Fault in
def TypeFault.message : TypeFault → String
  | concatenation l r => "can only concatenate " ++ l ++ " (not \"" ++ r ++ "\") to " ++ l
  | operands op l r =>
    "unsupported operand type(s) for " ++ op ++ ": '" ++ l ++ "' and '" ++ r ++ "'"
  | operand op t => "bad operand type for unary " ++ op ++ ": '" ++ t ++ "'"
  | repetition t => "can't multiply sequence by non-int of type '" ++ t ++ "'"
  | order op l r => "'" ++ op ++ "' not supported between instances of '" ++ l ++ "' and '" ++ r ++ "'"
  | notIterable t => "'" ++ t ++ "' object is not iterable"
  | noContainer t => "argument of type '" ++ t ++ "' is not iterable"
  | textSought t => "'in <string>' requires string as left operand, not " ++ t
  | noLength t => "object of type '" ++ t ++ "' has no len()"
  | notCallable t => "'" ++ t ++ "' object is not callable"
  | noItems t => "'" ++ t ++ "' object is not subscriptable"
  | sliceIndex => "slice indices must be integers or None or have an __index__ method"
  | unhashable t => "unhashable type: '" ++ t ++ "'"
  | unpacking t => "cannot unpack non-iterable " ++ t ++ " object"
  | missingArguments f names =>
    f ++ "() missing " ++ toString names.length ++ " required positional argument"
      ++ plural names.length ++ ": " ++ nameRow names
  | tooManyArguments f least most given =>
    f ++ "() takes " ++ (if least = most then toString most
        else "from " ++ toString least ++ " to " ++ toString most)
      ++ " positional argument" ++ (if least = most then plural most else "s") ++ " but "
      ++ toString given ++ (if given = 1 then " was" else " were") ++ " given"
  | unknownKeyword f n => f ++ "() got an unexpected keyword argument " ++ quoteName n
  | repeatedArgument f n => f ++ "() got multiple values for argument " ++ quoteName n
  | routineKeyword r n =>
    "macro " ++ quoteName r ++ " takes no keyword argument " ++ quoteName n
  | routineArguments r most =>
    "macro " ++ quoteName r ++ " takes not more than " ++ toString most ++ " argument(s)"
  | tooFewFormatted => "not enough arguments for format string"
  | tooManyFormatted => "not all arguments converted during string formatting"
  | noMapping => "format requires a mapping"
  | formatWidth => "* wants int"
  | formatNumber c kind t =>
    "%" ++ c.toString ++ " format: " ++ kind ++ " is required, not " ++ t
  | formatReal t => "must be real number, not " ++ t
  | formatChar => "%c requires int or char"
  | argument m => m

def ValueFault.message : ValueFault → String
  | tooFew expected got =>
    "not enough values to unpack (expected " ++ toString expected ++ ", got " ++ toString got ++ ")"
  | tooMany expected => "too many values to unpack (expected " ++ toString expected ++ ")"
  | emptySeparator => "empty separator"
  | zeroStep => "slice step cannot be zero"
  | rangeStep => "range() arg 3 must not be zero"
  | incompleteFormat => "incomplete format"
  | incompleteKey => "incomplete format key"
  | conversion c index =>
    "unsupported format character '"
      ++ (if 31 ≤ c.toNat && c.toNat ≤ 126 then c.toString else "?")
      ++ "' (0x" ++ String.ofList (Nat.toDigits 16 c.toNat) ++ ") at index " ++ toString index
  | digits =>
    "Exceeds the limit (4300 digits) for integer string conversion; use sys.set_int_max_str_digits() to increase the limit"

def Division.message : Division → String
  | whole => "division by zero"
  | wholeQuotient => "integer division or modulo by zero"
  | wholeRemainder => "integer modulo by zero"
  | real => "float division by zero"
  | realQuotient => "float floor division by zero"
  | realRemainder => "float modulo"
  | power => "0.0 cannot be raised to a negative power"

def Fault.message : Fault → String
  | undefined why => why.message
  | template m => m
  | mistyped cause => cause.message
  | invalid cause => cause.message
  | zeroDivision d => d.message
  | key literal => literal
  | .attribute t n => "'" ++ t ++ "' object has no attribute " ++ Fault.quoteName n
  | overflow m => m
  | recursion => "maximum recursion depth exceeded"

/-- The outcome of an operation on values. -/
abbrev Result (α : Type) := Except Fault α

namespace Result

def mistyped {α : Type} (cause : TypeFault) : Result α :=
  .error (.mistyped cause)

def invalid {α : Type} (cause : ValueFault) : Result α :=
  .error (.invalid cause)

end Result

end TopicShell.Template

