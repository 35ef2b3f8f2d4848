import TopicShell.Template.Fault

/-!
# Arguments and parameters

A function has parameters with or without a default.  `Signature.bind` gives each parameter its
value, or says why the arguments do not fit: keywords are looked at first, then the number of plain
arguments, then what is missing.
-/

namespace TopicShell.Template

structure Arguments where
  plain : List Value := []
  keywords : List (String × Value) := []

structure Parameter where
  name : String
  default : Option Value := none

structure Signature where
  /-- The name of the function in messages. -/
  function : String
  parameters : List Parameter
  /-- How many arguments the caller does not see. -/
  hidden : Nat := 0
  /-- Plain arguments beyond the parameters are allowed. -/
  openEnded : Bool := false

namespace Signature

/-- The first keyword that is no parameter, or that repeats a plain argument. -/
def badKeyword? (s : Signature) (a : Arguments) : Option TypeFault :=
  a.keywords.findSome? fun (n, _) =>
    match s.parameters.findIdx? (·.name == n) with
    | none => some (.unknownKeyword s.function n)
    | some i => if i < a.plain.length then some (.repeatedArgument s.function n) else none

def required (s : Signature) : Nat :=
  (s.parameters.filter (·.default.isNone)).length

/-- The value of the parameter at an index. -/
def valueAt? (a : Arguments) (p : Parameter) (i : Nat) : Option Value :=
  a.plain[i]? <|> a.keywords.lookup p.name <|> p.default

/-- The values of the parameters, and the plain arguments beyond them. -/
def bind (s : Signature) (a : Arguments) : Result (List Value × List Value) :=
  match s.badKeyword? a with
  | some e => Result.mistyped e
  | none =>
    let n := s.parameters.length
    if n < a.plain.length && !s.openEnded then
      Result.mistyped (.tooManyArguments s.function (s.required + s.hidden) (n + s.hidden)
        (a.plain.length + s.hidden))
    else
      let values := s.parameters.zipIdx.map fun (p, i) => (p.name, valueAt? a p i)
      let missing := (values.filter (·.2.isNone)).map Prod.fst
      if missing.isEmpty then .ok (values.filterMap Prod.snd, a.plain.drop n)
      else Result.mistyped (.missingArguments s.function missing)

end Signature

end TopicShell.Template
