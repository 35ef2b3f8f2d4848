import TopicShell.Command

/-!
# Macros

A macro has a name, arguments, and either command lines or a script.  A line is a matter of the
macros unless it is a built-in command.
-/

namespace TopicShell.Macro

structure Spec where
  description : String := ""
  arguments : List String := []
  /-- The last argument may be given several times. -/
  varargs : Bool := false
  commands : List String := []
  script : String := ""
  deriving DecidableEq

/-- The line belongs to a built-in command. -/
def belongsTo (line : String) (b : Builtin) : Bool :=
  line == b.word || (b.takesArguments && (b.word ++ " ").toList.isPrefixOf line.toList)

/-- The line is not the line of a built-in command. -/
def isCandidate (line : String) : Bool :=
  !Builtin.all.any (belongsTo line)

/-- No line that starts with the name reaches the macro. -/
def isReserved (name : String) : Bool :=
  !(isCandidate name && isCandidate (name ++ " "))

/-- A number of arguments that the macro takes. -/
def Spec.fits (s : Spec) (count : Nat) : Bool :=
  if s.varargs then s.arguments.length ≤ count else count == s.arguments.length

/-- The arguments in front, and the values of the last argument. -/
def Spec.divide (s : Spec) (arguments : List String) : List String × List String :=
  (arguments.take (s.arguments.length - 1), arguments.drop (s.arguments.length - 1))

example : isCandidate "list x" = true ∧ isCandidate "list" = false ∧ isCandidate "pub x" = false := by
  decide +kernel

end TopicShell.Macro
