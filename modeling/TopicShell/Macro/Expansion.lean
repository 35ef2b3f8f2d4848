import TopicShell.Line.Chain
import TopicShell.Macro.Engine
import TopicShell.Macro.Placeholder

/-!
# Expanding lines

`resolve` turns the invocation of a macro into lines: for each value of the last argument the
commands with their placeholders filled, or the lines of the rendered script.  What stands after the
first bar of the invocation is appended to the lines that subscribe.  Scripts are rendered by whatever
`Engine` there is.
-/

namespace TopicShell.Macro

open Line

/-- Why the expansion of a line ends. -/
inductive ExpansionError (ε : Type) where
  | placeholder (cause : Placeholder.TooLong)
  | script (cause : ε)

abbrev Expanding (ε σ : Type) := ExceptT (ExpansionError ε) (StateM σ)

variable {ε σ : Type}

def say (engine : Engine ε σ) (text : String) : Expanding ε σ Unit :=
  modify (engine.write text)

/-! ## Pipes -/

/-- What stands after the first bar of a line. -/
def pipeOf (line : String) : String :=
  match Text.cut '|' line.toList with
  | (_, some rest) => String.ofList rest
  | (_, none) => ""

def subscribes (line : String) : Bool :=
  (Builtin.sub.word ++ " ").toList.isPrefixOf line.toList

/-- Appends what stands after the bar to a line that subscribes. -/
def attachPipe (pipe line : String) : String :=
  if pipe ≠ "" && subscribes line then line ++ " |" ++ pipe else line

/-! ## Bodies -/

def fillCommand (values : List String) (pipe command : String) : Expanding ε σ String :=
  match Placeholder.fillText values command with
  | .ok line => return attachPipe pipe line
  | .error e => throw (.placeholder e)

/-- The commands of a macro for every value of the last argument. -/
def resolveCommands (s : Spec) (fixed tail : List String) (pipe : String) :
    Expanding ε σ (List String) := do
  return (← tail.mapM fun value => s.commands.mapM (fillCommand (fixed ++ [value]) pipe)).flatten

def linesOf (text : String) : List String :=
  (Text.pieces '\n' text.toList).map String.ofList

/-- The names of the arguments of a script. -/
def argumentNames (values : List String) : List (String × String) :=
  values.zipIdx.map fun (v, i) => ("Arg" ++ toString (i + 1), v)

/-- The lines of a script for some values of its arguments; a reported error yields none. -/
def renderLines (engine : Engine ε σ) (name : String) (s : Spec) (values : List String)
    (pipe : String) : Expanding ε σ (List String) := do
  let (r, w) := engine.render name s (argumentNames values) (← get)
  set w
  match r with
  | .ok text => return (linesOf text).map (attachPipe pipe)
  | .error e =>
    match engine.report? e with
    | some message =>
      say engine ("Error while execute macro script: " ++ message ++ "\n")
      return []
    | none => throw (.script e)

/-- The lines of a script for every value of the last argument. -/
def resolveScript (engine : Engine ε σ) (name : String) (s : Spec) (fixed tail : List String)
    (pipe : String) : Expanding ε σ (List String) := do
  return (← tail.mapM fun value => renderLines engine name s (fixed ++ [value]) pipe).flatten

def resolveBody (engine : Engine ε σ) (name : String) (s : Spec) (arguments : List String)
    (pipe : String) : Expanding ε σ (List String) :=
  if s.arguments.isEmpty then
    if s.commands.isEmpty then renderLines engine name s [] pipe
    else return s.commands.map (attachPipe pipe)
  else
    let (fixed, tail) := s.divide arguments
    if s.commands.isEmpty then resolveScript engine name s fixed tail pipe
    else resolveCommands s fixed tail pipe

/-! ## Lines -/

def usage (name : String) (s : Spec) : String :=
  "usage: " ++ name ++ " " ++ " ".intercalate s.arguments ++ "\n"

/-- The lines that an invocation stands for; a line that is no chain stands for itself. -/
def resolve (engine : Engine ε σ) (specs : List (String × Spec)) (line : String) :
    Expanding ε σ (List String) :=
  match (interpret line).toOption.bind (·.commands.head?) with
  | none => return [line]
  | some c =>
    match specs.lookup c.name with
    | none => do
      say engine "unknown macro\n"
      return []
    | some s =>
      if s.fits c.arguments.length then resolveBody engine c.name s c.arguments (pipeOf line)
      else do
        say engine "invalid macro arguments\n"
        say engine (usage c.name s)
        return []

/-- The lines that a line stands for. -/
def expand (engine : Engine ε σ) (specs : List (String × Spec)) (line : String) :
    Expanding ε σ (List String) :=
  if isCandidate line then resolve engine specs line else return [line]

/-- The names of all macros with their descriptions, in rising order. -/
def listing (specs : List (String × Spec)) : List String :=
  (specs.mergeSort fun a b => !decide (b.1 < a.1)).map fun (n, s) => n ++ " - " ++ s.description ++ "\n"

end TopicShell.Macro
