import TopicShell.Macro.Spec

/-!
# Script engines

Scripts are read and rendered by an engine that is not part of the shell.  A `Grammar` is what the check of a
macro asks it for: whether a script has the form of one, and which names it takes from outside.  An `Engine`
also renders scripts, on a world of its own and with its own errors, and says which of them are reported.
-/

namespace TopicShell.Macro

/-! ## Checking macros -/

/-- Why a macro is not valid. -/
inductive SpecError where
  | reserved (name : String)
  | empty (name : String)
  | ambiguous (name : String)
  | unparsable (name cause : String)
  | unknownNames (name : String) (names : List String)
  /-- Something else that the engine does not find, or cannot do, with its own words about it. -/
  | absent (message : String)
  deriving DecidableEq

def SpecError.message : SpecError → String
  | reserved n => "invalid macro name '" ++ n ++ "': reserved"
  | empty n => "invalid macro '" ++ n ++ "': there is no 'commands' nor 'script'"
  | ambiguous n => "invalid macro '" ++ n ++ "': only 'commands' or 'script' must be used"
  | unparsable n cause => "invalid macro '" ++ n ++ "': unable to parse script: " ++ cause
  | unknownNames n names =>
    "invalid macro '" ++ n ++ "': unknown names in script: " ++ ", ".intercalate names
  | absent m => m

/-- The functions that the shell lends to every script. -/
def lentNames : List String :=
  ["exec", "log"]

/-- The name of an argument: `Arg` and decimal digits. -/
def isArgumentName (name : String) : Bool :=
  match name.toList with
  | 'A' :: 'r' :: 'g' :: digits =>
    !digits.isEmpty && digits.all fun c => (Text.digitValue? c).isSome
  | _ => false

/-- What an engine knows of a script without running it. -/
structure Grammar where
  /-- The names that every script has. -/
  globals : List String
  /-- What is wrong with the form of a script. -/
  flaw? : String → Option String
  /-- The names that a script takes from outside, each once, or why there is no telling. -/
  taken : String → Except String (List String)
  /-- Why a script cannot be put together although its form is right. -/
  obstacle? : String → Option String

namespace Grammar

variable (g : Grammar)

def knows (name : String) : Bool :=
  lentNames.contains name || g.globals.contains name || isArgumentName name

/-- Checks the script of a macro. -/
def compile (name script : String) : Except SpecError Unit :=
  match g.flaw? script with
  | some m => .error (.unparsable name m)
  | none =>
    match g.taken script with
    | .error m => .error (.absent m)
    | .ok names =>
      let unknown := (names.filter (!g.knows ·)).mergeSort fun a b => !decide (b < a)
      if !unknown.isEmpty then .error (.unknownNames name unknown)
      else match g.obstacle? script with
        | some m => .error (.absent m)
        | none => .ok ()

/-- Checks one macro. -/
def check (name : String) (s : Spec) : Except SpecError Unit :=
  if isReserved name then .error (.reserved name)
  else if s.commands.isEmpty && s.script.isEmpty then .error (.empty name)
  else if !s.commands.isEmpty && !s.script.isEmpty then .error (.ambiguous name)
  else if s.script.isEmpty then .ok ()
  else g.compile name s.script

/-- Checks macros in order, up to the first that is not valid. -/
def validate (specs : List (String × Spec)) : Except SpecError Unit :=
  specs.forM fun (name, s) => g.check name s

end Grammar

/-! ## Rendering scripts -/

/-- How scripts are checked and rendered, and texts are written, on a world `σ` and with errors `ε`. -/
structure Engine (ε σ : Type) extends Grammar where
  render : String → Spec → List (String × String) → σ → Except ε String × σ
  /-- What is reported about an error; an error without a report ends the expansion. -/
  report? : ε → Option String
  write : String → σ → σ

end TopicShell.Macro
