import TopicShell.Settings.Standard
import TopicShell.Text.Escape

/-!
# Where settings come from

Named data come from, the highest first: what the caller gives, the file of the chosen environment,
and the general files of the directory.  The library puts them over what variables say and checks
what comes out.  Macros are then taken from files of their own, and the escapes of the prompt are read.
-/

namespace TopicShell.Settings

open Files

/-- Why there are no settings. -/
inductive LoadError where
  | unreadable (path : String) (fault : FileError)
  | malformed (path : String)
  | notMapping (path : String)
  | malformedMacros (path : String)
  | notMacros (path : String)
  | invalidMacros (path : String) (issues : List Issue)
  | noEnvironment (name directory : String)
  | invalid (issues : List Issue)
  | noBroker
  | prompt (fault : Text.Escape.EscapeError)
  | undecodable (fault : Text.Utf8.Fault)
  /-- A value in a file that does not exist, such as the thirtieth of February. -/
  | badValue (fault : Yaml.Fault)
  | badVariable (field : Field) (source : VariableSource)
  | unexpected (message : String)
  /-- A path that cannot even be looked up. -/
  | badPath (path : String) (fault : FileError)

def fileFault (path : String) (fault : FileError) : String :=
  if fault = .nullCharacter then fault.text else fault.numbered ++ ": " ++ Text.Literal.ofText path

def LoadError.message : LoadError → String
  | unreadable path fault => "Can not open file '" ++ path ++ "': " ++ fileFault path fault
  | malformed path => "Unable to parse file '" ++ path ++ "'"
  | notMapping path => "Unable to parse file '" ++ path ++ "': expected a mapping"
  | malformedMacros path => "Unable to parse macro file '" ++ path ++ "'"
  | notMacros path => "Unable to parse macro file '" ++ path ++ "': expected a mapping"
  | invalidMacros path _ => "Unable to parse macro file '" ++ path ++ "'"
  | noEnvironment name directory =>
    "No environment file found for '" ++ name ++ "' in " ++ directory
  | invalid _ => "Invalid configuration"
  | noBroker => "Broker is missing!"
  | .prompt fault => "Unable to parse prompt: " ++ fault.message
  | undecodable fault => fault.message
  | badValue fault => fault.message
  | badVariable field source =>
    "error parsing value for field \"" ++ field.name ++ "\" from source \"" ++ source.name ++ "\""
  | unexpected message => message
  | badPath path fault => fileFault path fault

/-- What is wrong with the single values. -/
def LoadError.issues : LoadError → List Issue
  | invalidMacros _ is | invalid is => is
  | _ => []

abbrev Loading := Except LoadError

/-! ## Files -/

/-- There is a regular file.  Only a name that is too long is an error. -/
def isFile (files : Tree) (path : String) : Loading Bool :=
  match files.locate path with
  | .error .nameTooLong => .error (.badPath path .nameTooLong)
  | .ok (.node _ n) => .ok n.content?.isSome
  | _ => .ok false

/-- The datum in a file; `malformed` is the error of a text that is no YAML. -/
def readFile (files : Tree) (malformed : LoadError) (path : String) (library : Library := .standard) :
    Loading Datum :=
  match files.read path with
  | .error .nullCharacter => .error (.badPath path .nullCharacter)
  | .error fault => .error (.unreadable path fault)
  | .ok octets =>
    match textOf octets with
    | .error fault => .error (.undecodable fault)
    | .ok cs =>
      match library.parse cs with
      | .ok d => .ok d
      | .error .malformed => .error malformed
      | .error fault => .error (.badValue fault)

def putNamed {α : Type} (name : String) (value : α) : List (String × α) → List (String × α)
  | [] => [(name, value)]
  | (n, v) :: rest => if n = name then (n, value) :: rest else (n, v) :: putNamed name value rest

/-- The entries of the second list take the place of those of the first one. -/
def update {α : Type} (old new : List (String × α)) : List (String × α) :=
  new.foldl (fun es e => putNamed e.1 e.2 es) old

/-- Hyphens and underscores are the same in the names of settings. -/
def settingName (key : Datum) : String :=
  String.ofList (key.toText.toList.map fun c => if c = '-' then '_' else c)

/-- The mapping in a file; an empty file is an empty mapping. -/
def readMapping (files : Tree) (path : Path) (library : Library := .standard) : Loading NamedData := do
  match ← readFile files (.malformed path.text) path.text library with
  | .null => pure []
  | .dict entries => pure (update [] (entries.map fun e => (settingName e.1, e.2)))
  | _ => throw (.notMapping path.text)

/-- The mapping in a file that may be missing. -/
def mappingAt (files : Tree) (path : Path) (library : Library := .standard) : Loading NamedData := do
  if ← isFile files path.text then readMapping files path library else pure []

/-! ## Places -/

def valueOf? (w : Surroundings) (name : String) : Option String :=
  w.environment.lookup name

def home (w : Surroundings) : Path :=
  let text := String.ofList (Text.trimRight (· = '/') ((valueOf? w "HOME").getD "").toList)
  Path.parse (if text.isEmpty then "/" else text)

def isDirectory (files : Tree) (path : String) : Loading Bool :=
  match files.locate path with
  | .error .nameTooLong => .error (.badPath path .nameTooLong)
  | .ok (.node _ .directory) => .ok true
  | _ => .ok false

/-- The directory with the files of settings: one in the home directory if it exists, or else one
below the place for such directories. -/
def directory (w : Surroundings) : Loading Path := do
  let old := (home w).child ".mqtt-shell"
  if ← isDirectory w.files old.text then return old
  let base := match valueOf? w "XDG_CONFIG_HOME" with
    | some b => if b.isEmpty then (home w).child ".config" else Path.parse b
    | none => (home w).child ".config"
  pure (base.child "mqtt-shell")

def suffixes : List String := [".yaml", ".yml"]

/-- The first of some files that there is. -/
def firstFile? (files : Tree) : List Path → Loading (Option Path)
  | [] => .ok none
  | p :: rest => do
    if ← isFile files p.text then pure (some p) else firstFile? files rest

/-- The file of an environment. -/
def environmentFile (files : Tree) (directory : Path) (name : String) : Loading Path := do
  match ← firstFile? files (suffixes.map fun s => directory.child (name ++ s)) with
  | some p => pure p
  | none => throw (.noEnvironment name directory.text)

/-! ## Macros -/

/-- The macro that a datum describes; one that stands for nothing is taken for an empty mapping. -/
def macroSpec (path : String) (d : Datum) (library : Library := .standard) : Loading Macro.Spec :=
  match library.spec (if d.isTrue then d else .dict []) with
  | .valid s => .ok s
  | .invalid is => .error (.invalidMacros path is)

/-- The macros of a file; there are none in a file that does not exist. -/
def readMacros (files : Tree) (path : Path) (library : Library := .standard) :
    Loading (List (String × Macro.Spec)) := do
  if !(← isFile files path.text) then return []
  let d ← readFile files (.malformedMacros path.text) path.text library
  if !d.isTrue then return []
  match d with
  | .dict entries =>
    pure (update [] (← entries.mapM fun e => return (e.1.toText, ← macroSpec path.text e.2 library)))
  | _ => throw (.notMacros path.text)

/-! ## Loading -/

/-- Nothing and an empty list do not override anything. -/
def isGiven : Datum → Bool
  | .null => false
  | .list [] => false
  | _ => true

/-- The mapping of the chosen environment. -/
def environmentMapping (files : Tree) (directory : Path) (environment : Option String)
    (library : Library := .standard) : Loading NamedData :=
  match environment.filter (!·.isEmpty) with
  | none => pure []
  | some name => do readMapping files (← environmentFile files directory name) library

/-- What the files of a directory and the caller give. -/
def namedData (w : Surroundings) (directory : Path) (environment : Option String)
    (overrides : NamedData) (library : Library := .standard) : Loading NamedData := do
  let data ← (suffixes.map fun s => directory.child (".global" ++ s)).foldlM
    (fun data p => return update data (← mappingAt w.files p library)) []
  let data := update data (← environmentMapping w.files directory environment library)
  let data := update data (overrides.filter fun e => isGiven e.2)
  if (data.lookup Field.historyFile.name).isSome then pure data
  else pure (update data [(Field.historyFile.name, .text (directory.child ".history").text)])

/-- The numbers of the characters of a prompt whose escapes are read, with the names there are. -/
def promptNumbers (names : Text.Escape.Names) (s : String) : Loading (List Nat) :=
  match Text.Escape.numbers names (Text.Escape.spellOut 0x100 s.toList) with
  | .ok ns => .ok ns
  | .error e => .error (.prompt e)

/-- The prompt with its escapes read. -/
def readPrompt (s : String) : Loading String :=
  (promptNumbers Text.Escape.named? s).map fun ns => String.ofList (ns.map Char.ofNat)

/-- The macros of files, each over those before it. -/
def withMacros (files : Tree) (macros : List (String × Macro.Spec)) (paths : List Path)
    (library : Library := .standard) : Loading (List (String × Macro.Spec)) :=
  paths.foldlM (fun ms p => return update ms (← readMacros files p library)) macros

def ofChecked : Checked Settings → Loading Settings
  | .valid s => .ok s
  | .invalid is => .error (.invalid is)

def SourceFault.error : SourceFault → LoadError
  | badVariable f source => .badVariable f source
  | undecodable fault => .undecodable fault
  | other message => .unexpected message

/-- The settings that named data describe, over what the variables say. -/
def ofNamed (w : Surroundings) (data : NamedData) (library : Library := .standard) : Loading Settings :=
  match library.gather w data with
  | .ok layer => ofChecked (library.check layer)
  | .error fault => .error fault.error

def load (w : Surroundings) (directory? : Option Path) (environment : Option String)
    (macroFiles : List Path) (overrides : NamedData) (library : Library := .standard) :
    Loading Settings := do
  let directory ← match directory? with
    | some d => pure d
    | none => directory w
  let settings ← ofNamed w (← namedData w directory environment overrides library) library
  if (settings.broker.getD "").isEmpty then throw .noBroker
  let paths := directory.child ".macros.yml" :: macroFiles
  let macros ← withMacros w.files settings.macros paths library
  pure { settings with macros, prompt := ← readPrompt settings.prompt }

end TopicShell.Settings
