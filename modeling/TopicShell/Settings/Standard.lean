import TopicShell.Data.Json
import TopicShell.Settings.Library
import TopicShell.Settings.VariableFile
import TopicShell.Text.Case
import TopicShell.Yaml.Document

/-!
# The library of the program

Files are YAML.  A variable is found by the name of its field, and those of the process are over those
of a file in the working directory.  What is given by name is over both.
-/

namespace TopicShell.Settings

/-! ## Variables -/

/-- The variables for settings start with this. -/
def variableStart : String := "mqtt_shell_"

/-- The value of a field's variable, whatever the case of its letters; the last one counts. -/
def fieldVariable? (given : VariableFile.Variables) (f : Field) : Option String :=
  ((given.filter fun v => Text.lowerText v.1 = variableStart ++ f.name).getLast?).bind Prod.snd

/-- A text is not the datum that has to be written in the variable of a field. -/
def isBad (f : Field) (value : String) : Bool :=
  f.isStructured && (Data.Json.read? value).isNone

/-- What a variable gives for its field: a text, or the datum that is written in it.  A datum that
is nothing is not given. -/
def variableDatum? (f : Field) (value : String) : Option Datum :=
  if f.isStructured then
    match Data.Json.read? value with
    | some .null => none
    | datum => datum
  else some (.text value)

def variableValue? (given : VariableFile.Variables) (f : Field) : Option Datum :=
  (fieldVariable? given f).bind (variableDatum? f)

/-- The layer of some variables. -/
def variableLayer (source : VariableSource) (given : VariableFile.Variables) : Except SourceFault Layer :=
  match Field.all.find? fun f => (fieldVariable? given f).any (isBad f) with
  | some f => .error (.badVariable f source)
  | none => .ok (Field.all.filterMap fun f => (variableValue? given f).map fun d => (f, d))

/-- The variables of the process. -/
def processVariables (w : Surroundings) : VariableFile.Variables :=
  w.environment.map fun (n, v) => (n, some v)

/-- The variables of the file in the working directory. -/
def fileVariables (w : Surroundings) : Except SourceFault VariableFile.Variables :=
  if w.files.isFile ".env" then
    match textOf ((w.files.read ".env").toOption.getD []) with
    | .ok cs => .ok (VariableFile.read w.environment (String.ofList cs))
    | .error fault => .error (.undecodable fault)
  else .ok []

/-! ## Data by name -/

/-- The datum for a field among named data: the one of its name, or the first one whose name differs
in the case of letters only. -/
def fieldDatum? (data : NamedData) (f : Field) : Option Datum :=
  data.lookup f.name <|> (data.find? fun e => Text.lowerText e.1 = f.name).map Prod.snd

def namedLayer (data : NamedData) : Layer :=
  Field.all.filterMap fun f => (fieldDatum? data f).map fun d => (f, d)

/-! ## The library -/

/-- The layer that is checked.  The file of variables is read before any variable is looked at. -/
def gatherLayers (w : Surroundings) (data : NamedData) : Except SourceFault Layer := do
  let low ← fileVariables w
  let middle ← variableLayer .process (processVariables w)
  let low ← variableLayer .file low
  pure ((namedLayer data).onto (middle.onto low))

def Library.standard : Library where
  parse := Yaml.read
  fromVariable? w
    | .process => variableValue? (processVariables w)
    | .file => variableValue? ((fileVariables w).toOption.getD [])
  gather := gatherLayers
  check := ofLayer
  spec := Check.spec

end TopicShell.Settings
