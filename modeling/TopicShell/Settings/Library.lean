import TopicShell.Files.Tree
import TopicShell.Settings.Basic
import TopicShell.Text.Utf8.Fault
import TopicShell.Yaml.Fault

/-!
# What reads and checks settings

Files hold settings as text, variables hold them one by one, and values are checked before they are
used.  None of this is done by the shell itself: `Library` is what it asks for, and settings are loaded
with any library there may be.
-/

namespace TopicShell.Settings

/-- What the sources are read from. -/
structure Surroundings where
  files : Files.Tree
  environment : List (String × String)

/-- A source of variables. -/
inductive VariableSource where
  | process
  | file
  deriving DecidableEq

def VariableSource.name : VariableSource → String
  | process => "EnvSettingsSource"
  | file => "DotEnvSettingsSource"

/-- Data by name. -/
abbrev NamedData := List (String × Datum)

/-- Why nothing comes out of the sources that could be checked. -/
inductive SourceFault where
  | badVariable (field : Field) (source : VariableSource)
  /-- The file of variables is no text. -/
  | undecodable (fault : Text.Utf8.Fault)
  | other (message : String)

/-! ## Texts of files -/

/-- The lines of a text end with a newline, whatever they ended with before. -/
def plainLines : List Char → List Char
  | '\r' :: '\n' :: rest => '\n' :: plainLines rest
  | '\r' :: rest => '\n' :: plainLines rest
  | c :: rest => c :: plainLines rest
  | [] => []

/-- The text of octets. -/
def textOf (octets : Octets) : Except Text.Utf8.Fault (List Char) :=
  (Text.Utf8.read octets).map fun s => plainLines s.toList

/-! ## The library -/

/-- What is left to a library.  A check tells everything that is wrong and fails in no other way. -/
structure Library where
  /-- The datum that a text describes. -/
  parse : List Char → Except Yaml.Fault Datum
  /-- What the variables of a source give for a field. -/
  fromVariable? : Surroundings → VariableSource → Field → Option Datum
  /-- What named data and variables together give for the fields. -/
  gather : Surroundings → NamedData → Except SourceFault Layer
  /-- The settings that a layer describes. -/
  check : Layer → Checked Settings
  /-- The macro that a datum describes. -/
  spec : Datum → Checked Macro.Spec

end TopicShell.Settings
