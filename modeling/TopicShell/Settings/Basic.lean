import TopicShell.Files.Path
import TopicShell.Macro.Spec
import TopicShell.Settings.Check

/-!
# Settings

The fields of the settings, their defaults, and how given data become settings.  A layer is what one
source gives, by field; laying one layer over another joins mappings and prefers the upper layer in
everything else.
-/

namespace TopicShell

namespace Settings

inductive Field where
  | broker
  | ca
  | subscribeQos
  | publishQos
  | username
  | password
  | clientId
  | cleanSession
  | commands
  | nonInteractive
  | historyFile
  | prompt
  | macros
  | colorBlacklist
  | logLevel
  deriving DecidableEq

namespace Field

def all : List Field := [
  broker, ca, subscribeQos, publishQos, username, password, clientId, cleanSession, commands,
  nonInteractive, historyFile, prompt, macros, colorBlacklist, logLevel]

def name : Field → String
  | broker => "broker"
  | ca => "ca"
  | subscribeQos => "subscribe_qos"
  | publishQos => "publish_qos"
  | username => "username"
  | password => "password"
  | clientId => "client_id"
  | cleanSession => "clean_session"
  | commands => "commands"
  | nonInteractive => "non_interactive"
  | historyFile => "history_file"
  | prompt => "prompt"
  | macros => "macros"
  | colorBlacklist => "color_blacklist"
  | logLevel => "log_level"

/-- The field holds a list or a mapping. -/
def isStructured : Field → Bool
  | commands | macros | colorBlacklist => true
  | _ => false

end Field

/-! ## Layers -/

abbrev Layer := List (Field × Datum)

/-- One layer over another. -/
def Layer.onto (high low : Layer) : Layer :=
  Field.all.filterMap fun f =>
    match high.lookup f, low.lookup f with
    | some h, some l => some (f, l.overlay h)
    | some h, none => some (f, h)
    | none, some l => some (f, l)
    | none, none => none

end Settings

/-! ## The settings -/

def defaultPrompt : String := "\\033[36m\u00bb\\033[0m "

structure Settings where
  broker : Option String := none
  /-- The file with the authorities that are trusted. -/
  ca : Option String := none
  subscribeQos : Int := 0
  publishQos : Int := 1
  username : Option String := none
  password : Option String := none
  clientId : String := "mqtt-shell"
  cleanSession : Bool := true
  /-- What the shell does before it reads lines. -/
  commands : List String := []
  nonInteractive : Bool := false
  historyFile : Option String := none
  prompt : String := defaultPrompt
  macros : List (String × Macro.Spec) := []
  colorBlacklist : List String := []
  logLevel : String := "WARNING"
  deriving DecidableEq

namespace Settings

namespace Check

open Checked

def path : Datum → Checked String
  | .text s => valid (Files.Path.normal s)
  | _ => issue .notPath

def spec : Datum → Checked Macro.Spec
  | .dict entries =>
    Macro.Spec.mk <$> field entries "description" "" text <*> field entries "arguments" [] texts
      <*> field entries "varargs" false truth <*> field entries "commands" [] texts
      <*> field entries "script" "" text
  | _ => issue .notRecord

end Check

/-- What a layer gives for a field, or the default. -/
def Layer.get {α : Type} (layer : Layer) (f : Field) (default : α) (check : Datum → Checked α) :
    Checked α :=
  match layer.lookup f with
  | some d => (check d).under f.name
  | none => .valid default

open Check in
/-- The settings that a layer describes. -/
def ofLayer (l : Layer) : Checked Settings :=
  let default : Settings := {}
  Settings.mk <$> l.get .broker default.broker (optional text)
    <*> l.get .ca default.ca (optional path)
    <*> l.get .subscribeQos default.subscribeQos quality
    <*> l.get .publishQos default.publishQos quality
    <*> l.get .username default.username (optional text)
    <*> l.get .password default.password (optional text)
    <*> l.get .clientId default.clientId text
    <*> l.get .cleanSession default.cleanSession truth
    <*> l.get .commands default.commands texts
    <*> l.get .nonInteractive default.nonInteractive truth
    <*> l.get .historyFile default.historyFile (optional path)
    <*> l.get .prompt default.prompt text
    <*> l.get .macros default.macros (named spec)
    <*> l.get .colorBlacklist default.colorBlacklist texts
    <*> l.get .logLevel default.logLevel text

end Settings

end TopicShell
