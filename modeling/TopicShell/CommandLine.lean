import TopicShell.Console
import TopicShell.Help
import TopicShell.Logging
import TopicShell.Settings.Load

/-!
# The command line

Arguments are options with or without a value.  A value follows its option or is attached to it: with
an equals sign to a long option, directly to a short one; several short options can stand together.
Of an option that is given twice the last value counts, unless all of them are collected.  `plan` tells
what the arguments ask for.
-/

namespace TopicShell.CommandLine

open Settings

def version : String := "0.1.0"

/-- Options with a value. -/
inductive ValueOption where
  | environment
  | directory
  | broker
  | ca
  | subscribeQos
  | publishQos
  | username
  | password
  | clientId
  | historyFile
  | prompt
  | command
  | macroFile
  | color
  deriving DecidableEq

/-- Options without a value. -/
inductive Switch where
  | cleanSession
  | noCleanSession
  | nonInteractive
  | help
  | version
  deriving DecidableEq

inductive Choice where
  | value (o : ValueOption)
  | switch (s : Switch)
  deriving DecidableEq

open ValueOption Switch in
/-- The names of the options. -/
def names : List (String × Choice) := [
  ("-e", .value environment), ("--env", .value environment),
  ("--ed", .value directory), ("--env-dir", .value directory),
  ("-b", .value broker), ("--broker", .value broker), ("--ca", .value ca),
  ("--sq", .value subscribeQos), ("--pq", .value publishQos),
  ("-u", .value username), ("--username", .value username),
  ("-p", .value password), ("--password", .value password),
  ("-c", .value clientId), ("--client-id", .value clientId),
  ("--clean-session", .switch cleanSession), ("--no-clean-session", .switch noCleanSession),
  ("--ni", .switch nonInteractive), ("--hf", .value historyFile), ("--sp", .value prompt),
  ("--cmd", .value command), ("-m", .value macroFile), ("--cb", .value color),
  ("--hh", .switch help), ("-v", .switch Switch.version), ("--version", .switch Switch.version)]

/-- A short name is one character after a hyphen. -/
def isShort (name : String) : Bool :=
  name.length = 2

/-- An option that is given, with its value if it has one. -/
inductive Given where
  | value (o : ValueOption) (text : String)
  | switch (s : Switch)
  deriving DecidableEq

/-! ## Reading arguments -/

/-- What the start of an argument list gives, and the arguments that are left. -/
abbrev Reading := Option (List Given × List String)

/-- An option whose value, if it has one, is the next argument. -/
def detached (c : Choice) (rest : List String) : Reading :=
  match c, rest with
  | .switch s, rest => some ([.switch s], rest)
  | .value o, text :: rest => some ([.value o text], rest)
  | .value _, [] => none

/-- A long option; a value may be attached to it. -/
def long (c : Choice) (attached : Option String) (rest : List String) : Reading :=
  match c, attached with
  | c, none => detached c rest
  | .value o, some text => some ([.value o text], rest)
  | .switch _, some _ => none

/-- Short options; what follows one with a value is its value. -/
def shorts : List Char → List String → Reading
  | [], rest => some ([], rest)
  | c :: more, rest =>
    match names.lookup (String.ofList ['-', c]) with
    | none => none
    | some (.switch s) => (shorts more rest).map fun (gs, rest) => (.switch s :: gs, rest)
    | some (.value o) =>
      if more.isEmpty then detached (.value o) rest
      else some ([.value o (String.ofList more)], rest)

/-- One argument that is an option. -/
def option (argument : List Char) (rest : List String) : Reading :=
  let (name, attached) := Text.cut '=' argument
  match (names.filter fun n => !isShort n.1).lookup (String.ofList name) with
  | some c => long c (attached.map String.ofList) rest
  | none => if ['-', '-'].isPrefixOf argument then none else shorts (argument.drop 1) rest

/-- All options of an argument list; anything else is refused.  A list of length `fuel` is read to
its end. -/
def readAll : Nat → List String → Option (List Given)
  | _, [] => some []
  | 0, _ => none
  | fuel + 1, argument :: rest =>
    if argument = "--" then (if rest.isEmpty then some [] else none)
    else
      match argument.toList with
      | '-' :: c :: more => do
        let (gs, rest) ← option ('-' :: c :: more) rest
        pure (gs ++ (← readAll fuel rest))
      | _ => none

/-! ## What is asked for -/

/-- All values of an option. -/
def valuesOf (o : ValueOption) (gs : List Given) : List String :=
  gs.filterMap fun
    | .value p text => if p = o then some text else none
    | .switch _ => none

def valueOf? (o : ValueOption) (gs : List Given) : Option String :=
  (valuesOf o gs).getLast?

def has (s : Switch) (gs : List Given) : Bool :=
  gs.contains (.switch s)

/-- Which of two opposite switches was given last. -/
def lastOf? (yes no : Switch) (gs : List Given) : Option Bool :=
  (gs.filterMap fun g =>
    if g = .switch yes then some true else if g = .switch no then some false else none).getLast?

/-- A level of service; any other text is refused. -/
def quality? (o : ValueOption) (gs : List Given) : Option Datum :=
  match valueOf? o gs with
  | none => some .null
  | some text => (Text.Integer.read? text).bind fun n =>
    if 0 ≤ n && n ≤ 2 then some (.int n) else none

def textDatum : Option String → Datum
  | some s => .text s
  | none => .null

def pathDatum (s : Option String) : Datum :=
  textDatum (s.map Files.Path.normal)

def textsDatum (ss : List String) : Datum :=
  .list (ss.map .text)

/-- What the options say about the settings; a level of service that is none is refused. -/
def overrides? (gs : List Given) : Option NamedData := do
  let value (o : ValueOption) := textDatum (valueOf? o gs)
  let path (o : ValueOption) := pathDatum (valueOf? o gs)
  let data : List (Field × Datum) := [
    (.broker, value .broker), (.ca, path .ca), (.subscribeQos, ← quality? .subscribeQos gs),
    (.publishQos, ← quality? .publishQos gs), (.username, value .username),
    (.password, value .password), (.clientId, value .clientId),
    (.cleanSession, match lastOf? .cleanSession .noCleanSession gs with
      | some b => .bool b
      | none => .null),
    (.nonInteractive, if has .nonInteractive gs then .bool true else .null),
    (.historyFile, path .historyFile), (.prompt, value .prompt),
    (.commands, textsDatum (valuesOf .command gs)),
    (.colorBlacklist, textsDatum (valuesOf .color gs))]
  pure (data.map fun (f, d) => (f.name, d))

/-- Where settings are to be loaded from, besides what the options say themselves. -/
structure Source where
  environment : Option String
  directory : Option Files.Path
  macroFiles : List Files.Path

def Source.ofGiven (gs : List Given) : Source := {
  environment := valueOf? .environment gs
  directory := (valueOf? .directory gs).map Files.Path.parse
  macroFiles := (valuesOf .macroFile gs).map Files.Path.parse }

/-- What comes of the arguments. -/
inductive Outcome where
  /-- The arguments cannot be understood. -/
  | refused
  | printed (text : String)
  | failed (error : LoadError)
  | noLevel (error : UnknownLevel)
  | ready (settings : Settings)

/-- The error is explained to the user in one line; any other one is a failure of the program. -/
def isExplained : LoadError → Bool
  | .undecodable _ | .badValue _ | .badVariable .. | .unexpected _ | .badPath .. => false
  | _ => true

def ofGiven (w : Surroundings) (gs : List Given) (library : Library := .standard) : Outcome :=
  match overrides? gs with
  | none => .refused
  | some overrides =>
    if has .version gs then .printed (version ++ "\n")
    else if has .help gs then .printed (Help.configuration ++ "\n")
    else
      let source := Source.ofGiven gs
      match load w source.directory source.environment source.macroFiles overrides library with
      | .error e => .failed e
      | .ok settings =>
        match (Logging.configure {} (some settings.logLevel) (w.environment.lookup "MQTT_SHELL_LOG_LEVEL")).1 with
        | .error e => .noLevel e
        | .ok _ => .ready settings

def run (w : Surroundings) (arguments : List String) (library : Library := .standard) : Outcome :=
  match readAll arguments.length arguments with
  | none => .refused
  | some gs => ofGiven w gs library

example : readAll 3 ["-bx", "--sq=1", "-v"] =
    some [.value .broker "x", .value .subscribeQos "1", .switch .version] := by decide +kernel
example : readAll 1 ["x"] = none := by decide +kernel

end TopicShell.CommandLine
