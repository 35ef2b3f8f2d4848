import TopicShell.Completion
import TopicShell.LineReader
import TopicShell.Macro.Script
import TopicShell.Session.Messages
import TopicShell.Settings.Basic

/-!
# The shell

A shell checks the macros, connects to the broker and runs the start commands.  Then it asks for
lines, or, when it is not interactive, it waits for a signal as long as there are subscriptions.
However it ends, the session is closed first and the connection to the broker last.

What happens outside comes as occurrences, one after the other; once the shell is over nothing has
an effect any more.
-/

namespace TopicShell

/-- Renders the scripts of the macros. -/
abbrev ShellEngine := Macro.Engine Macro.ScriptError Macro.Surroundings

/-- Why a shell ends before its input does. -/
inductive ShellError where
  | macros (cause : Macro.SpecError)
  | broker (message : String)
  | expansion (cause : Macro.ExpansionError Macro.ScriptError)
  /-- No line can be asked for. -/
  | fault (cause : Fault)

inductive ShellPhase where
  /-- A line is asked for. -/
  | asking (reader : LineReader)
  /-- A signal is waited for. -/
  | waiting
  | ended (error : Option ShellError)

def ShellPhase.isOver : ShellPhase → Bool
  | ended _ => true
  | asking _ | waiting => false

structure Shell where
  macros : List (String × Macro.Spec) := []
  engine : ShellEngine := Macro.scripts
  session : Session
  phase : ShellPhase

/-- What a shell is started with. -/
structure Setup where
  settings : Settings
  level : ColorLevel := .none
  /-- Why there is no connection to the broker. -/
  refusal : Option String := none
  registry : Registry := {}
  files : Files.Tree := {}
  environment : List (String × String) := []
  engine : ShellEngine := Macro.scripts
  machine : Machine := {}

/-- What happens outside.  The end of the input is a signal when no line is asked for. -/
inductive Occurrence where
  | input (i : Input)
  | message (topic : String) (payload : Octets)
  | reconnected
  /-- Asking for a line, or waiting for a signal, fails. -/
  | failed (cause : Fault)

namespace Shell

/-! ## Lines -/

/-- The session after an action, whether the action fails or not. -/
def after {α : Type} (a : Session.Act α) (s : Session) : Session :=
  (a.run s).2.settle

def sayAll (texts : List String) (s : Session) : Session :=
  { s with log := s.log ++ texts.map .wrote }

/-- The lines that a line stands for; scripts work on the files of the session. -/
def expand (engine : ShellEngine) (macros : List (String × Macro.Spec)) (line : String) (s : Session) :
    Except (Macro.ExpansionError Macro.ScriptError) (List String) × Session :=
  let (r, w) := (Macro.expand engine macros line).run
    { files := s.files, environment := s.environment, machine := s.machine }
  (r, sayAll w.written { s with files := w.files })

/-- Handles a line that may be the invocation of a macro. -/
def runLine (engine : ShellEngine) (macros : List (String × Macro.Spec)) (line : String) (s : Session) :
    Option ShellError × Session :=
  match expand engine macros line s with
  | (.ok lines, s) => (none, lines.foldl (fun s l => after (Session.handleLine l) s) s)
  | (.error e, s) => (some (.expansion e), s)

/-- Handles lines up to the first one that cannot be expanded. -/
def runLines (engine : ShellEngine) (macros : List (String × Macro.Spec)) :
    List String → Session → Option ShellError × Session
  | [], s => (none, s)
  | line :: rest, s =>
    match runLine engine macros line s with
    | (none, s) => runLines engine macros rest s
    | (some e, s) => (some e, s)

/-! ## Beginning and end -/

/-- Ends the shell: first the session is closed, then the connection. -/
def finish (error : Option ShellError) (shell : Shell) : Shell :=
  { shell with
    session := after (do Session.close; Session.note .disconnected) shell.session
    phase := .ended error }

/-- The shell goes on, or ends with an error. -/
def proceed (phase : ShellPhase) (error : Option ShellError) (shell : Shell) : Shell :=
  match error with
  | none => { shell with phase }
  | some e => finish (some e) shell

/-- The session before anything has happened. -/
def newSession (setup : Setup) : Session := {
  publishQos := setup.settings.publishQos
  subscribeQos := setup.settings.subscribeQos
  pool := Pool.ofLevel setup.level setup.settings.colorBlacklist
  broker := setup.registry
  files := setup.files
  environment := setup.environment
  machine := setup.machine }

/-- The connection to the broker, or why there is none; no address is missing, and the macros are
valid. -/
def connect (setup : Setup) : Except ShellError Unit × Session :=
  let s := newSession setup
  match setup.engine.validate setup.settings.macros with
  | .error e => (.error (.macros e), s)
  | .ok _ =>
    if (setup.settings.broker.getD "").isEmpty then (.error (.broker "Broker is missing!"), s)
    else
      let s := { s with log := s.log ++ [.connecting] }
      match setup.refusal with
      | some message => (.error (.broker message), s)
      | none => (.ok (), s)

/-- The shell after its start commands. -/
def start (setup : Setup) : Shell :=
  let macros := setup.settings.macros
  match connect setup with
  | (.error e, s) => { macros, engine := setup.engine, session := s, phase := .ended (some e) }
  | (.ok _, s) =>
    let (error, s) := runLines setup.engine macros setup.settings.commands s
    let shell : Shell := { macros, engine := setup.engine, session := s, phase := .asking .idle }
    if !setup.settings.nonInteractive then shell.proceed (.asking .idle) error
    else if error.isSome || !s.isActive then shell.finish error
    else shell.proceed .waiting error

/-! ## What happens outside -/

/-- What is done with an input while a line is asked for. -/
def read (reader : LineReader) (i : Input) (shell : Shell) : Shell :=
  match reader.feed i with
  | (reader, .more) => { shell with phase := .asking reader }
  | (reader, .listing) =>
    { shell with
      session := sayAll (Macro.listing shell.macros) shell.session
      phase := .asking reader }
  | (reader, .line line) =>
    let (error, s) := runLine shell.engine shell.macros line shell.session
    { shell with session := s }.proceed (.asking reader) error
  | (_, .stop) => shell.finish none

def input (i : Input) (shell : Shell) : Shell :=
  match shell.phase with
  | .asking reader => shell.read reader i
  | .waiting => if i = .ended then shell.finish none else shell
  | .ended _ => shell

/-- Delivers a message; tells whether there is a handler for its topic. -/
def message (topic : String) (payload : Octets) (shell : Shell) : Except Fault Bool × Shell :=
  if shell.phase.isOver then (.ok false, shell)
  else
    let (r, s) := (Session.deliver topic topic payload).run shell.session
    (r, { shell with session := s.settle })

/-- Installs the subscriptions once more, aside from the input: a fault that nobody expects ends this, and the
shell goes on. -/
def reconnect (shell : Shell) : Shell :=
  if shell.phase.isOver then shell else { shell with session := (Session.reconnect.run shell.session).2 }

/-- Ends the shell because no line can be asked for. -/
def fail (cause : Fault) (shell : Shell) : Shell :=
  if shell.phase.isOver then shell else shell.finish (some (.fault cause))

def step (shell : Shell) : Occurrence → Shell
  | .input i => shell.input i
  | .message topic payload => (shell.message topic payload).2
  | .reconnected => shell.reconnect
  | .failed cause => shell.fail cause

/-- The end of the input; the first one may end a heredoc only. -/
def stop (shell : Shell) : Shell :=
  (shell.input .ended).input .ended

/-- The shell after everything that happens, and the end of the input after that. -/
def run (setup : Setup) (occurrences : List Occurrence) : Shell :=
  (occurrences.foldl step (start setup)).stop

/-! ## Views -/

/-- What can stand at the end of a text. -/
def completions (shell : Shell) (text : String) : List Completion :=
  Completion.complete (shell.macros.map Prod.fst) shell.session.topics text.toList

end Shell

end TopicShell
