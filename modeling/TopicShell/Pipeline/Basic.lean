import TopicShell.Files.Tree
import TopicShell.Line.Chain
import TopicShell.Pipeline.Sink

/-!
# Pipelines

A pipeline is a row of stages with a source and sinks.  `Pipeline.ofChain` builds it from a chain:
the commands up to the target of a link that stores are its stages, and the target is one more sink.
`run` says how a run ends for any behaviour of the programs (`Behaviour`) and of the sinks: the
first stage that cannot be started stops everything; then a sink that refuses; then the first status
that is an error.  A broken pipe is no error but at the last stage.
-/

namespace TopicShell

open Files Line

namespace Pipeline

structure Stage where
  command : Command
  mergesErrors : Bool := false
  deriving DecidableEq

inductive Source where
  | nothing
  | octets (content : Octets)
  /-- A stream that is read in chunks. -/
  | stream (content : Octets)
  deriving DecidableEq

/-- Why a pipeline fails. -/
inductive Failure where
  | target (path : String) (cause : FileError)
  | start (program : String) (cause : FileError)
  | sink (pipeline : String) (message : String)
  | exit (command : Command) (status : Int)
  deriving DecidableEq

def Failure.message : Failure → String
  | .target path cause => path ++ ": " ++ cause.text
  | .start program cause => program ++ ": " ++ cause.text
  | .sink pipeline message => pipeline ++ ": " ++ message
  | .exit command status => command.text ++ ": exit status " ++ toString status

/-- Anything that can end a run early: a failure of the pipeline, a refusal of a sink that no stage
feeds, or a character that no program argument and no path can hold. -/
inductive Abort where
  | failure (cause : Failure)
  | refusal (message : String)
  | nullCharacter
  deriving DecidableEq

def Abort.message : Abort → String
  | .failure cause => cause.message
  | .refusal message => message
  | .nullCharacter => FileError.nullCharacter.text

/-- An error of the file system, as a failure of the pipeline unless the path itself is unusable. -/
def Abort.ofFile (fail : FileError → Failure) : FileError → Abort
  | .nullCharacter => .nullCharacter
  | e => .failure (fail e)

end Pipeline

open Pipeline

structure Pipeline where
  stages : List Stage
  source : Source := .nothing
  sinks : List Sink := []

namespace Pipeline

/-- The stages as they would be typed. -/
def textOf : List Stage → String
  | [] => ""
  | [s] => s.command.text
  | s :: rest =>
    s.command.text ++ " " ++ (if s.mergesErrors then Link.pipeBoth else Link.pipe).text ++ " "
      ++ textOf rest

def text (p : Pipeline) : String :=
  textOf p.stages

/-! ## Building -/

/-- The commands that are no target. -/
def stageCommands (c : Chain) : List Command :=
  if c.stores then c.commands.dropLast else c.commands

/-- The stages of a chain from position `offset` on; `merge` also merges the errors of the last. -/
def stagesOf (c : Chain) (offset : Nat) (merge : Bool) : List Stage :=
  let commands := stageCommands c
  (commands.zipIdx.drop offset).map fun (command, i) =>
    { command
      mergesErrors := (c.links[i]?.any Link.takesErrors) || (merge && i + 1 = commands.length) }

/-- How many octets the buffer in front of a device holds. -/
def bufferSize : Nat := 4096

/-- The sink of a device that stores nothing: it takes what fits into the buffer, and the buffer cannot be
emptied. -/
def Sink.failing (fault : FileError) : Sink :=
  { write := fun taken chunk =>
      if taken.flatten.length + chunk.length ≤ bufferSize then none else some fault.numbered
    flush := fun taken => if taken.flatten.isEmpty then none else some fault.numbered }

def sinkOf (t : Target) : Sink :=
  match t.device with
  | .failing fault => Sink.failing fault
  | .regular _ | .sink => Sink.taking

/-- A pipeline that is ready to run: the target is the last of its sinks. -/
structure Built where
  pipeline : Pipeline
  target : Option Target
  files : Tree

/-- `offset` commands in front are no stages; `merge` also merges the errors of the last stage. -/
def ofChain (c : Chain) (source : Source) (sinks : List Sink) (files : Tree) (offset : Nat)
    (merge : Bool) : Except Abort Built :=
  let stages := stagesOf c offset merge
  match c.target? with
  | none => .ok ⟨⟨stages, source, sinks⟩, none, files⟩
  | some path =>
    match files.openTarget path (c.links.getLast?.any Link.keepsContent) with
    | .error e => .error (Abort.ofFile (.target path) e)
    | .ok (target, files) => .ok ⟨⟨stages, source, sinks ++ [sinkOf target]⟩, some target, files⟩

/-! ## Running -/

/-- What the programs of the stages do: which cannot be started, what is read behind the last one, and
how they end.  Where there are no stages, `chunks` is what is read from a stream. -/
structure Behaviour where
  refusal : Nat → Option FileError
  chunks : List Octets
  status : Nat → Int

/-- What happens to the process of a stage. -/
inductive ProcessEvent where
  | started (stage : Nat)
  /-- It is made to end, if it has not ended by itself. -/
  | killed (stage : Nat)
  | awaited (stage : Nat)
  deriving DecidableEq

/-- How a run ended: what each sink took, what happened to the processes, and why it failed. -/
structure Report where
  intakes : List Intake
  events : List ProcessEvent := []
  abort : Option Abort := none

/-- The status of a writer whose reader has gone. -/
def brokenPipe : Int := -13

def isFailure (last i : Nat) (status : Int) : Bool :=
  status ≠ 0 && !(i < last && status = brokenPipe)

/-- The first stage with a status that is an error. -/
def firstFailure (stages : List Stage) (status : Nat → Int) : Option Failure :=
  stages.zipIdx.findSome? fun (s, i) =>
    if isFailure (stages.length - 1) i (status i) then some (.exit s.command (status i)) else none

def upTo (n : Nat) (event : Nat → ProcessEvent) : List ProcessEvent :=
  (List.range n).map event

/-- A run without stages hands the source to the sinks: octets at once, a stream in the chunks in which
it is read. -/
def runCopy (p : Pipeline) (chunks : List Octets) : Report :=
  let intakes := p.sinks.map fun sink => { sink }
  let handOver (chunks : List Octets) : Report :=
    let (intakes, refusal) := copy chunks intakes
    { intakes, abort := refusal.map .refusal }
  match p.source with
  | .nothing => { intakes }
  | .octets content => handOver [content]
  | .stream _ => handOver chunks

/-- Starts the stages in order, from number `i` on.  If one cannot be started, those before it are killed
and awaited; a null character leaves all as it is. -/
def start (b : Behaviour) (i : Nat) : List Stage → List ProcessEvent × Option Abort
  | [] => ([], none)
  | s :: rest =>
    match b.refusal i with
    | some e =>
      (if e = .nullCharacter then [] else upTo i .killed ++ upTo i .awaited,
        some (Abort.ofFile (.start s.command.name) e))
    | none =>
      let (events, abort) := start b (i + 1) rest
      (.started i :: events, abort)

def runStages (p : Pipeline) (b : Behaviour) : Report :=
  let intakes := p.sinks.map fun sink => { sink }
  let n := p.stages.length
  match start b 0 p.stages with
  | (events, some cause) => { intakes, events, abort := some cause }
  | (events, none) =>
    match copy b.chunks intakes with
    | (intakes, some message) =>
      { intakes
        events := events ++ upTo n .killed ++ upTo n .awaited
        abort := some (.failure (.sink p.text message)) }
    | (intakes, none) =>
      { intakes
        events := events ++ upTo n .awaited
        abort := (firstFailure p.stages b.status).map .failure }

def run (p : Pipeline) (b : Behaviour) : Report :=
  if p.stages.isEmpty then p.runCopy b.chunks else p.runStages b

end Pipeline

end TopicShell
