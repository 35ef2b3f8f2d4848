import TopicShell.Pipeline.Basic
import TopicShell.Program.Launch

/-!
# Executing pipelines

The behaviour of the stages comes from the machine that runs the programs they name.  What the sink of
the target took arrives in the files when the target is closed; a device that fails does so then once more.
-/

namespace TopicShell

open Files Program

/-- What the shell runs on. -/
structure Machine where
  /-- Runs programs in a row. -/
  launch : List Part → Job → Launched := Program.launch
  /-- What others make of the files between two calls of the broker, by the number of calls so far. -/
  meanwhile : Nat → Tree → Tree := fun _ files => files

namespace Pipeline

/-- A pipeline with the world its programs live in. -/
structure World where
  files : Tree := {}
  environment : List (String × String) := []

def part (s : Stage) : Part :=
  ⟨s.command.words, s.mergesErrors⟩

/-- The input of the first stage. -/
def inputOf : Source → Octets
  | .nothing => []
  | .octets content | .stream content => content

def jobOf (w : World) (input : Octets) (ended : Bool) : Job :=
  { input, ended, files := w.files, environment := w.environment }

/-- Output in one chunk, or none at all. -/
def chunksOf (output : Octets) : List Octets :=
  if output.isEmpty then [] else [output]

def behaviourOf (l : Launched) : Behaviour :=
  { refusal := fun i => match l.refusal with
      | some (k, e) => if i = k then some e else none
      | none => none
    chunks := chunksOf l.output
    status := l.status }

/-- What is left of a run: its report, the files after it, and an error when the target is closed. -/
structure Closed where
  report : Report
  files : Tree
  closing : Option String := none

/-- Closes the target of a run. -/
def close (target : Option Target) (report : Report) (files : Tree) : Closed :=
  match target with
  | none => { report, files }
  | some t =>
    let taken := (report.intakes.getLast?.map (·.taken)).getD []
    { report
      files := files.store t taken.flatten
      closing := (sinkOf t).flush taken }

/-- Runs a built pipeline to its end. -/
def Built.execute (b : Built) (environment : List (String × String)) (machine : Machine := {}) : Closed :=
  let w : World := { files := b.files, environment }
  if b.pipeline.stages.isEmpty then
    close b.target (b.pipeline.runCopy (chunksOf (inputOf b.pipeline.source))) b.files
  else
    let l := machine.launch (b.pipeline.stages.map part) (jobOf w (inputOf b.pipeline.source) true)
    close b.target (b.pipeline.runStages (behaviourOf l)) l.files

end Pipeline

end TopicShell
