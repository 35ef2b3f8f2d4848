import TopicShell.Program.Expansion

/-!
# Redirections

A `Wiring` says where the two streams of a command go and what it reads.  Redirections are applied
from left to right, so that one stream can follow where the other goes at that moment.
-/

namespace TopicShell.Program

open Files

/-- Where something written goes. -/
inductive Destination where
  | stream (s : Stream)
  | file (index : Nat)
  deriving DecidableEq

/-- The destinations of the two streams, the files opened, and the input of a command. -/
structure Wiring where
  output : Destination := .stream .output
  errors : Destination := .stream .errors
  targets : List Target := []
  input : Option Octets := none

def Wiring.set (w : Wiring) (descriptor : Nat) (d : Destination) : Wiring :=
  match descriptor with
  | 1 => { w with output := d }
  | 2 => { w with errors := d }
  | _ => w

def Wiring.of (w : Wiring) (descriptor : Nat) : Destination :=
  if descriptor = 2 then w.errors else w.output

/-- Why redirections come to nothing: one of them fails, or a word waits for input. -/
inductive WiringFault where
  | failed (text : String)
  | waits

/-- Applies redirections in order; the first one that fails is reported. -/
def wire (find : Finder) :
    List Redirection → Wiring → Context → Except WiringFault (Wiring × Context)
  | [], w, c => .ok (w, c)
  | .duplicate d source :: rest, w, c => wire find rest (w.set d (w.of source)) c
  | .input target :: rest, w, c =>
    match expandOne find c target with
    | none => .error .waits
    | some (path, c) =>
      match c.job.files.read path with
      | .ok content => wire find rest { w with input := some content } c
      | .error e =>
        .error (.failed ("cannot open " ++ path ++ ": " ++ (if e = .missing then "No such file" else e.text)))
  | .store d target appends :: rest, w, c =>
    match expandOne find c target with
    | none => .error .waits
    | some (path, c) =>
      match c.job.files.openTarget path appends with
      | .ok (t, files) =>
        wire find rest ({ w with targets := w.targets ++ [t] }.set d (.file w.targets.length))
          { c with job := { c.job with files } }
      | .error e =>
        .error (.failed ("cannot create " ++ path ++ ": "
          ++ (if e = .missing then "Directory nonexistent" else e.text)))

/-- Sends what a command wrote where its wiring says. -/
def deliver (w : Wiring) : List (Stream × Octets) → List Target → Job → Job
  | [], _, j => j
  | (s, octets) :: rest, targets, j =>
    match (match s with | .output => w.output | .errors => w.errors) with
    | .stream t => deliver w rest targets (j.write t octets)
    | .file i =>
      match targets[i]? with
      | some t =>
        deliver w rest (targets.set i (t.advance octets)) { j with files := j.files.store t octets }
      | none => deliver w rest targets j

end TopicShell.Program
