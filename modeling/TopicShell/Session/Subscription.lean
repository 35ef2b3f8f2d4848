import TopicShell.Color
import TopicShell.Pipeline.Execution

/-!
# Subscriptions

A subscription is a topic, a level of service and what handles its messages: the shell itself, a
pipeline for each message, or one pipeline in the background (`Background`) that reads them all.
-/

namespace TopicShell

open Files Line

inductive Mode where
  | plain
  | shortTerm
  | longTerm
  deriving DecidableEq

def Mode.name : Mode → String
  | plain => "plain"
  | shortTerm => "short-term"
  | longTerm => "long-term"

/-- What becomes of a message. -/
inductive Handler where
  | plain (decorator : Option Decorator)
  | perMessage (chain : Chain) (decorator : Option Decorator)
  /-- Feeds the background pipeline with this number. -/
  | feed (number : Nat)
  deriving DecidableEq

namespace Handler

def mode : Handler → Mode
  | plain _ => .plain
  | perMessage _ _ => .shortTerm
  | feed _ => .longTerm

def decorator : Handler → Option Decorator
  | plain d => d
  | perMessage _ d => d
  | feed _ => none

end Handler

structure Subscription where
  topic : String
  qos : Int
  handler : Handler
  deriving DecidableEq

/-! ## Records -/

/-- Subscriptions with one put in: it takes the place of the one with its topic. -/
def putSubscription (s : Subscription) (subs : List Subscription) : List Subscription :=
  if subs.any (·.topic == s.topic) then
    subs.map fun old => if old.topic == s.topic then s else old
  else subs ++ [s]

def dropSubscription (topic : String) (subs : List Subscription) : List Subscription :=
  subs.filter (·.topic != topic)

theorem mem_dropSubscription {topic : String} {subs : List Subscription} {s : Subscription} :
    s ∈ dropSubscription topic subs ↔ s ∈ subs ∧ s.topic ≠ topic := by
  simp [dropSubscription]

/-! ## Background pipelines -/

/-- How far a background pipeline got.  `finished` tells whether its end has been announced. -/
inductive Phase where
  | running
  | ended (finished : Bool)
  deriving DecidableEq

structure Background where
  topic : String
  pipeline : Pipeline
  target : Option Target
  /-- All that has been written to its input. -/
  fed : Octets := []
  /-- Its input can still be written to. -/
  isOpen : Bool := true
  phase : Phase := .running

namespace Background

/-- A message is fed as its octets and a line feed; a pipeline that has ended or whose input is
closed drops it. -/
def feed (b : Background) (payload : Octets) : Background :=
  if b.isOpen && b.phase = .running then { b with fed := b.fed ++ payload ++ [10] } else b

def shut (b : Background) : Background :=
  { b with isOpen := false }

/-- The end of a background pipeline, if it can come to one with the input it has. -/
def end? (b : Background) (files : Tree) (environment : List (String × String)) (machine : Machine := {}) :
    Option Pipeline.Closed :=
  let p := { b.pipeline with source := .stream b.fed }
  if p.stages.isEmpty then
    if b.isOpen then none
    else some (Pipeline.close b.target (p.runCopy (Pipeline.chunksOf b.fed)) files)
  else
    let l := machine.launch (p.stages.map Pipeline.part)
      (Pipeline.jobOf { files, environment } b.fed (!b.isOpen))
    if l.finished then
      some (Pipeline.close b.target (p.runStages (Pipeline.behaviourOf l)) l.files)
    else none

end Background

end TopicShell
