import TopicShell.PrefixedOutput
import TopicShell.Session.Lines

/-!
# Handling messages

A message is written with its topic in front, sent through a pipeline of its own, or fed to the
background pipeline of its subscription.
-/

namespace TopicShell.Session

open Line

/-- What stands in front of the output of a message. -/
def leadOf (topic : String) (d : Option Decorator) : String :=
  Decorator.decorate (d.getD []) topic ++ " "

/-- The text that chunks of output amount to; it is flushed unless the run ended early. -/
def outputText (lead : String) (chunks : List Octets) : String :=
  (PrefixedOutput.writeAll { lead } chunks).1

/-- Runs a pipeline for one message. -/
def runPerMessage (c : Chain) (payload : Octets) (lead : String) : Act Unit := do
  let sinks := if c.stores then [] else [Pipeline.Sink.taking]
  let report (m : String) : Act Unit := say (lead ++ m ++ "\n")
  let built ← tryCatch (some <$> build c (.octets payload) sinks) fun
    | .pipeline (.failure cause) => do
      report cause.message
      pure none
    | e => throw e
  match built with
  | none => pure ()
  | some b =>
    let s ← get
    let closed := b.execute s.environment s.machine
    modify fun s => { s with files := closed.files }
    unless c.stores do
      let text := outputText lead ((closed.report.intakes.head?.map (·.taken)).getD [])
      unless text.isEmpty do say text
    match closed.report.abort with
    | some (.failure cause) => report cause.message
    | _ => pure ()
    match closed.closing, closed.report.abort with
    | some m, _ => throw (.closing m)
    | none, some (.failure _) => pure ()
    | none, some cause => throw (.pipeline cause)
    | none, none => pure ()

/-- Handles a message on a topic. -/
def handle (h : Handler) (topic : String) (payload : Octets) : Act Unit := do
  match h with
  | .plain d => say (leadOf topic d ++ Text.Utf8.decodeText payload ++ "\n")
  | .perMessage c d =>
    if (← get).accepting then runPerMessage c payload (leadOf topic d)
  | .feed number =>
    modify fun s => { s with backgrounds := s.backgrounds.modify number (·.feed payload) }

/-- Delivers a message to the handler that the broker has for a topic, under the topic it was
published on; tells whether there is one. -/
def deliver (filter topic : String) (payload : Octets) : Act Bool := do
  match (← get).broker.handler? filter with
  | none => pure false
  | some h => do
    handle h topic payload
    pure true

/-- The octets written to the background pipeline of a topic have led to its end. -/
def hasEnded (s : Session) (topic : String) : Option Bool :=
  (s.longTerm.lookup topic).map fun number =>
    match s.backgrounds[number]? with
    | some b => b.phase = .ended true
    | none => false

end TopicShell.Session
