import TopicShell.Help
import TopicShell.Session.Basic

/-!
# Handling lines

A line is interpreted and its first command is run.  Whatever goes wrong is written as one report.
-/

namespace TopicShell.Session

open Line

def publish (c : Command) : Act Unit := do
  match Publication.ofArguments c.arguments (← get).publishQos with
  | .error e => throw (.command e)
  | .ok p =>
    tryCatch (callBroker (.publish p.topic p.qos p.retained p.payload) id) fun
      | .broker message => throw (.command (.failed message .pub))
      | e => throw e

/-- The handler of a new subscription. -/
def createHandler (topic : String) (c : Chain) : Act Handler := do
  if c.commands.length = 1 then
    return .plain (← nextDecorator)
  else if c.isLongTerm && c.stores then
    tryCatch (startBackground topic c) fun
      | .pipeline (.failure cause) => throw (.command (.failed cause.message .sub))
      | e => throw e
  else
    return .perMessage c (← nextDecorator)

/-- Subscribes one topic: the handler is made, the broker is asked, and only then the record is
written. -/
def subscribeTopic (qos : Int) (c : Chain) (topic : String) : Act Unit := do
  let handler ← createHandler topic c
  let sub : Subscription := { topic, qos, handler }
  tryCatch (installHandler sub) fun
    | .broker message => do
      if handler.mode = .longTerm then discardLongTerm topic
      throw (.command (.failed message .sub))
    | e => throw e
  if handler.mode ≠ .longTerm then discardLongTerm topic
  modify fun s => { s with subscriptions := putSubscription sub s.subscriptions }

/-- Time passes, and the files change as they do meanwhile. -/
def elapse : Act Unit :=
  modify fun s => { s with files := s.machine.meanwhile s.broker.count s.files }

/-- Goes through topics; time passes between one and the next. -/
def inTurn (act : String → Act Unit) : List String → Act Unit
  | [] => pure ()
  | topic :: rest => do
    act topic
    rest.forM fun next => do
      elapse
      act next

def subscribe (c : Chain) (first : Command) : Act Unit := do
  match Request.ofArguments first.arguments (← get).subscribeQos with
  | .error e => throw (.command e)
  | .ok r => inTurn (subscribeTopic r.qos c) r.topics

def unsubscribeTopic (topic : String) : Act Unit := do
  discardLongTerm topic
  callBroker (.unsubscribe topic) (·.forget topic)
  modify fun s => { s with subscriptions := dropSubscription topic s.subscriptions }

def unsubscribe (first : Command) : Act Unit := do
  if first.arguments.isEmpty then throw (.command (.arguments .unsub))
  first.arguments.forM unsubscribeTopic

def listTopics : Act Unit := do
  (← get).topics.forM fun topic => say (topic ++ "\n")

def listColors : Act Unit := do
  (← get).pool.entries.forM fun d => say (Decorator.decorate d d.serialize ++ "\n")

/-- Runs a chain; a chain without a command does nothing. -/
def handleChain (c : Chain) : Act Unit :=
  match c.commands with
  | [] => pure ()
  | first :: _ =>
    match Builtin.ofWord? first.name with
    | some .pub => publish first
    | some .sub => subscribe c first
    | some .unsub => unsubscribe first
    | some .list => listTopics
    | some .help => say Help.commands
    | some .colors => listColors
    | some .macros | some .exit | none => throw (.command .unknown)

def interpretAndHandle (line : String) : Act Unit :=
  match interpret line with
  | .error e => throw (.interpret e)
  | .ok c => handleChain c

/-- Handles a line; a fault becomes a report. -/
def handleLine (line : String) : Act Unit :=
  tryCatch (interpretAndHandle line) fun e => say (e.message ++ "\n")

/-- Closes the input of all background pipelines; messages start no more pipelines. -/
def close : Act Unit := do
  let handles := (← get).longTerm
  modify fun s => { s with longTerm := [] }
  handles.forM fun h => shutBackground h.2
  modify fun s => { s.settle with accepting := false }

/-- Handles all lines and closes the session. -/
def process (lines : List String) : Act Unit := do
  lines.forM handleLine
  close

/-- Installs the handler of a subscription once more. -/
def reinstall (sub : Subscription) : Act Unit :=
  tryCatch (installHandler sub) fun
    | .broker message => say ("unable to re-subscribe " ++ sub.topic ++ ": " ++ message ++ "\n")
    | e => throw e

/-- Installs every recorded subscription once more, with the handler it has. -/
def reconnect : Act Unit := do
  (← get).subscriptions.forM reinstall

end TopicShell.Session
