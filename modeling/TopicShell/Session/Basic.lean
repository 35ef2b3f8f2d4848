import TopicShell.Command
import TopicShell.Session.Registry

/-!
# Sessions

A session holds the subscriptions, the background pipelines and the colours, and talks to the
broker.  `longTerm` leads from a topic to the number of its background pipeline.  All that can be
seen from outside goes to the log in the order in which it happens.

An action changes the session and may fail; what it changed before it failed stays.
-/

namespace TopicShell

open Files Line

inductive Event where
  /-- A connection to the broker is asked for. -/
  | connecting
  /-- The connection to the broker is closed. -/
  | disconnected
  /-- Text written to the terminal. -/
  | wrote (text : String)
  | called (call : Call)
  /-- The input of a background pipeline has been opened, or closed. -/
  | opened (number : Nat)
  | shut (number : Nat)
  deriving DecidableEq

/-- Why handling a line or a message fails. -/
inductive Fault where
  | interpret (cause : InterpretError)
  | command (cause : CommandError)
  | broker (message : String)
  | unexpected (message : String)
  | pipeline (cause : Pipeline.Abort)
  | closing (message : String)
  deriving DecidableEq

def Fault.message : Fault → String
  | .interpret cause => cause.message
  | .command cause => cause.message
  | .broker message => message
  | .unexpected message => message
  | .pipeline cause => cause.message
  | .closing message => message

def Fault.ofRefusal : Refusal → Fault
  | .refused message => .broker message
  | .unexpected message => .unexpected message

structure Session where
  publishQos : Int := 0
  subscribeQos : Int := 0
  pool : Pool := {}
  /-- In the order in which their topics were first recorded. -/
  subscriptions : List Subscription := []
  /-- All background pipelines ever started. -/
  backgrounds : List Background := []
  longTerm : List (String × Nat) := []
  /-- Messages can still start pipelines. -/
  accepting : Bool := true
  broker : Registry := {}
  files : Tree := {}
  environment : List (String × String) := []
  machine : Machine := {}
  log : List Event := []
  /-- What background pipelines wrote to the terminal. -/
  reports : List String := []

namespace Session

abbrev Act := ExceptT Fault (StateM Session)

def note (e : Event) : Act Unit :=
  modify fun s => { s with log := s.log ++ [e] }

def say (text : String) : Act Unit :=
  note (.wrote text)

/-- Calls the broker; a call that is not done is a fault. -/
def callBroker (c : Call) (change : Registry → Registry) : Act Unit := do
  note (.called c)
  let (refusal, broker) := (← get).broker.call c change
  modify fun s => { s with broker }
  match refusal with
  | some r => throw (.ofRefusal r)
  | none => pure ()

def installHandler (sub : Subscription) : Act Unit :=
  callBroker (.subscribe sub.topic sub.qos) (·.install ⟨sub.topic, sub.qos, sub.handler⟩)

def nextDecorator : Act (Option Decorator) := do
  let (d, pool) := (← get).pool.next
  modify fun s => { s with pool }
  pure d

/-! ## Background pipelines -/

/-- Closes the input of a background pipeline. -/
def shutBackground (number : Nat) : Act Unit := do
  note (.shut number)
  modify fun s => { s with backgrounds := s.backgrounds.modify number Background.shut }

/-- Takes the background pipeline of a topic out of the session and closes its input. -/
def discardLongTerm (topic : String) : Act Unit := do
  match (← get).longTerm.lookup topic with
  | none => pure ()
  | some number =>
    modify fun s => { s with longTerm := s.longTerm.filter (·.1 != topic) }
    shutBackground number

/-- Builds a pipeline on the files of the session. -/
def build (c : Chain) (source : Pipeline.Source) (sinks : List Pipeline.Sink) :
    Act Pipeline.Built := do
  match Pipeline.ofChain c source sinks (← get).files 1 false with
  | .error cause => throw (.pipeline cause)
  | .ok b =>
    modify fun s => { s with files := b.files }
    pure b

/-- Starts the background pipeline of a topic, in place of the one it has. -/
def startBackground (topic : String) (c : Chain) : Act Handler := do
  discardLongTerm topic
  let b ← build c (.stream []) []
  let number := (← get).backgrounds.length
  modify fun s => { s with
    backgrounds := s.backgrounds ++ [{ topic, pipeline := b.pipeline, target := b.target }]
    longTerm := s.longTerm ++ [(topic, number)] }
  note (.opened number)
  pure (.feed number)

/-- What a background pipeline leaves behind when it ends. -/
def finishBackground (number : Nat) (b : Background) (c : Pipeline.Closed) (s : Session) : Session :=
  let reports := match c.report.abort with
    | some (.failure cause) => [b.topic ++ " " ++ cause.message ++ "\n"]
    | _ => []
  { s with
    backgrounds := s.backgrounds.set number { b with phase := .ended c.closing.isNone }
    files := c.files
    reports := s.reports ++ reports }

/-- Lets the background pipeline with a number end if it can. -/
def settleOne (s : Session) (number : Nat) : Session :=
  match s.backgrounds[number]? with
  | none => s
  | some b =>
    if b.phase = .running then
      match b.end? s.files s.environment s.machine with
      | some c => finishBackground number b c s
      | none => s
    else s

/-- Lets every background pipeline end that can. -/
def settle (s : Session) : Session :=
  (List.range s.backgrounds.length).foldl settleOne s

/-! ## Views -/

/-- The subscribed topics in rising order. -/
def topics (s : Session) : List String :=
  (s.subscriptions.map (·.topic)).mergeSort fun a b => !decide (b < a)

def isActive (s : Session) : Bool :=
  !s.subscriptions.isEmpty

end Session

end TopicShell
