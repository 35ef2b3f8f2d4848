import TopicShell.Broker.Acknowledgement
import TopicShell.Broker.Address
import TopicShell.Broker.Delivery

/-!
# The broker behind a client

`Connection` turns the requests of the shell into calls of a network client and keeps a delivery for
each topic.  What the network does with a request is an argument (`Exchange`): the client may accept
it under a number, reject it, or fail; an acknowledgement may follow or not.

A subscription that is not acknowledged is undone: a new delivery is dropped, and an old one gets
its handler back.
-/

namespace TopicShell.Broker

/-- A call of the network client. -/
inductive ClientCall where
  | create (clientId : String) (cleanSession : Bool) (transport : Transport)
  | webSocketPath (path : String)
  | credentials (user : String) (password : Option String)
  | encrypt (authority : Option String)
  | connect (host : String) (port keepAlive : Nat)
  | startLoop
  | stopLoop
  | disconnect
  | subscribe (topic : String) (qos : Int)
  | unsubscribe (topic : String)
  | addCallback (topic : String)
  | removeCallback (topic : String)
  | publish (topic payload : String) (qos : Int) (retain : Bool)
  deriving DecidableEq

/-- The text of a result code of the client. -/
def resultText : Nat → String
  | 0 => "No error."
  | 1 => "Out of memory."
  | 2 => "A network protocol error occurred when communicating with the broker."
  | 3 => "Invalid function arguments provided."
  | 4 => "The client is not currently connected."
  | 5 => "The connection was refused."
  | 6 => "Message not found (internal error)."
  | 7 => "The connection was lost."
  | 8 => "A TLS error occurred."
  | 9 => "Payload too large."
  | 10 => "This feature is not supported."
  | 11 => "Authorisation failed."
  | 12 => "Access denied by ACL."
  | 14 => "Error defined by errno."
  | 15 => "Message queue full."
  | 16 => "Client or broker did not communicate in the keepalive interval."
  | _ => "Unknown error."

/-- What the client answers to a request. -/
inductive Response where
  | accepted (number : Nat)
  | rejected (code : Nat)
  | failed (text : String)
  deriving DecidableEq

/-- What becomes of a request: the answer of the client, and the acknowledgement if one comes in
time. -/
structure Exchange where
  response : Response
  acknowledgement : Option (List ReasonCode) := none

/-- What becomes of a publication. -/
inductive Publishing where
  | done
  | rejected (code : Nat)
  /-- Waiting ends with an error that is expected there. -/
  | failed (text : String)
  | unfinished
  /-- Waiting ends with any other error. -/
  | unexpected (text : String)
  deriving DecidableEq

/-- Why a request is not done. -/
inductive ConnectionError where
  | missing
  | address (cause : AddressError)
  | refused (text : String)
  | unexpected (text : String)
  deriving DecidableEq

def ConnectionError.message : ConnectionError → String
  | .missing => "Broker is missing!"
  | .address cause => cause.message
  | .refused text => text
  | .unexpected text => text

/-- How the client is to be set up. -/
structure Credentials where
  broker : Option String := none
  clientId : String := "mqtt-shell"
  cleanSession : Bool := true
  username : Option String := none
  password : Option String := none
  authority : Option String := none

structure Connection (η : Type) where
  address : Address
  /-- All deliveries ever started. -/
  workers : List (Delivery η) := []
  /-- The delivery of each topic, by its position among all. -/
  deliveries : List (String × Nat) := []
  /-- The delivery that the callback of a topic hands its messages to. -/
  callbacks : List (String × Nat) := []
  waits : Waits := {}
  connected : Bool := false
  firstConnect : Bool := true
  closing : Bool := false
  listened : Nat := 0
  calls : List ClientCall := []
  texts : List String := []

namespace Connection

variable {η : Type}

abbrev Act (η : Type) := ExceptT ConnectionError (StateM (Connection η))

def isSet (text : Option String) : Bool :=
  text.any (!·.isEmpty)

/-- The calls that set up the client. -/
def setup (a : Address) (c : Credentials) : List ClientCall :=
  [.create c.clientId c.cleanSession a.transport]
    ++ (if a.scheme.isWebSocket then [.webSocketPath a.path] else [])
    ++ (if isSet c.username then [.credentials (c.username.getD "") c.password] else [])
    ++ (if a.isEncrypted || c.authority.isSome then [.encrypt c.authority] else [])

def create (c : Credentials) : Except ConnectionError (Connection η) :=
  if !isSet c.broker then .error .missing
  else
    match Address.parse (c.broker.getD "") with
    | .error e => .error (.address e)
    | .ok address => .ok { address, calls := setup address c }

def call (c : ClientCall) : Act η Unit :=
  modify fun s => { s with calls := s.calls ++ [c] }

def say (text : String) : Act η Unit :=
  modify fun s => { s with texts := s.texts ++ [text] }

def modifyWorker (position : Nat) (f : Delivery η → Delivery η) : Act η Unit :=
  modify fun s => { s with workers := s.workers.modify position f }

/-! ## Connecting -/

/-- The client reports the result of connecting. -/
def onConnect (code : ReasonCode) (listener : Bool) : Act η Unit := do
  if code.isFailure then say ("Connection to broker refused: " ++ code.text ++ "\n")
  else if (← get).firstConnect then
    say "Successfully connected to mqtt broker.\n"
    modify fun s => { s with firstConnect := false, connected := true }
  else
    say "Successfully re-connected to mqtt broker.\n"
    if listener then modify fun s => { s with listened := s.listened + 1 }

def onDisconnect : Act η Unit := do
  unless (← get).closing do say "Connection to broker lost. Reconnecting...\n"

def keepAlive : Nat := 60

/-- Connects: the network may fail, or report a result once the loop runs. -/
def connect (failure : Option String) (code : Option ReasonCode) (listener : Bool) :
    Act η Unit := do
  let a := (← get).address
  call (.connect a.host a.port keepAlive)
  match failure with
  | some text =>
    throw (.refused ("unable to connect to " ++ a.host ++ ":" ++ toString a.port ++ ": " ++ text))
  | none => pure ()
  call .startLoop
  match code with
  | some code => onConnect code listener
  | none => pure ()
  unless (← get).connected do
    call .stopLoop
    throw (.refused "timeout while connecting to broker")

def close : Act η Unit := do
  let positions := (← get).deliveries.map (·.2)
  modify fun s => { s with closing := true }
  positions.forM fun p => modifyWorker p Delivery.stop
  modify fun s => { s with deliveries := [] }
  call .disconnect
  call .stopLoop

/-! ## Requests -/

def publish (topic payload : String) (qos : Int) (retained : Bool) (outcome : Publishing) :
    Act η Unit := do
  call (.publish topic payload qos retained)
  match outcome with
  | .done => pure ()
  | .rejected code => throw (.refused (resultText code))
  | .failed text => throw (.refused text)
  | .unfinished => throw (.refused "timeout while publishing")
  | .unexpected text => throw (.unexpected text)

/-- The answer to a request, and the end of the wait for its acknowledgement. -/
def conclude (action : String) (e : Exchange) : Act η Unit := do
  match e.response with
  | .failed text => throw (.unexpected text)
  | .rejected code => throw (.refused (resultText code))
  | .accepted number =>
    let (position, waits) := (← get).waits.register number
    let waits := match e.acknowledgement with
      | some codes => waits.resolve number codes
      | none => waits
    modify fun s => { s with waits }
    match waits.outcome position action with
    | .ok () => pure ()
    | .error text => throw (.refused text)

/-- Takes the delivery of a topic out and tells it to stop. -/
def dropDelivery (topic : String) : Act η Unit := do
  call (.removeCallback topic)
  let position := (← get).deliveries.lookup topic
  modify fun s => { s with
    callbacks := s.callbacks.filter (·.1 != topic)
    deliveries := s.deliveries.filter (·.1 != topic) }
  match position with
  | some p => modifyWorker p Delivery.stop
  | none => pure ()

/-- The delivery of a topic, started if there is none; tells whether it was there. -/
def deliveryOf (topic : String) (handler : η) : Act η (Nat × Bool) := do
  match (← get).deliveries.lookup topic with
  | some p => pure (p, true)
  | none => do
    let p := (← get).workers.length
    modify fun s => { s with
      workers := s.workers ++ [{ topic, handler }]
      deliveries := s.deliveries ++ [(topic, p)] }
    pure (p, false)

def subscribe (topic : String) (qos : Int) (handler : η) (e : Exchange) : Act η Unit := do
  let (p, known) ← deliveryOf topic handler
  let previous := (((← get).workers[p]?).map (·.handler)).getD handler
  modifyWorker p fun d => { d with handler }
  call (.addCallback topic)
  modify fun s => { s with callbacks := (topic, p) :: s.callbacks.filter (·.1 != topic) }
  call (.subscribe topic qos)
  tryCatch (conclude "subscribe" e) fun
    | .refused text => do
      if known then modifyWorker p fun d => { d with handler := previous }
      else dropDelivery topic
      throw (.refused text)
    | other => throw other

def unsubscribe (topic : String) (e : Exchange) : Act η Unit := do
  call (.unsubscribe topic)
  conclude "unsubscribe" e
  dropDelivery topic

/-- An acknowledgement that no request is waiting for any more. -/
def acknowledge (number : Nat) (codes : List ReasonCode) : Act η Unit :=
  modify fun s => { s with waits := s.waits.resolve number codes }

/-! ## Messages -/

/-- Hands messages to the callback of a filter, which puts them into the queue of a worker; tells
whether the worker will come to all of them, if there is such a callback. -/
def receive (filter : String) (messages : List Message) : Act η (Option Bool) := do
  match (← get).callbacks.lookup filter with
  | none => pure none
  | some p =>
    let willing := (← get).workers[p]?.any fun d => d.stops = 0
    modifyWorker p fun d => messages.foldl Delivery.put d
    pure (some (messages.isEmpty || willing))

/-- Lets every worker do what is left to do. -/
def settle (c : Connection η) : Connection η :=
  { c with workers := c.workers.map Delivery.settle }

end Connection

end TopicShell.Broker
