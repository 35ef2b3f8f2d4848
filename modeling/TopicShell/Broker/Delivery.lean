import TopicShell.Text.Utf8

/-!
# Delivery of messages

The messages of one topic wait in a queue and are handled one after the other by a worker.  A
request to stop waits in the queue like a message; behind it nothing is handled any more.  A handler
that fails does not keep the next message from being handled.
-/

namespace TopicShell.Broker

structure Message where
  topic : String
  payload : Octets
  deriving DecidableEq

inductive QueueItem where
  | message (m : Message)
  | stop
  deriving DecidableEq

/-- `handled` is the history of the worker: which handler got which message. -/
structure Delivery (η : Type) where
  topic : String
  handler : η
  queue : List QueueItem := []
  handled : List (η × Message) := []
  ended : Bool := false

namespace Delivery

variable {η : Type}

def put (d : Delivery η) (m : Message) : Delivery η :=
  { d with queue := d.queue ++ [.message m] }

def stop (d : Delivery η) : Delivery η :=
  { d with queue := d.queue ++ [.stop] }

/-- How often the delivery was told to stop and has not done so yet, and whether it has. -/
def stops (d : Delivery η) : Nat :=
  d.queue.count .stop + (if d.ended then 1 else 0)

/-- One step of the worker. -/
def step (d : Delivery η) : Delivery η :=
  if d.ended then d
  else
    match d.queue with
    | [] => d
    | .stop :: rest => { d with queue := rest, ended := true }
    | .message m :: rest => { d with queue := rest, handled := d.handled ++ [(d.handler, m)] }

/-- The worker at rest: nothing is left to do, or it has ended. -/
def settle (d : Delivery η) : Delivery η :=
  d.queue.foldl (fun d _ => d.step) d

end Delivery

end TopicShell.Broker
