import TopicShell.Session.Subscription

/-!
# The broker as the session sees it

A registry remembers the handler of each topic.  Each call is answered in turn: done, refused, or
failed in a way nobody expects; a call that is not done changes nothing.
-/

namespace TopicShell

inductive Call where
  | publish (topic : String) (qos : Int) (retained : Bool) (payload : String)
  | subscribe (topic : String) (qos : Int)
  | unsubscribe (topic : String)
  deriving DecidableEq

/-- Why a call is not done. -/
inductive Refusal where
  | refused (message : String)
  | unexpected (message : String)
  deriving DecidableEq

def Refusal.message : Refusal → String
  | refused message => message
  | unexpected message => message

/-- A handler in place for a topic. -/
structure Installed where
  topic : String
  qos : Int
  handler : Handler
  deriving DecidableEq

structure Registry where
  installed : List Installed := []
  /-- How many calls have been made. -/
  count : Nat := 0
  /-- The answer to a call, given how many came before it. -/
  answer : Nat → Call → Option Refusal := fun _ _ => none

namespace Registry

def handler? (r : Registry) (topic : String) : Option Handler :=
  (r.installed.find? (·.topic == topic)).map (·.handler)

def install (r : Registry) (i : Installed) : Registry :=
  { r with installed := r.installed.filter (·.topic != i.topic) ++ [i] }

def forget (r : Registry) (topic : String) : Registry :=
  { r with installed := r.installed.filter (·.topic != topic) }

/-- One call: the answer and the registry after it; `change` is what a call does that is done. -/
def call (r : Registry) (c : Call) (change : Registry → Registry) : Option Refusal × Registry :=
  match r.answer r.count c with
  | some refusal => (some refusal, { r with count := r.count + 1 })
  | none => (none, change { r with count := r.count + 1 })

end Registry

end TopicShell
