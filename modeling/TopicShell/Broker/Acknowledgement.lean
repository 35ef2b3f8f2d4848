/-!
# Acknowledgements

A request that the client has accepted carries a number; the acknowledgement with that number ends
the wait for it.  An acknowledgement may report failures.  A wait that times out leaves its number
behind, so that a late acknowledgement finds it.
-/

namespace TopicShell.Broker

/-- One reason code of an acknowledgement. -/
structure ReasonCode where
  isFailure : Bool
  text : String
  deriving DecidableEq

/-- The texts of the failures, if there are any. -/
def failureText (codes : List ReasonCode) : Option String :=
  let failures := (codes.filter (·.isFailure)).map (·.text)
  if failures.isEmpty then none else some (", ".intercalate failures)

/-- How far the wait for an acknowledgement got. -/
inductive Wait where
  | waiting
  | answered (failure : Option String)
  deriving DecidableEq

/-- All waits by the order in which they began, and the numbers that are still to be acknowledged. -/
structure Waits where
  all : List Wait := []
  pending : List (Nat × Nat) := []
  deriving DecidableEq

namespace Waits

/-- Begins a wait for a number; gives its position. -/
def register (w : Waits) (number : Nat) : Nat × Waits :=
  (w.all.length,
    { all := w.all ++ [.waiting]
      pending := (number, w.all.length) :: w.pending.filter (·.1 != number) })

/-- A number is not waited for any more. -/
def without (w : Waits) (number : Nat) : Waits :=
  { w with pending := w.pending.filter (·.1 != number) }

/-- The wait at a position gets its answer. -/
def answer (w : Waits) (position : Nat) (codes : List ReasonCode) : Waits :=
  { w with all := w.all.set position (.answered (failureText codes)) }

/-- An acknowledgement arrives: its number is taken out of the table, and the wait that had it gets
its answer. -/
def resolve (w : Waits) (number : Nat) (codes : List ReasonCode) : Waits :=
  match w.pending.lookup number with
  | none => w.without number
  | some position => (w.without number).answer position codes

/-- How a wait ends when it is looked at for the last time: an empty text is no failure. -/
def outcome (w : Waits) (position : Nat) (action : String) : Except String Unit :=
  match w.all[position]? with
  | some (.answered (some text)) => if text.isEmpty then .ok () else .error text
  | some (.answered none) => .ok ()
  | _ => .error ("timeout while waiting for " ++ action ++ " acknowledgement")

/-- The numbers that are still to be acknowledged, in rising order. -/
def numbers (w : Waits) : List Nat :=
  (w.pending.map (·.1)).mergeSort

end Waits

end TopicShell.Broker
