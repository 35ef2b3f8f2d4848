import TopicShell.Text.Utf8

/-!
# Sinks

A sink takes octets in chunks and may refuse a chunk or a flush.  What it does may depend on all it
has taken before.  `offer` hands one chunk to every sink in order and stops at the first refusal;
`copy` hands over all chunks and flushes at the end.
-/

namespace TopicShell.Pipeline

structure Sink where
  /-- The refusal of a chunk, given the chunks taken before. -/
  write : List Octets → Octets → Option String := fun _ _ => none
  /-- The refusal of a flush, given all chunks taken. -/
  flush : List Octets → Option String := fun _ => none

/-- A sink that takes everything. -/
def Sink.taking : Sink := {}

/-- A sink that refuses every chunk. -/
def Sink.refusing (message : String) : Sink :=
  { write := fun _ _ => some message }

/-- A sink with the chunks it has taken. -/
structure Intake where
  sink : Sink
  taken : List Octets := []

def Intake.octets (i : Intake) : Octets :=
  i.taken.flatten

/-- Hands one chunk to the sinks in order, up to the first refusal. -/
def offer (chunk : Octets) : List Intake → List Intake × Option String
  | [] => ([], none)
  | i :: rest =>
    match i.sink.write i.taken chunk with
    | some message => (i :: rest, some message)
    | none =>
      let (rest, refusal) := offer chunk rest
      ({ i with taken := i.taken ++ [chunk] } :: rest, refusal)

/-- The first refusal of a flush. -/
def flush (intakes : List Intake) : Option String :=
  intakes.findSome? fun i => i.sink.flush i.taken

/-- Hands all chunks to the sinks and flushes them. -/
def copy : List Octets → List Intake → List Intake × Option String
  | [], intakes => (intakes, flush intakes)
  | chunk :: rest, intakes =>
    match offer chunk intakes with
    | (intakes, some message) => (intakes, some message)
    | (intakes, none) => copy rest intakes

theorem copy_nil (intakes : List Intake) : copy [] intakes = (intakes, flush intakes) := rfl

end TopicShell.Pipeline
