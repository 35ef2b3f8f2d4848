import TopicShell.Files.Tree

/-!
# Jobs

A job is a program at work: what it can still read, whether more may come, what it has written to
its two streams in order, and the files it sees.  A program either ends, or waits for input that has
not come yet.
-/

namespace TopicShell.Program

open Files

inductive Stream where
  | output
  | errors
  deriving DecidableEq

/-- How a program ends. -/
inductive Exit where
  | code (n : Nat)
  | signal (n : Nat)
  deriving DecidableEq

namespace Exit

/-- The status others see: a signal counts negative. -/
def status : Exit → Int
  | code n => n
  | signal n => -(n : Int)

/-- The status that a shell makes of it. -/
def shellCode : Exit → Nat
  | code n => n
  | signal n => 128 + n

def success : Exit := code 0

def failure : Exit := code 1

end Exit

/-- The signal of a writer without a reader. -/
def brokenPipe : Nat := 13

structure Job where
  input : Octets := []
  /-- No more input will come. -/
  ended : Bool := true
  /-- What has been written, last first. -/
  written : List (Stream × Octets) := []
  files : Tree := {}
  environment : List (String × String) := []

/-- The end of a program, or nothing as long as it waits for input. -/
abbrev Outcome := Option Exit

namespace Job

def write (j : Job) (stream : Stream) (octets : Octets) : Job :=
  if octets.isEmpty then j else { j with written := (stream, octets) :: j.written }

def print (j : Job) (text : String) : Job :=
  j.write .output (Text.Utf8.encode text)

def complain (j : Job) (text : String) : Job :=
  j.write .errors (Text.Utf8.encode (text ++ "\n"))

/-- The pieces written, first first. -/
def pieces (j : Job) : List (Stream × Octets) :=
  j.written.reverse

/-- Everything written to the streams that `keeps` admits, in order. -/
def collected (j : Job) (keeps : Stream → Bool) : Octets :=
  (j.pieces.filter (keeps ·.1)).flatMap (·.2)

/-- A program that needs all of its input before it writes anything. -/
def consume (j : Job) (work : Octets → Job → Outcome × Job) : Outcome × Job :=
  if j.ended then work j.input { j with input := [] } else (none, j)

end Job

/-- A program by what it does with its arguments. -/
abbrev Tool := List String → Job → Outcome × Job

/-! ## Lines -/

/-- The lines of a text, each without its line feed. -/
def linesOf (octets : Octets) : List Octets :=
  let parts := octets.splitBy (fun a _ => a ≠ 10)
  parts.map fun p => if p.getLast? = some 10 then p.dropLast else p

def joinLines (lines : List Octets) : Octets :=
  lines.flatMap (· ++ [10])

/-- The lines of a text, each with the line feed it has. -/
def rawLines (octets : Octets) : List Octets :=
  octets.splitBy (fun a _ => a ≠ 10)

end TopicShell.Program
