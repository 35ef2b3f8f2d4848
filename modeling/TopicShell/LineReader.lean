import TopicShell.Command
import TopicShell.Line.Heredoc
import TopicShell.Text.Printable

/-!
# Reading typed lines

A reader is fed with what happens at the prompt, one thing at a time.  A line with the marker of a
heredoc is read on to the line that ends with the marker; an interruption or the end of the input
ends it early.
-/

namespace TopicShell

/-- What happens when the shell asks for a line. -/
inductive Input where
  | typed (line : String)
  | interrupted
  | ended
  deriving DecidableEq

/-- Before a line, or in a heredoc that waits for its marker. -/
inductive LineReader where
  | idle
  | heredoc (marker : String) (lines : List String)
  deriving DecidableEq

namespace LineReader

/-- A typed line without characters that are not printable and without blanks at its ends. -/
def purge (line : String) : String :=
  String.ofList (Text.trim Text.isBlank (Text.printable line.toList))

/-- What an input leads to. -/
inductive Step where
  /-- More input is needed. -/
  | more
  /-- The list of macros is asked for. -/
  | listing
  | line (text : String)
  | stop
  deriving DecidableEq

/-- A whole line: the two words that are no commands of the session are taken out. -/
def complete (line : String) : Step :=
  if line == Builtin.exit.word then .stop
  else if line == Builtin.macros.word then .listing
  else .line line

def joinLines (lines : List String) : String :=
  "\n".intercalate lines

def endsWith (marker line : String) : Bool :=
  marker.toList.reverse.isPrefixOf line.toList.reverse

/-- A first line. -/
def start (line : String) : LineReader × Step :=
  let line := purge line
  if line.isEmpty then (.idle, .more)
  else match Line.Heredoc.marker? line with
    | some marker => (.heredoc marker [line], .more)
    | none => (.idle, complete line)

def feed : LineReader → Input → LineReader × Step
  | idle, .typed line => start line
  | idle, .interrupted => (idle, .more)
  | idle, .ended => (idle, .stop)
  | heredoc marker lines, .typed line =>
    let lines := lines ++ [line]
    if endsWith marker line then (idle, complete (joinLines lines)) else (heredoc marker lines, .more)
  | heredoc _ lines, .interrupted | heredoc _ lines, .ended => (idle, complete (joinLines lines))

end LineReader

end TopicShell
