import TopicShell.Program.Shell

/-!
# Programs in a row

Each program reads what the one before it wrote.  `launch` finds all of them first; the first one
that cannot be started stops everything, unless a null character is the cause: then the programs before
it are left to themselves.  Programs that wait for input are not finished, unless the
one behind them has ended with input left over: then the next thing they write breaks their pipe.
-/

namespace TopicShell.Program

open Files

/-- One program of a row: its words, and whether its error output goes along. -/
structure Part where
  words : List String
  mergesErrors : Bool

/-- How far one program got: its end if it ended, and what it left unread. -/
structure Progress where
  outcome : Outcome
  unread : Octets

/-- What became of a row. -/
structure Launched where
  refusal : Option (Nat × FileError) := none
  output : Octets := []
  exits : List Outcome := []
  files : Tree := {}

namespace Launched

def finished (l : Launched) : Bool :=
  l.refusal.isSome || l.exits.all Option.isSome

/-- The status of a program, zero as long as it has none. -/
def status (l : Launched) (i : Nat) : Int :=
  ((l.exits[i]?.getD none).map Exit.status).getD 0

end Launched

def findPart (files : Tree) (p : Part) : Except FileError Tool :=
  if p.words.any (·.toList.contains '\x00') then .error .nullCharacter
  else find nesting files (p.words.headD "")

/-- The tools of all parts, or the first part without one. -/
def findParts (files : Tree) : Nat → List Part → Except (Nat × FileError) (List (Tool × Part))
  | _, [] => .ok []
  | i, p :: rest =>
    match findPart files p with
    | .error e => .error (i, e)
    | .ok tool => (findParts files (i + 1) rest).map ((tool, p) :: ·)

/-- Runs the tools one after the other. -/
def runParts : List (Tool × Part) → Job → List Progress × Octets × Tree
  | [], j => ([], j.input, j.files)
  | (tool, p) :: rest, j =>
    let (outcome, after) := tool p.words.tail { j with written := [] }
    let output := after.collected fun s => s = .output || p.mergesErrors
    let (more, last, files) :=
      runParts rest { j with input := output, ended := outcome.isSome, files := after.files }
    (⟨outcome, after.input⟩ :: more, last, files)

/-- The ends of a row of programs, with broken pipes. -/
def exitsOf : List Progress → List Outcome
  | [] => []
  | p :: rest =>
    let later := exitsOf rest
    let broken := (later.head?.any Option.isSome) && (rest.head?.any (!·.unread.isEmpty))
    (match p.outcome with
      | some e => some e
      | none => if broken then some (.signal brokenPipe) else none) :: later

/-- The files after programs that have been left to themselves, without input. -/
def filesLeft (parts : List Part) (j : Job) : Tree :=
  match findParts j.files 0 parts with
  | .error _ => j.files
  | .ok tools => (runParts tools { j with input := [], ended := true }).2.2

def launch (parts : List Part) (j : Job) : Launched :=
  match findParts j.files 0 parts with
  | .error (i, e) =>
    { refusal := some (i, e)
      files := if e = .nullCharacter then filesLeft (parts.take i) j else j.files }
  | .ok tools =>
    let (progress, output, files) := runParts tools j
    { output, exits := exitsOf progress, files }

end TopicShell.Program
