import TopicShell.CommandLine
import TopicShell.Shell

/-!
# The program

`main` reads the arguments, loads the files that can hold settings, and runs the shell on the lines of
the standard input.  There is no network here: the broker is one in memory that hands what is published
to the subscriptions of the shell itself.  Programs work on files in memory; those that have changed
are written at the end.
-/

namespace TopicShell.Main

open CommandLine Settings

/-- The variables that matter. -/
def variableNames : List String :=
  ["HOME", "XDG_CONFIG_HOME", "PATH"]
    ++ Field.all.map fun f => Text.upperText (variableStart ++ f.name)

def readEnvironment : IO (List (String × String)) := do
  let found ← variableNames.mapM fun n => return (← IO.getEnv n).map fun v => (n, v)
  pure (found.filterMap id)

/-- A tree with a file put in if there is one. -/
def withFile (t : Files.Tree) (path : String) : IO Files.Tree := do
  try
    let octets ← IO.FS.readBinFile path
    pure (t.add path (.file octets.toList false))
  catch _ => pure t

/-- The names of the files that can hold settings in their directory. -/
def settingFiles (environment : Option String) : List String :=
  let stems := ".global" :: environment.toList
  ".macros.yml" :: stems.flatMap fun s => suffixes.map fun x => s ++ x

/-- The files that the settings can come from. -/
def candidates (w : Surroundings) (gs : List Given) : List String :=
  let source := Source.ofGiven gs
  let directories := match source.directory with
    | some d => [d]
    | none => (home w).child ".mqtt-shell" :: (directory w).toOption.toList
  let inside := directories.flatMap fun d => (settingFiles source.environment).map fun n => (d.child n).text
  ".env" :: inside ++ source.macroFiles.map Files.Path.text

def readSurroundings (arguments : List String) : IO Surroundings := do
  let environment ← readEnvironment
  let w : Surroundings := { files := {}, environment }
  let gs := (readAll arguments.length arguments).getD []
  pure { w with files := ← (candidates w gs).foldlM withFile {} }

/-! ## Running the shell -/

/-- What the broker in memory does about an event: a publication is a message. -/
def echo (shell : Shell) : Event → Shell
  | .called (.publish topic _ _ payload) => shell.step (.message topic (Text.Utf8.encode payload))
  | _ => shell

def printEvents (events : List Event) : IO Unit :=
  events.forM fun
    | .wrote text => IO.print text
    | _ => pure ()

/-- Prints what has been written and delivers what has been published. -/
def settle (shell : Shell) : IO Shell := do
  let events := shell.session.log
  let shell := events.foldl echo { shell with session := { shell.session with log := [] } }
  printEvents (events ++ shell.session.log)
  pure { shell with session := { shell.session with log := [] } }

def readInput : IO Input := do
  let line ← (← IO.getStdin).getLine
  pure (if line.isEmpty then .ended else .typed (String.ofList (line.toList.filter (· ≠ '\n'))))

partial def loop (prompt : String) (shell : Shell) : IO Shell := do
  let shell ← settle shell
  if shell.phase.isOver then pure shell
  else
    IO.print prompt
    (← IO.getStdout).flush
    loop prompt (shell.input (← readInput))

/-- What the user is told about the end of a shell. -/
def errorText? : ShellError → Option String
  | .macros e => some e.message
  | .broker m => some m
  | .expansion (.script e) => some e.message
  | .expansion (.placeholder e) => some e.message
  | .fault f => some f.message

def writeChanges (before after : Files.Tree) : IO Unit := do
  for (path, octets) in after.files do
    if before.files.lookup path ≠ some octets then
      IO.FS.writeBinFile path ⟨octets.toArray⟩

def runShell (w : Surroundings) (settings : Settings) : IO UInt32 := do
  let shell ← loop settings.prompt (Shell.start
    { settings, level := .many, files := w.files, environment := w.environment })
  writeChanges w.files shell.session.files
  match shell.phase with
  | .ended (some e) =>
    IO.print (Console.errorText ((errorText? e).getD ""))
    pure 1
  | _ => pure 0

end TopicShell.Main

open TopicShell Main in
def main (arguments : List String) : IO UInt32 := do
  let w ← readSurroundings arguments
  match CommandLine.run w arguments with
  | .refused => pure 2
  | .printed text =>
    IO.print text
    pure 0
  | .failed e =>
    IO.print (Console.errorText e.message)
    pure 1
  | .noLevel e =>
    IO.print (Console.errorText e.message)
    pure 1
  | .ready settings => runShell w settings
