import TopicShell.Program.Expansion

/-!
# Built-in commands

The commands that a shell does itself, because they change it or read its input line by line.
`Flow` says how a command comes out.
-/

namespace TopicShell.Program

open Files Text

/-- How a part of a script comes out. -/
inductive Flow where
  | next (status : Nat)
  | leave (e : Exit)
  /-- The innermost loop ends, or begins its next round. -/
  | breaks
  | continues
  /-- The function ends. -/
  | returns (status : Nat)
  | waits
  deriving DecidableEq

/-! ## Signals -/

def signalNumber? (name : String) : Option Nat :=
  let name := if name.startsWith "SIG" then String.ofList (name.toList.drop 3) else name
  match natural? name.toList with
  | some n => some n
  | none =>
    [("HUP", 1), ("INT", 2), ("QUIT", 3), ("ABRT", 6), ("KILL", 9), ("USR1", 10), ("SEGV", 11),
      ("USR2", 12), ("PIPE", 13), ("ALRM", 14), ("TERM", 15)].lookup name

/-- The signal and the receivers of a `kill`. -/
def killArguments : List String → Option (Nat × List String)
  | "-s" :: name :: rest => (signalNumber? name).map (·, rest)
  | arg :: rest =>
    if arg.startsWith "-" then (signalNumber? (String.ofList (arg.toList.drop 1))).map (·, rest)
    else some (15, arg :: rest)
  | [] => none

/-! ## Reading lines -/

/-- Assigns the fields of a line to names; the last name takes what is left. -/
def assignFields (c : Context) : List String → List Char → Context
  | [], _ => c
  | [name], text => c.setVariable name (String.ofList (trim isFieldMark text))
  | name :: names, text =>
    let text := text.dropWhile isFieldMark
    let field := text.takeWhile (!isFieldMark ·)
    assignFields (c.setVariable name (String.ofList field)) names (text.drop field.length)

/-- A line without its backslashes, each of which keeps the character behind it. -/
def withoutBackslashes : List Char → List Char
  | '\\' :: ch :: rest => ch :: withoutBackslashes rest
  | ch :: rest => ch :: withoutBackslashes rest
  | [] => []

def readLine (args : List String) (c : Context) : Flow × Context :=
  let line := c.job.input.takeWhile (· ≠ 10)
  let behind := c.job.input.drop line.length
  let complete := !behind.isEmpty
  if !complete && !c.job.ended then (.waits, c)
  else
    let names := args.filter fun n => !n.startsWith "-"
    let text := Utf8.decode line
    let text := if args.contains "-r" then text else withoutBackslashes text
    let c := assignFields { c with job := { c.job with input := behind.drop 1 } } names text
    (.next (if complete then 0 else 1), c)

/-! ## Conditions -/

def holds (files : Tree) : List String → Bool
  | [] => false
  | [a] => !a.isEmpty
  | [op, a] =>
    match op with
    | "!" => a.isEmpty
    | "-n" => !a.isEmpty
    | "-z" => a.isEmpty
    | "-f" | "-r" | "-w" => files.isFile a
    | "-s" =>
      match files.read a with
      | .ok content => !content.isEmpty
      | .error _ => false
    | "-d" => files.isDirectory a
    | "-e" => files.isFile a || files.isDirectory a
    | "-x" =>
      match files.locate a with
      | .ok (.node _ (.file _ executable)) => executable
      | .ok (.node _ .directory) => true
      | _ => false
    | _ => false
  | "!" :: rest => !holds files rest
  | [a, op, b] =>
    match op with
    | "=" => a = b
    | "!=" => a ≠ b
    | "-eq" => numberOf a = numberOf b
    | "-ne" => numberOf a ≠ numberOf b
    | "-lt" => numberOf a < numberOf b
    | "-le" => numberOf a ≤ numberOf b
    | "-gt" => numberOf b < numberOf a
    | "-ge" => numberOf b ≤ numberOf a
    | "-a" => !a.isEmpty && !b.isEmpty
    | "-o" => !a.isEmpty || !b.isEmpty
    | _ => false
  | _ => false

/-! ## The commands -/

/-- The options of `set`, and its arguments behind them. -/
def setOptions (c : Context) : List String → Context
  | "-e" :: rest => setOptions { c with strict := true } rest
  | "+e" :: rest => setOptions { c with strict := false } rest
  | "--" :: rest => { c with arguments := rest }
  | [] => c
  | arg :: rest => if arg.startsWith "-" || arg.startsWith "+" then setOptions c rest else { c with arguments := arg :: rest }

def exportVariable (c : Context) (arg : String) : Context :=
  match cut '=' arg.toList with
  | (n, some v) => c.setVariable (String.ofList n) (String.ofList v)
  | (_, none) => c

def builtin? (c : Context) (name : String) (args : List String) : Option (Flow × Context) :=
  match name with
  | ":" | "cd" | "wait" | "umask" => some (.next 0, c)
  | "trap" =>
    match args with
    | action :: signals =>
      let atEnd := signals.contains "EXIT" || signals.contains "0"
      some (.next 0, if atEnd then { c with farewell := if action = "-" then none else some action } else c)
    | [] => some (.next 0, c)
  | "set" => some (.next 0, setOptions c args)
  | "exit" =>
    match args with
    | [] => some (.leave (.code c.status), c)
    | n :: _ =>
      match natural? n.toList with
      | some n => some (.leave (.code (n % 256)), c)
      | none =>
        some (.leave (.code 2), { c with job := c.job.complain (c.name ++ ": 1: exit: Illegal number: " ++ n) })
  | "return" => some (.returns ((args.head?.bind fun n => natural? n.toList).getD c.status), c)
  | "break" => some (.breaks, c)
  | "continue" => some (.continues, c)
  | "echo" =>
    let (_, job) := echo true args c.job
    some (.next 0, { c with job })
  | "printf" =>
    match args with
    | [] => some (.next 2, { c with job := c.job.complain (c.name ++ ": 1: printf: usage: printf format [arg ...]") })
    | _ :: _ =>
      let (_, job) := printf false args c.job
      some (.next 0, { c with job })
  | "kill" =>
    match killArguments args with
    | some (signal, receivers) =>
      if receivers.contains ownNumber && signal ≠ 0 then some (.leave (.signal signal), c)
      else some (.next (if receivers.contains ownNumber then 0 else 1), c)
    | none => some (.next 2, c)
  | "read" => some (readLine args c)
  | "shift" =>
    let n := ((args.head?.bind fun a => natural? a.toList).getD 1)
    if c.arguments.length < n then
      some (.leave (.code 2), { c with job := c.job.complain (c.name ++ ": 1: shift: can't shift that many") })
    else some (.next 0, { c with arguments := c.arguments.drop n })
  | "export" | "readonly" | "local" => some (.next 0, args.foldl exportVariable c)
  | "unset" => some (.next 0, { c with values := c.values.filter fun v => !args.contains v.1 })
  | "test" => some (.next (if holds c.job.files args then 0 else 1), c)
  | "[" =>
    if args.getLast? = some "]" then some (.next (if holds c.job.files args.dropLast then 0 else 1), c)
    else some (.next 2, { c with job := c.job.complain (c.name ++ ": 1: [: missing ]") })
  | _ => none

end TopicShell.Program
