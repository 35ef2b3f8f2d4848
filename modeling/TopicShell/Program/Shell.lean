import TopicShell.Program.Builtin
import TopicShell.Program.Wiring

/-!
# Running scripts

`Script.run` runs a script in a context: it goes on with a status, ends the shell, or waits for
input that has not come yet.  The programs that start other programs are here too, and `find`, which
finds a program by its name.
-/

namespace TopicShell.Program

open Files Text

/-! ## Commands -/

def runProgram (find : Finder) (name : String) (args : List String) (c : Context) : Flow × Context :=
  match find c.job.files name with
  | .ok tool =>
    let inherited := c.job.environment.filter fun e => (c.values.lookup e.1).isNone
    let (out, job) := tool args { c.job with environment := inherited ++ c.values.reverse }
    let job := { job with environment := c.job.environment }
    match out with
    | some e => (.next e.shellCode, { c with job })
    | none => (.waits, { c with job })
  | .error e =>
    let text := if e = .missing then "not found" else e.text
    (.next (if e = .missing then 127 else 126),
      { c with job := c.job.complain (c.name ++ ": 1: " ++ name ++ ": " ++ text) })

/-- Runs a script within another one: the body of a function, or a text. -/
abbrev Caller := Script → Context → Flow × Context

/-- Runs a function with arguments of its own. -/
def callFunction (call : Caller) (body : Script) (args : List String) (c : Context) : Flow × Context :=
  let (flow, after) := call body { c with arguments := args }
  let after := { after with arguments := c.arguments }
  match flow with
  | .returns n => (.next n, after)
  | flow => (flow, after)

/-- Runs a text as a script. -/
def evaluate (call : Caller) (text : String) (c : Context) : Flow × Context :=
  match Script.parse text with
  | .ok s => call s c
  | .error fault => (.leave (.code 2), { c with job := c.job.complain (c.name ++ ": 1: " ++ fault) })

def runWords (find : Finder) (call : Caller) (c : Context) : List String → Flow × Context
  | [] | ["exec"] => (.next 0, c)
  | "eval" :: words => evaluate call (" ".intercalate words) c
  | "." :: path :: _ =>
    match c.job.files.read path with
    | .ok content => evaluate call (Utf8.decodeText content) c
    | .error _ => (.leave (.code 2), { c with job := c.job.complain (c.name ++ ": 1: .: cannot open " ++ path ++ ": No such file") })
  | "exec" :: name :: args =>
    match runProgram find name args c with
    | (.next n, c) => (.leave (.code n), c)
    | r => r
  | "command" :: name :: args => runProgram find name args c
  | name :: args =>
    match c.functions.lookup name with
    | some body => callFunction call body args c
    | none =>
      match builtin? c name args with
      | some r => r
      | none => runProgram find name args c

/-- Runs something under redirections. -/
def redirected (find : Finder) (rs : List Redirection) (c : Context) (run : Context → Flow × Context) :
    Flow × Context :=
  if rs.isEmpty then run c
  else
    match wire find rs {} c with
    | .error (.failed text) =>
      (.next 2, { c with job := c.job.complain (c.name ++ ": 1: " ++ text), status := 2 })
    | .error .waits => (.waits, c)
    | .ok (w, c) =>
      let inner : Job := { c.job with written := [] }
      let inner := match w.input with
        | some content => { inner with input := content, ended := true }
        | none => inner
      let (flow, after) := run { c with job := inner }
      let restored : Job :=
        { after.job with written := c.job.written, ended := c.job.ended
                         input := if w.input.isSome then c.job.input else after.job.input }
      (flow, { after with job := deliver w after.job.pieces w.targets restored })

/-- Keeps the status of what went on; a failure ends a strict script. -/
def settled (r : Flow × Context) : Flow × Context :=
  match r.1 with
  | .next n =>
    let c := { r.2 with status := n }
    if n ≠ 0 && c.strict && !c.guarded then (.leave (.code n), c) else (.next n, c)
  | _ => r

/-- Assigns values; the last value may be what a script wrote. -/
def assignAll (find : Finder) : List (String × ScriptWord) → Context → Option Context
  | [], c => some c
  | (name, w) :: rest, c =>
    match expandOne find c w with
    | some (v, c) => assignAll find rest (c.setVariable name v)
    | none => none

/-- A command of assignments, words and redirections.  Without words its status is that of the last
substitution; assignments in front of words hold for this command only. -/
def runSimple (find : Finder) (call : Caller) (as : List (String × ScriptWord)) (ws : List ScriptWord)
    (rs : List Redirection) (c : Context) : Flow × Context :=
  match expandAll find c ws with
  | none => (.waits, c)
  | some (fields, c') =>
    match assignAll find as (if ws.isEmpty then { c' with status := 0 } else c') with
    | none => (.waits, c)
    | some assigned =>
      if fields.isEmpty then
        let status := if ws.isEmpty then assigned.status else 0
        redirected find rs assigned fun c => (.next status, c)
      else
        let (flow, after) := redirected find rs assigned fun c => runWords find call c fields
        (flow, if as.isEmpty then after else { after with values := c'.values })

/-! ## Scripts -/

/-- Runs a condition, in which failures end nothing. -/
def guarding (run : Context → Flow × Context) (c : Context) : Flow × Context :=
  let (flow, after) := run { c with guarded := true }
  (flow, { after with guarded := c.guarded })

/-- Repeats a loop at most `fuel` times. -/
def repeating (test body : Context → Flow × Context) : Nat → Nat → Context → Flow × Context
  | 0, status, c => (.next status, c)
  | fuel + 1, status, c =>
    match guarding test c with
    | (.next 0, c) =>
      match body c with
      | (.next n, c) => repeating test body fuel n c
      | (.continues, c) => repeating test body fuel 0 c
      | (.breaks, c) => (.next 0, c)
      | r => r
    | (.next _, c) => (.next status, c)
    | (.breaks, c) => (.next 0, c)
    | r => r

/-- Runs a loop body for each of some values. -/
def forEach (name : String) (body : Context → Flow × Context) : List String → Nat → Context → Flow × Context
  | [], status, c => (.next status, c)
  | value :: rest, _, c =>
    match body (c.setVariable name value) with
    | (.next n, c) => forEach name body rest n c
    | (.continues, c) => forEach name body rest 0 c
    | (.breaks, c) => (.next 0, c)
    | r => r

/-- A pipeline inside a script: the second part reads what the first wrote to its output. -/
def piped (first second : Context → Flow × Context) (c : Context) : Flow × Context :=
  let (flow, a) := first { c with job := { c.job with written := [] } }
  let wrote := a.job.collected (· = .output)
  let complaints := a.job.written.filter (·.1 = .errors)
  let ended := flow != .waits
  let inner : Job := { a.job with input := wrote, ended, written := complaints ++ c.job.written }
  let (flow', b) := second { c with job := inner }
  let job := { b.job with input := a.job.input, ended := c.job.ended }
  match flow' with
  | .leave e => (.next e.shellCode, { c with job })
  | .next n => (if ended then .next n else .waits, { c with job })
  | .returns n => (.next n, { c with job })
  | .breaks | .continues => (.next 0, { c with job })
  | .waits => (.waits, { c with job })

/-- Runs something in a shell of its own, which leaves nothing behind but its job. -/
def isolated (run : Context → Flow × Context) (c : Context) : Flow × Context :=
  match run c with
  | (.leave e, after) => (.next e.shellCode, { c with job := after.job })
  | (.returns n, after) => (.next n, { c with job := after.job })
  | (.breaks, after) | (.continues, after) => (.next 0, { c with job := after.job })
  | (flow, after) => (flow, { c with job := after.job })

/-- Whether one of several patterns fits the subject; nothing if one of them waits. -/
def fits (find : Finder) : List ScriptWord → Context → Option (Bool × Context)
  | [], c => some (false, c)
  | w :: rest, c =>
    match globChars find w c with
    | none => none
    | some (cs, c) =>
      if (Glob.ofChars cs).admits c.subject.toList then some (true, c) else fits find rest c

def Script.run (find : Finder) (call : Caller) : Script → Context → Flow × Context
  | .nothing, c => (.next c.status, c)
  | .simple as ws rs, c => settled (runSimple find call as ws rs c)
  | .pipe a b, c => settled (piped (a.run find call) (b.run find call) c)
  | .sequence a b, c =>
    match a.run find call c with
    | (.next _, c) => b.run find call c
    | r => r
  | .both a b, c =>
    match guarding (a.run find call) c with
    | (.next 0, c) => b.run find call c
    | r => r
  | .either a b, c =>
    match guarding (a.run find call) c with
    | (.next 0, c) => (.next 0, c)
    | (.next _, c) => b.run find call c
    | r => r
  | .negate a, c =>
    match guarding (a.run find call) c with
    | (.next n, c) =>
      let status := if n = 0 then 1 else 0
      (.next status, { c with status })
    | r => r
  | .group body subshell rs, c =>
    let (flow, after) := redirected find rs c (if subshell then isolated (body.run find call) else body.run find call)
    match flow with
    | .next n => if subshell then settled (.next n, after) else (.next n, { after with status := n })
    | flow => (flow, after)
  | .cond test yes no, c =>
    match guarding (test.run find call) c with
    | (.next 0, c) => yes.run find call c
    | (.next _, c) => no.run find call { c with status := 0 }
    | r => r
  | .loop test body, c => repeating (test.run find call) (body.run find call) (c.job.input.length + 1024) 0 c
  | .each name ws body, c =>
    match expandAll find c ws with
    | some (values, c) => forEach name (body.run find call) values 0 c
    | none => (.waits, c)
  | .subject w branches, c =>
    match expandOne find c w with
    | some (text, c) => branches.run find call { c with subject := text, status := 0 }
    | none => (.waits, c)
  | .branch patterns body otherwise, c =>
    match fits find patterns c with
    | some (true, c) => body.run find call c
    | some (false, c) => otherwise.run find call c
    | none => (.waits, c)
  | .define name body, c =>
    (.next 0, { c with functions := (name, body) :: c.functions.filter (·.1 ≠ name), status := 0 })
  | .background a, c =>
    let (_, after) := isolated (a.run find call) { c with job := { c.job with input := [], ended := true } }
    (.next 0, { c with job := { after.job with input := c.job.input, ended := c.job.ended }, status := 0 })

/-- Functions and texts may call others this deep. -/
def callDepth : Nat := 256

/-- Runs a script; calls deeper than `depth` fail. -/
def runDeep (find : Finder) : Nat → Caller
  | 0, _, c => (.next 2, c)
  | depth + 1, s, c => s.run find (runDeep find depth) c

/-- Runs what a script has left to do at its end; its status stays. -/
def bidFarewell (find : Finder) (c : Context) : Context :=
  match c.farewell with
  | some text => (evaluate (runDeep find callDepth) text { c with farewell := none }).2
  | none => c

/-- A whole script as a program. -/
def runScript (find : Finder) (strict : Bool) (name : String) (arguments : List String) (text : String)
    (j : Job) : Outcome × Job :=
  match Script.parse text with
  | .error fault => (some (.code 2), j.complain (name ++ ": 1: " ++ fault))
  | .ok s =>
    match runDeep find callDepth s { job := j, name, arguments, strict } with
    | (.next n, c) | (.leave (.code n), c) | (.returns n, c) => (some (.code n), (bidFarewell find c).job)
    | (.leave e, c) => (some e, c.job)
    | (.breaks, c) | (.continues, c) => (some .success, (bidFarewell find c).job)
    | (.waits, c) => (none, c.job)

/-- The shell: a script in an argument, in a file, or on its input. -/
def shell (find : Finder) : Tool := fun args j =>
  match args with
  | "-c" :: text :: rest => runScript find false (rest.headD "sh") rest.tail text j
  | "-ec" :: text :: rest | "-e" :: "-c" :: text :: rest =>
    runScript find true (rest.headD "sh") rest.tail text j
  | ["-c"] => (some (.code 2), j.complain "sh: 0: -c requires an argument")
  | [] | ["-s"] =>
    if j.ended then
      runScript find false "sh" [] (Utf8.decodeText j.input) { j with input := [] }
    else (none, j)
  | path :: rest =>
    if path.startsWith "-" then (some (.code 2), j.complain ("sh: 0: Illegal option " ++ path))
    else
      match j.files.read path with
      | .ok content => runScript find false path rest (Utf8.decodeText content) j
      | .error _ =>
        (some (.code 2), j.complain ("sh: 0: cannot open " ++ path ++ ": No such file"))

/-! ## Programs that start others -/

/-- Starts a program with some words, as `tool` would tell that it cannot. -/
def start (find : Finder) (tool : String) (words : List String) (j : Job) : Outcome × Job :=
  match words with
  | [] => (some .success, j)
  | name :: args =>
    match find j.files name with
    | .ok run => run args j
    | .error e =>
      (some (.code (if e = .missing then 127 else 126)), j.complain (tool ++ ": " ++ shownName name ++ ": " ++ e.text))

/-- Assignments in front of the words of `env`. -/
def envAssignments : List String → List (String × String) → List (String × String) × List String
  | [], environment => (environment, [])
  | w :: rest, environment =>
    match cut '=' w.toList with
    | (n, some v) =>
      let name := String.ofList n
      envAssignments rest (environment.filter (·.1 ≠ name) ++ [(name, String.ofList v)])
    | (_, none) => (environment, w :: rest)

def env (find : Finder) : Tool := fun args j =>
  withOptions "env" { flags := ['i'], valued := ['u'], leads := true } 125 args j fun o =>
    let base := if o.has 'i' then [] else j.environment.filter fun e => !(o.values 'u').contains e.1
    let (environment, words) := envAssignments o.names base
    if words.isEmpty then printenv [] { j with environment }
    else
      let (out, after) := start find "env" words { j with environment }
      (out, { after with environment := j.environment })

/-- The words of a text for `xargs`: blanks separate them, quotes and backslashes keep together.
The open word is kept with its last character first. -/
def argumentWords : Option Char → Option (List Char) → List Char → List String
  | _, current, [] => (current.map fun w => String.ofList w.reverse).toList
  | some q, current, c :: rest =>
    if c = q then argumentWords none current rest
    else argumentWords (some q) (some (c :: current.getD [])) rest
  | none, current, '\\' :: c :: rest => argumentWords none (some (c :: current.getD [])) rest
  | none, current, c :: rest =>
    if isFieldMark c then
      match current with
      | some w => String.ofList w.reverse :: argumentWords none none rest
      | none => argumentWords none none rest
    else if c = '\'' || c = '"' then argumentWords (some c) (some (current.getD [])) rest
    else argumentWords none (some (c :: current.getD [])) rest

/-- Members in groups of `n`. -/
def inGroups (n : Nat) : Nat → List α → List (List α)
  | 0, _ => []
  | _, [] => []
  | fuel + 1, xs => xs.take n :: inGroups n fuel (xs.drop n)

/-- The status that `xargs` makes of one of its programs, unless the program ends everything. -/
def groupStatus (e : Exit) : Nat × Bool :=
  match e with
  | .code 0 => (0, false)
  | .code 255 => (124, true)
  | .code 126 => (126, true)
  | .code 127 => (127, true)
  | .code _ => (123, false)
  | .signal _ => (125, true)

def startGroups (find : Finder) : List (List String) → Nat → Job → Outcome × Job
  | [], status, j => (some (.code status), j)
  | words :: rest, status, j =>
    match start find "xargs" words j with
    | (some e, j) =>
      let (n, stops) := groupStatus e
      if stops then (some (.code n), j) else startGroups find rest (max status n) j
    | (none, j) => (none, j)

def xargs (find : Finder) : Tool := fun args j =>
  withOptions "xargs" { flags := ['r', 't', '0'], valued := ['n', 'I', 'd', 'L', 'P'], leads := true } 1 args j
    fun o =>
    j.consume fun text j =>
      let cs := Utf8.decode text
      let command := if o.names.isEmpty then ["echo"] else o.names
      let separated (mark : Char) : List String :=
        let ps := (pieces mark cs).map String.ofList
        if ps.getLast? = some "" then ps.dropLast else ps
      let words := match o.value? 'd', o.value? 'I' with
        | some d, _ => separated (if d = "\\n" then '\n' else d.toList.headD '\n')
        | none, some _ => (separated '\n').filter (!·.isEmpty)
        | none, none => if o.has '0' then separated '\x00' else argumentWords none none cs
      let groups : List (List String) := match o.value? 'I', (o.value? 'n').or (o.value? 'L') with
        | some mark, _ =>
          words.map fun w => command.map fun c =>
            if mark.isEmpty then c else String.ofList (replace mark.toList w.toList c.toList)
        | none, some n =>
          (inGroups (max 1 (numberOf n).toNat) (words.length + 1) words).map (command ++ ·)
        | none, none => [command ++ words]
      if words.isEmpty && (o.has 'r' || (o.value? 'I').isSome) then (some .success, j)
      else startGroups find (if words.isEmpty then [command] else groups) 0 j

/-- Programs that only change how another one runs, with the options that have a value. -/
def wrapper (tool : String) (valued : List Char) (ownWords : Nat) (find : Finder) : Tool := fun args j =>
  withOptions tool { valued, leads := true } 125 args j fun o =>
    start find tool (o.names.drop ownWords) j

/-- The programs that start others, by name. -/
def starters : List (String × (Finder → Tool)) := [
  ("sh", shell), ("dash", shell), ("env", env), ("xargs", xargs),
  ("timeout", wrapper "timeout" ['s', 'k'] 1), ("nice", wrapper "nice" ['n'] 0),
  ("nohup", wrapper "nohup" [] 0), ("stdbuf", wrapper "stdbuf" ['i', 'o', 'e'] 0)]

/-! ## Finding programs -/

/-- The name of a program in one of the usual directories. -/
def systemName? (path : String) : Option String :=
  let p := Path.parse path
  match p.parts with
  | ["bin", name] => if p.isAbsolute then some name else none
  | ["usr", "bin", name] => if p.isAbsolute then some name else none
  | _ => none

/-- The interpreter named on the first line of a script file, and its argument. -/
def interpreter? (content : Octets) : Option (List String) :=
  match content with
  | 0x23 :: 0x21 :: rest =>
    some ((pieces ' ' (Utf8.decode (rest.takeWhile (· ≠ 10)))).filter (!·.isEmpty) |>.map String.ofList)
  | _ => none

/-- A program: a tool, one that starts others (nested at most `depth` times), or an executable file. -/
def find : Nat → Finder
  | 0, _, _ => .error .missing
  | depth + 1, files, name =>
    if name.toList.contains '\x00' then .error .nullCharacter
    else if 255 < name.utf8ByteSize && !name.toList.contains '/' then .error .nameTooLong
    else if name.isEmpty then .error .denied
    else if !name.toList.contains '/' then known depth name
    else
      match systemName? name with
      | some base => known depth base
      | none =>
        match files.locate name with
        | .error e => .error e
        | .ok (.node _ (.file content true)) =>
          match interpreter? content with
          | none => .error .badFormat
          | some [] => .error .badFormat
          | some (program :: options) =>
            match systemName? program with
            | none => .error .missing
            | some base => (known depth base).map fun tool => fun args => tool (options ++ name :: args)
        | .ok (.node _ _) => .error .denied
        | .ok (.free _) => .error .missing
        | .ok .sink => .error .denied
        | .ok .fullDevice => .error .denied
where
  known (depth : Nat) (name : String) : Except FileError Tool :=
    match starters.lookup name with
    | some starter => .ok (starter (find depth))
    | none =>
      match tools.lookup name with
      | some tool => .ok tool
      | none => .error .missing

/-- Programs may start programs this often. -/
def nesting : Nat := 8

end TopicShell.Program
