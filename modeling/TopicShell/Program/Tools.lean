import TopicShell.Program.Columns
import TopicShell.Program.Copying
import TopicShell.Program.Editing
import TopicShell.Program.Ordering
import TopicShell.Program.Replacing
import TopicShell.Program.Searching
import TopicShell.Program.Showing

/-!
# Programs by name

The programs that pipelines are built from, under the names they have on every system, and those of
them that are too small for a module of their own.
-/

namespace TopicShell.Program

open Files Text

def missingOperand (tool : String) (j : Job) : Outcome × Job :=
  (some .failure, (j.complain (tool ++ ": missing operand")).complain
    ("Try '" ++ tool ++ " --help' for more information."))

def exits (e : Exit) : Tool := fun _ j =>
  (some e, j)

/-- A time such as `2`, `0.5` or `3m`. -/
def isDuration (text : String) : Bool :=
  let cs := text.toList
  let cs := if cs.getLast?.any fun c => c = 's' || c = 'm' || c = 'h' || c = 'd' then cs.dropLast else cs
  let whole := cs.takeWhile isDigit
  match cs.drop whole.length with
  | [] => !whole.isEmpty
  | '.' :: part => (!whole.isEmpty || !part.isEmpty) && part.all isDigit
  | _ => text = "inf" || text = "infinity"

/-- Waits; time does not count here. -/
def sleep : Tool := fun args j =>
  if args.isEmpty then missingOperand "sleep" j
  else
    match args.filter (!isDuration ·) with
    | [] => (some .success, j)
    | wrong =>
      let complaints := wrong.map fun w => "sleep: invalid time interval " ++ quoted w
      (some .failure, (complaints ++ ["Try 'sleep --help' for more information."]).foldl Job.complain j)

/-! ## Making text -/

/-- How many octets an endless writer gets rid of before its reader goes away. -/
def endlessLength : Nat := 262144

/-- Writes one line again and again until nobody reads any more. -/
def yes : Tool := fun args j =>
  let line := Utf8.encode ((if args.isEmpty then "y" else " ".intercalate args) ++ "\n")
  let count := endlessLength / line.length + 1
  (some (.signal brokenPipe), j.write .output (List.replicate count line).flatten)

/-- The options of `seq` in front of its numbers, which may be negative. -/
def seqOptions : List String → String → Bool → String × Bool × List String
  | "-w" :: rest, mark, _ => seqOptions rest mark true
  | "-s" :: m :: rest, _, wide => seqOptions rest m wide
  | arg :: rest, mark, wide =>
    if arg.startsWith "-s" then seqOptions rest (String.ofList (arg.toList.drop 2)) wide
    else (mark, wide, arg :: rest)
  | [], mark, wide => (mark, wide, [])

def seq : Tool := fun args j =>
  let (mark, wide, words) := seqOptions args "\n" false
  let numbers (first step last : Int) : Outcome × Job :=
    if step = 0 then (some .failure, j.complain "seq: invalid Zero increment value: '0'")
    else
      let count : Nat :=
        if 0 < step then ((last - first) / step + 1).toNat else ((first - last) / (-step) + 1).toNat
      let texts := (List.range count).map fun (k : Nat) => toString (first + step * (k : Int))
      let width := (texts.map (·.length)).foldl max 0
      let filled (t : String) : String :=
        if !wide then t
        else if t.startsWith "-" then "-" ++ "".pushn '0' (width - t.length) ++ String.ofList (t.toList.drop 1)
        else "".pushn '0' (width - t.length) ++ t
      (some .success, if texts.isEmpty then j else j.print (mark.intercalate (texts.map filled) ++ "\n"))
  match words.find? fun w => (decimal? w).isNone with
  | some w => (some .failure, j.complain ("seq: invalid floating point argument: " ++ quoted w))
  | none =>
    match words.map numberOf with
    | [] => missingOperand "seq" j
    | [last] => numbers 1 1 last
    | [first, last] => numbers first 1 last
    | first :: step :: last :: _ => numbers first step last

def printenv : Tool
  | [], j => (some .success, j.print (String.join (j.environment.map fun e => e.1 ++ "=" ++ e.2 ++ "\n")))
  | name :: _, j =>
    match j.environment.lookup name with
    | some value => (some .success, j.print (value ++ "\n"))
    | none => (some .failure, j)

/-! ## Paths and files -/

def lastPart (path : String) : String :=
  (Path.parse path).parts.getLast?.getD (if path.isEmpty then "" else "/")

def basename : Tool
  | [], j => missingOperand "basename" j
  | path :: suffixes, j =>
    let name := lastPart path
    let ending := suffixes.headD ""
    let short := if name ≠ ending && name.endsWith ending then
      String.ofList (name.toList.take (name.length - ending.length)) else name
    (some .success, j.print (short ++ "\n"))

def dirname : Tool
  | [], j => missingOperand "dirname" j
  | paths, j =>
    let above (path : String) : String :=
      let p := Path.parse path
      if p.parts.length ≤ 1 && !p.isAbsolute then "." else { p with parts := p.parts.dropLast }.text
    (some .success, j.print (String.join (paths.map fun p => above p ++ "\n")))

def touch : Tool := fun args j =>
  let (_, ok, j) := openAll "touch" true args j
  (some (if ok then .success else .failure), j)

/-- The names in a directory that do not begin with a dot, in rising order. -/
def namesIn (t : Tree) (spot : List String) : List String :=
  let names := t.nodes.filterMap fun (parts, _) =>
    if parts.dropLast = spot && !parts.isEmpty then parts.getLast? else none
  (names.filter fun n => !n.startsWith "." && n ≠ Tree.root).mergeSort fun a b => decide (a ≤ b)

def ls : Tool := fun args j =>
  withOptions "ls" { flags := ['1', 'A', 'a'] } 2 args j fun o =>
    let paths := if o.names.isEmpty then ["."] else o.names
    paths.foldl (fun (out, j) path =>
      match j.files.locate path with
      | .ok (.node spot .directory) =>
        (out, j.print (String.join ((namesIn j.files spot).map (· ++ "\n"))))
      | .ok (.free _) | .error .missing =>
        (some (.code 2), j.complain ("ls: cannot access " ++ quoted path ++ ": " ++ FileError.missing.text))
      | .error e => (some (.code 2), j.complain ("ls: cannot access " ++ quoted path ++ ": " ++ e.text))
      | .ok _ => (out, j.print (path ++ "\n"))) (some .success, j)

/-! ## The table -/

/-- The programs that are found by name; those that start others are not among them. -/
def tools : List (String × Tool) := [
  ("true", exits .success), ("false", exits .failure), ("echo", echo false), ("printf", printf true),
  ("cat", cat), ("head", head), ("tail", tail), ("tac", tac), ("rev", rev), ("tee", tee), ("wc", wc),
  ("sort", sort), ("uniq", uniq), ("tr", tr), ("grep", grep), ("sed", sed), ("cut", cutColumns),
  ("paste", paste), ("nl", nl), ("fold", fold), ("od", od), ("yes", yes), ("seq", seq),
  ("sleep", sleep), ("basename", basename), ("dirname", dirname), ("printenv", printenv),
  ("touch", touch), ("ls", ls)]

end TopicShell.Program
