import TopicShell.Program.Job

/-!
# Options

Most programs take short options, which may be joined behind one dash, and other words.
`Options.read` tells them apart.  `onFiles` is the frame of a program that works on named files or
on its input, and tells which of them cannot be read.
-/

namespace TopicShell.Program

open Files Text

/-! ## Reading options -/

/-- What a program was told: its options in order, each with its value, and its other words. -/
structure Options where
  given : List (Char × String) := []
  names : List String := []

inductive OptionFault where
  | unknown (option : Char)
  | noValue (option : Char)
  deriving DecidableEq

namespace OptionFault

def message : OptionFault → String
  | unknown c => "invalid option -- '" ++ c.toString ++ "'"
  | noValue c => "option requires an argument -- '" ++ c.toString ++ "'"

end OptionFault

/-- The options that a program knows: those without and those with a value. -/
structure OptionSet where
  flags : List Char := []
  valued : List Char := []
  /-- The first other word ends the options. -/
  leads : Bool := false

namespace OptionSet

/-- The letters behind one dash: the options they are, and one whose value is the next word. -/
def cluster (o : OptionSet) :
    List Char → Except OptionFault (List (Char × String) × Option Char)
  | [] => .ok ([], none)
  | c :: cs =>
    if o.flags.contains c then (cluster o cs).map fun (more, last) => ((c, "") :: more, last)
    else if o.valued.contains c then
      .ok (if cs.isEmpty then ([], some c) else ([(c, String.ofList cs)], none))
    else .error (.unknown c)

end OptionSet

namespace Options

def has (o : Options) (c : Char) : Bool :=
  o.given.any (·.1 = c)

/-- The last value of an option. -/
def value? (o : Options) (c : Char) : Option String :=
  (o.given.reverse.find? (·.1 = c)).map (·.2)

def values (o : Options) (c : Char) : List String :=
  (o.given.filter (·.1 = c)).map (·.2)

def read (known : OptionSet) : List String → Except OptionFault Options
  | [] => .ok {}
  | [arg] =>
    match arg.toList with
    | ['-', '-'] => .ok {}
    | '-' :: c :: cs =>
      match known.cluster (c :: cs) with
      | .ok (given, none) => .ok { given }
      | .ok (_, some c) => .error (.noValue c)
      | .error e => .error e
    | _ => .ok { names := [arg] }
  | arg :: next :: rest =>
    match arg.toList with
    | ['-', '-'] => .ok { names := next :: rest }
    | '-' :: c :: cs =>
      match known.cluster (c :: cs) with
      | .ok (given, none) =>
        (read known (next :: rest)).map fun o => { o with given := given ++ o.given }
      | .ok (given, some c) =>
        (read known rest).map fun o => { o with given := given ++ (c, next) :: o.given }
      | .error e => .error e
    | _ =>
      if known.leads then .ok { names := arg :: next :: rest }
      else (read known (next :: rest)).map fun o => { o with names := arg :: o.names }

end Options

/-- Runs a program with its options; a wrong one is reported and gives the status `refused`. -/
def withOptions (tool : String) (known : OptionSet) (refused : Nat) (args : List String) (j : Job)
    (work : Options → Outcome × Job) : Outcome × Job :=
  match Options.read known args with
  | .ok o => work o
  | .error e =>
    (some (.code refused), (j.complain (tool ++ ": " ++ e.message)).complain
      ("Try '" ++ tool ++ " --help' for more information."))

/-! ## Words -/

/-- A name in a message: quoted when it holds more than plain characters. -/
def shownName (name : String) : String :=
  let special (c : Char) : Bool :=
    c = ' ' || c = '\'' || c = '"' || c = '\\' || c = '$' || c = '`' || c = '&' || c = ';' || c = '|'
      || c = '(' || c = ')' || c = '<' || c = '>' || c = '*' || c = '?' || c = '['
  if name.isEmpty || name.toList.any special then
    if name.toList.contains '\'' then "\"" ++ name ++ "\"" else "'" ++ name ++ "'"
  else name

def quoted (word : String) : String :=
  "'" ++ word ++ "'"

def isDigit (c : Char) : Bool :=
  '0' ≤ c && c ≤ '9'

def naturalOf (digits : List Char) : Nat :=
  digits.foldl (fun n c => 10 * n + (c.toNat - 48)) 0

/-- A number in decimal digits without a sign. -/
def natural? (digits : List Char) : Option Nat :=
  if digits.isEmpty || !digits.all isDigit then none else some (naturalOf digits)

/-- A number in decimal digits, perhaps with a sign. -/
def decimal? (text : String) : Option Int :=
  match text.toList with
  | '-' :: ds => (natural? ds).map fun n => -(n : Int)
  | '+' :: ds => (natural? ds).map fun n => (n : Int)
  | ds => (natural? ds).map fun n => (n : Int)

/-- The number of a word, zero if it is none. -/
def numberOf (text : String) : Int :=
  (decimal? text).getD 0

/-! ## Files -/

/-- How a program tells that it cannot read a file. -/
def unreadable (tool name : String) (e : FileError) : String :=
  match tool with
  | "head" | "tail" => tool ++ ": cannot open " ++ quoted name ++ " for reading: " ++ e.text
  | "tac" => tool ++ ": failed to open " ++ quoted name ++ " for reading: " ++ e.text
  | "sort" => tool ++ ": cannot read: " ++ name ++ ": " ++ e.text
  | "sed" => tool ++ ": can't read " ++ name ++ ": " ++ e.text
  | _ => tool ++ ": " ++ shownName name ++ ": " ++ e.text

/-- The octets of all named files, `-` being the input; a file that cannot be read is reported. -/
def readAll (tool : String) : List String → Job → List (String × Octets) × Bool × Job
  | [], j => ([], true, j)
  | name :: rest, j =>
    if name = "-" then
      let (more, ok, j') := readAll tool rest { j with input := [] }
      ((name, j.input) :: more, ok, j')
    else
      match j.files.read name with
      | .ok content =>
        let (more, ok, j) := readAll tool rest j
        ((name, content) :: more, ok, j)
      | .error e =>
        let (more, _, j) := readAll tool rest (j.complain (unreadable tool name e))
        (more, false, j)

/-- Works on each of the named files, or on the input when none is named; `unread` is the end if a
file cannot be read. -/
def onEachFileOr (unread : Exit) (tool : String) (names : List String) (j : Job)
    (work : List (String × Octets) → Job → Outcome × Job) : Outcome × Job :=
  let names := if names.isEmpty then ["-"] else names
  if names.contains "-" && !j.ended then (none, j)
  else
    let (contents, ok, j) := readAll tool names j
    let (out, j) := work contents j
    (if ok then out else out.map fun _ => unread, j)

def onEachFile (tool : String) (names : List String) (j : Job)
    (work : List (String × Octets) → Job → Outcome × Job) : Outcome × Job :=
  onEachFileOr .failure tool names j work

/-- Works on the named files one behind the other, or on the input when none is named. -/
def onFiles (tool : String) (names : List String) (j : Job)
    (work : Octets → Job → Outcome × Job) : Outcome × Job :=
  onEachFile tool names j fun contents j => work (contents.flatMap (·.2)) j

/-- A text filled from the left up to a width, with zeros or blanks, or from the right. -/
def padded (zero left : Bool) (width : Nat) (text : Octets) : Octets :=
  let fill := List.replicate (width - text.length) (if zero && !left then (48 : UInt8) else 32)
  if left then text ++ fill else fill ++ text

def inBase (base : Nat) (n : Int) : Octets :=
  Utf8.encode (String.ofList ((if n < 0 then ['-'] else []) ++ Nat.toDigits base n.natAbs))

end TopicShell.Program
