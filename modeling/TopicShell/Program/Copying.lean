import TopicShell.Program.Options

/-!
# Copying

`cat`, `head`, `tail`, `tac`, `rev` and `tee`: programs that hand on their input or a part of it.
-/

namespace TopicShell.Program

open Files Text

/-! ## cat -/

/-- An octet made visible: `^` before a control character, `M-` before one of the upper half. -/
def visible (b : UInt8) : Octets :=
  let low (b : UInt8) : Octets :=
    if b < 32 then [94, b + 64] else if b = 127 then [94, 63] else [b]
  if 128 ≤ b then [77, 45] ++ low (b - 128) else low b

/-- The marks that `cat` puts on lines. -/
structure LineMarks where
  numbers : Bool
  onlyFilled : Bool
  squeezes : Bool
  showsEnds : Bool
  showsTabs : Bool
  showsControls : Bool

def LineMarks.shown (m : LineMarks) (line : Octets) : Octets :=
  line.flatMap fun b =>
    if b = 9 then (if m.showsTabs then [94, 73] else [9])
    else if b = 10 then (if m.showsEnds then [36, 10] else [10])
    else if m.showsControls then visible b
    else [b]

/-- Lines with their marks, the first of them with number `n`. -/
def LineMarks.apply (m : LineMarks) : Nat → Bool → List Octets → Octets
  | _, _, [] => []
  | n, afterEmpty, line :: rest =>
    let empty := line = [10]
    if empty && afterEmpty && m.squeezes then apply m n true rest
    else
      let counts := if m.onlyFilled then !empty else m.numbers
      let lead := if counts then padded false false 6 (inBase 10 n) ++ [9] else []
      lead ++ m.shown line ++ apply m (if counts then n + 1 else n) empty rest

/-- Copies files and the input as they come. -/
def copyFiles : List String → Bool → Job → Outcome × Job
  | [], ok, j => (some (if ok then .success else .failure), j)
  | name :: rest, ok, j =>
    if name = "-" then
      let j' := { j.write .output j.input with input := [] }
      if j.ended then copyFiles rest ok j' else (none, j')
    else
      match j.files.read name with
      | .ok content => copyFiles rest ok (j.write .output content)
      | .error e => copyFiles rest false (j.complain ("cat: " ++ shownName name ++ ": " ++ e.text))

def cat : Tool := fun args j =>
  withOptions "cat" { flags := ['u', 'n', 'b', 's', 'E', 'T', 'v', 'A', 'e', 't'] } 1 args j fun o =>
    let marks : LineMarks :=
      { numbers := o.has 'n', onlyFilled := o.has 'b', squeezes := o.has 's'
        showsEnds := o.has 'E' || o.has 'A' || o.has 'e'
        showsTabs := o.has 'T' || o.has 'A' || o.has 't'
        showsControls := o.has 'v' || o.has 'A' || o.has 'e' || o.has 't' }
    if o.given.all (·.1 = 'u') then copyFiles (if o.names.isEmpty then ["-"] else o.names) true j
    else onFiles "cat" o.names j fun text j =>
      (some .success, j.write .output (marks.apply 1 false (rawLines text)))

/-! ## head and tail -/

/-- A count with an optional sign, as `head` and `tail` take it. -/
structure Amount where
  octets : Bool := false
  sign : Option Char := none
  count : Nat := 10

/-- The factor that a letter behind a count stands for. -/
def countFactor? : List Char → Option Nat
  | [] => some 1
  | ['b'] => some 512
  | ['k'] | ['K'] => some 1024
  | ['k', 'B'] => some 1000
  | ['m'] | ['M'] => some (1024 * 1024)
  | _ => none

def Amount.read? (octets : Bool) (text : String) : Option Amount :=
  let cs := text.toList
  let (sign, cs) : Option Char × List Char := match cs with
    | '-' :: rest => (some '-', rest)
    | '+' :: rest => (some '+', rest)
    | rest => (none, rest)
  let digits := cs.takeWhile isDigit
  match natural? digits, countFactor? (cs.drop digits.length) with
  | some n, some factor => some ⟨octets, sign, n * factor⟩
  | _, _ => none

/-- A bare count in front, such as `-5`, stands for a number of lines. -/
def bareCount : List String → List String
  | arg :: rest =>
    match arg.toList with
    | '-' :: c :: cs => if (c :: cs).all isDigit then ("-n" ++ String.ofList (c :: cs)) :: rest else arg :: rest
    | _ => arg :: rest
  | [] => []

/-- The amount asked for, or what is wrong about it. -/
def amountOf (o : Options) : Except String Amount :=
  match (o.given.filter fun g => g.1 = 'n' || g.1 = 'c').getLast? with
  | none => .ok {}
  | some (c, text) =>
    match Amount.read? (c = 'c') text with
    | some a => .ok a
    | none => .error ("invalid number of " ++ (if c = 'c' then "bytes" else "lines") ++ ": " ++ quoted text)

/-- The part of a text that an amount takes from its front, and what it leaves. -/
def Amount.front (a : Amount) (text : Octets) : Octets × Octets :=
  let cut : Nat :=
    if a.octets then if a.sign = some '-' then text.length - a.count else a.count
    else
      let lines := rawLines text
      let kept := if a.sign = some '-' then lines.take (lines.length - a.count) else lines.take a.count
      kept.foldl (fun n l => n + l.length) 0
  (text.take cut, text.drop cut)

/-- Enough has come to end early. -/
def Amount.reached (a : Amount) (text : Octets) : Bool :=
  a.sign ≠ some '-'
    && (if a.octets then a.count ≤ text.length else a.count ≤ text.count 10)

def Amount.back (a : Amount) (text : Octets) : Octets :=
  let parts := if a.octets then text.map ([·]) else rawLines text
  (if a.sign = some '+' then parts.drop (a.count - 1) else parts.drop (parts.length - a.count)).flatten

/-- Texts of several files, each under its name. -/
def titled (shows : Bool) (parts : List (String × Octets)) : Octets :=
  (parts.zipIdx.map fun ((name, text), i) =>
    let name := if name = "-" then "standard input" else name
    (if shows then Utf8.encode ((if i = 0 then "" else "\n") ++ "==> " ++ name ++ " <==\n") else [])
      ++ text).flatten

def amountOptions : OptionSet := { flags := ['q', 'v', 'f', 'F'], valued := ['n', 'c'] }

def showsTitles (o : Options) : Bool :=
  o.has 'v' || (1 < o.names.length && !o.has 'q')

def head : Tool := fun args j =>
  withOptions "head" amountOptions 1 (bareCount args) j fun o =>
    match amountOf o with
    | .error text => (some .failure, j.complain ("head: " ++ text))
    | .ok amount =>
      if o.names.isEmpty || o.names = ["-"] then
        if j.ended || amount.reached j.input then
          let (text, rest) := amount.front j.input
          (some .success, { j.write .output text with input := rest })
        else (none, j)
      else onEachFile "head" o.names j fun contents j =>
        let parts := contents.map fun (name, text) => (name, (amount.front text).1)
        (some .success, j.write .output (titled (showsTitles o) parts))

def tail : Tool := fun args j =>
  withOptions "tail" amountOptions 1 (bareCount args) j fun o =>
    match amountOf o with
    | .error text => (some .failure, j.complain ("tail: " ++ text))
    | .ok amount =>
      onEachFile "tail" o.names j fun contents j =>
        let parts := contents.map fun (name, text) => (name, amount.back text)
        (some .success, j.write .output (titled (showsTitles o) parts))

/-! ## Turning round -/

def tac : Tool := fun args j =>
  onFiles "tac" args j fun text j => (some .success, j.write .output (rawLines text).reverse.flatten)

def rev : Tool := fun args j =>
  onFiles "rev" args j fun text j =>
    let turned := (rawLines text).map fun l =>
      if l.getLast? = some 10 then l.dropLast.reverse ++ [10] else l.reverse
    (some .success, j.write .output turned.flatten)

/-! ## tee -/

/-- Opens all files that can be opened; the others are reported. -/
def openAll (tool : String) (appends : Bool) : List String → Job → List Target × Bool × Job
  | [], j => ([], true, j)
  | name :: rest, j =>
    match j.files.openTarget name appends with
    | .ok (target, files) =>
      let (more, ok, j) := openAll tool appends rest { j with files }
      (target :: more, ok, j)
    | .error e =>
      let (more, _, j) := openAll tool appends rest (j.complain (tool ++ ": " ++ shownName name ++ ": " ++ e.text))
      (more, false, j)

/-- Copies the input and stores it. -/
def tee : Tool := fun args j =>
  withOptions "tee" { flags := ['a', 'i', 'p'] } 1 args j fun o =>
    j.consume fun text j =>
      let (targets, ok, j) := openAll "tee" (o.has 'a') o.names j
      let files := targets.foldl (fun files t => files.store t text) j.files
      (some (if ok then .success else .failure), { j with files }.write .output text)

end TopicShell.Program
