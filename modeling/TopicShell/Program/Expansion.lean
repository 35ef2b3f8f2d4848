import TopicShell.Program.Glob
import TopicShell.Program.Script
import TopicShell.Program.Tools
import TopicShell.Text.Blank

/-!
# Words of scripts

A script runs in a `Context`: the job, the variables, the arguments and the last status.  `expand`
turns a word into fields: variables get their values, other scripts what they write, and what is not
quoted is split at blanks.  A word whose input has not come yet gives nothing.
-/

namespace TopicShell.Program

open Files Text

/-- Finds a program by name. -/
abbrev Finder := Tree → String → Except FileError Tool

structure Context where
  job : Job
  name : String := "sh"
  arguments : List String := []
  values : List (String × String) := []
  status : Nat := 0
  /-- What the branches of a choice are compared with. -/
  subject : String := ""
  /-- A failing command ends the script. -/
  strict : Bool := false
  /-- Inside a condition, where a failure ends nothing. -/
  guarded : Bool := false
  functions : List (String × Script) := []
  /-- The script that runs at the end. -/
  farewell : Option String := none

/-- The number by which a shell knows itself. -/
def ownNumber : String := "1000"

namespace Context

def setVariable (c : Context) (name value : String) : Context :=
  { c with values := (name, value) :: c.values.filter (·.1 ≠ name) }

def value? (c : Context) (name : String) : Option String :=
  match name with
  | "$" => some ownNumber
  | "?" => some (toString c.status)
  | "#" => some (toString c.arguments.length)
  | "@" | "*" => if c.arguments.isEmpty then none else some (" ".intercalate c.arguments)
  | "0" => some c.name
  | "!" => none
  | name =>
    match natural? name.toList with
    | some n => c.arguments[n - 1]?
    | none => (c.values.lookup name).or (c.job.environment.lookup name)

def value (c : Context) (name : String) : String :=
  (c.value? name).getD ""

end Context

/-! ## Arithmetic -/

namespace Arithmetic

/-- A token of an expression: a number or variable, already as a number, or an operator. -/
inductive Part where
  | number (n : Int)
  | operator (text : String)
  deriving DecidableEq

def operators : List String :=
  ["==", "!=", "<=", ">=", "&&", "||", "<<", ">>", "+", "-", "*", "/", "%", "<", ">", "(", ")", "!",
    "&", "|", "^", "~"]

def parts (value : String → Int) : Nat → List Char → Option (List Part)
  | 0, _ => none
  | _, [] => some []
  | fuel + 1, c :: rest =>
    if c = ' ' || c = '\t' || c = '\n' then parts value fuel rest
    else if isDigit c then
      let digits := (c :: rest).takeWhile isDigit
      (parts value fuel ((c :: rest).drop digits.length)).map (.number (naturalOf digits) :: ·)
    else if Token.isNameStart c then
      let name := (c :: rest).takeWhile Token.isNameChar
      (parts value fuel ((c :: rest).drop name.length)).map (.number (value (String.ofList name)) :: ·)
    else
      match operators.find? fun o => o.toList.isPrefixOf (c :: rest) with
      | some o => (parts value fuel ((c :: rest).drop o.length)).map (.operator o :: ·)
      | none => none

def truth (b : Bool) : Int := if b then 1 else 0

/-- The operators with two sides by how tightly they bind, the loosest first. -/
def levels : List (List (String × (Int → Int → Option Int))) := [
  [("||", fun a b => truth (a ≠ 0 || b ≠ 0))],
  [("&&", fun a b => truth (a ≠ 0 && b ≠ 0))],
  [("==", fun a b => truth (a = b)), ("!=", fun a b => truth (a ≠ b))],
  [("<=", fun a b => truth (a ≤ b)), (">=", fun a b => truth (b ≤ a)), ("<", fun a b => truth (a < b)),
    (">", fun a b => truth (b < a))],
  [("<<", fun a b => some (a * Int.pow 2 b.toNat)), (">>", fun a b => some (a / Int.pow 2 b.toNat))],
  [("+", fun a b => a + b), ("-", fun a b => a - b)],
  [("*", fun a b => a * b), ("/", fun a b => if b = 0 then none else a.tdiv b),
    ("%", fun a b => if b = 0 then none else a.tmod b)]]

/-- Goes on with operands of one level as long as its operators follow. -/
def chain (level : List (String × (Int → Int → Option Int)))
    (operand : List Part → Option (Int × List Part)) : Nat → Int → List Part → Option (Int × List Part)
  | 0, a, ps => some (a, ps)
  | fuel + 1, a, .operator o :: rest =>
    match level.lookup o with
    | some f =>
      match operand rest with
      | some (b, rest) => (f a b).bind fun n => chain level operand fuel n rest
      | none => none
    | none => some (a, .operator o :: rest)
  | _, a, ps => some (a, ps)

/-- An expression of a level; below the last one stand signs, brackets and numbers. -/
def evaluate : Nat → List (List (String × (Int → Int → Option Int))) → List Part → Option (Int × List Part)
  | 0, _, _ => none
  | fuel + 1, level :: below, ps =>
    match evaluate fuel below ps with
    | some (a, rest) => chain level (evaluate fuel below) ps.length a rest
    | none => none
  | fuel + 1, [], ps =>
    match ps with
    | .number n :: rest => some (n, rest)
    | .operator "-" :: rest => (evaluate fuel [] rest).map fun (n, rest) => (-n, rest)
    | .operator "+" :: rest => evaluate fuel [] rest
    | .operator "!" :: rest => (evaluate fuel [] rest).map fun (n, rest) => (truth (n = 0), rest)
    | .operator "(" :: rest =>
      match evaluate fuel levels rest with
      | some (n, .operator ")" :: rest) => some (n, rest)
      | _ => none
    | _ => none

/-- The value of an expression, if it is one. -/
def value? (known : String → Int) (text : String) : Option Int :=
  match parts known (text.length + 1) text.toList with
  | some [] => some 0
  | some ps =>
    match evaluate (16 * (ps.length + 1)) levels ps with
    | some (n, []) => some n
    | _ => none
  | none => none

end Arithmetic

/-! ## Fields -/

def isFieldMark (ch : Char) : Bool :=
  ch = ' ' || ch = '\t' || ch = '\n'

/-- Fields under construction: those that are done, last first, and the open one. -/
structure Fields where
  done : List String := []
  current : Option String := none
  /-- Values are split at blanks. -/
  splits : Bool := true

namespace Fields

def append (f : Fields) (s : String) : Fields :=
  { f with current := some (f.current.getD "" ++ s) }

def close (f : Fields) : Fields :=
  match f.current with
  | some s => { f with done := s :: f.done, current := none }
  | none => f

/-- Adds a value that is not quoted. -/
def add (f : Fields) (s : String) : Fields :=
  if f.splits then s.foldl (fun f ch => if isFieldMark ch then f.close else f.append ch.toString) f
  else f.append s

def put (quoted : Bool) (f : Fields) (s : String) : Fields :=
  if quoted then f.append s else f.add s

end Fields

/-! ## Pieces -/

/-- What a script writes, without the line feeds at its end. -/
def substituted (find : Finder) (script : String) (c : Context) : Option (String × Context) :=
  match find c.job.files "sh" with
  | .error _ => some ("", c)
  | .ok tool =>
    let environment := c.values ++ c.job.environment
    let (out, job) := tool ("-c" :: script :: c.name :: c.arguments) { c.job with environment, written := [] }
    match out with
    | none => none
    | some e =>
      let text := Utf8.decodeText (job.collected (· = .output))
      let written := job.written.filter (·.1 = .errors) ++ c.job.written
      let trimmed := String.ofList (trimRight (· = '\n') text.toList)
      some (trimmed, { c with
        job := { job with environment := c.job.environment, written }
        status := e.shellCode })

def isTaggedQuoted : Piece → Bool
  | .text _ quoted | .variable _ quoted | .ruled _ _ _ quoted | .substitution _ quoted => quoted
  | .arithmetic _ => true

/-- A variable under a rule; `word` expands the text behind the rule. -/
def ruledValue (name rule : String) (c : Context) (word : Context → Option (String × Context))
    (glob : Context → Option (Glob × Context)) : Option (String × Context) :=
  let value := c.value? name
  let counts := if rule.startsWith ":" then value.any (!·.isEmpty) else value.isSome
  let text := value.getD ""
  let cutting (drop : Glob → List Char → List Char) : Option (String × Context) :=
    (glob c).map fun (g, c) => (String.ofList (drop g text.toList), c)
  if rule = Token.lengthRule then some (toString text.length, c)
  else
    match rule with
    | "-" | ":-" => if counts then some (text, c) else word c
    | "+" | ":+" => if counts then word c else some ("", c)
    | "=" | ":=" =>
      if counts then some (text, c)
      else (word c).map fun (v, c) => (v, c.setVariable name v)
    | "#" => cutting (Glob.dropFront · false)
    | "##" => cutting (Glob.dropFront · true)
    | "%" => cutting (Glob.dropBack · false)
    | "%%" => cutting (Glob.dropBack · true)
    | _ => some (text, c)

def expandPiece (find : Finder) : Nat → Fields × Context → Piece → Option (Fields × Context)
  | _, (f, c), .text s _ => some (f.append s, c)
  | _, (f, c), .variable name quoted =>
    if name = "@" && quoted && f.splits then
      match c.arguments with
      | [] => some (f, c)
      | a :: rest => some (rest.foldl (fun f b => f.close.append b) (f.append a), c)
    else some (f.put quoted (c.value name), c)
  | _, (f, c), .substitution script quoted =>
    (substituted find script c).map fun (text, c) => (f.put quoted text, c)
  | 0, (f, c), _ => some (f, c)
  | fuel + 1, (f, c), .ruled name rule word quoted =>
    let pieces := ((Token.readWord true (word.length + 2) word.toList).map (·.1)).getD []
    let each (c : Context) (p : Piece) : Option (String × Context) :=
      (expandPiece find fuel ({ splits := false }, c) p).map fun (f, c) => (f.current.getD "", c)
    let texts (c : Context) : Option (List (Piece × String) × Context) :=
      pieces.foldlM (fun (done, c) p => (each c p).map fun (s, c) => (done ++ [(p, s)], c)) ([], c)
    let word (c : Context) : Option (String × Context) :=
      (texts c).map fun (parts, c) => (String.join (parts.map (·.2)), c)
    let glob (c : Context) : Option (Glob × Context) :=
      (texts c).map fun (parts, c) =>
        (Glob.ofChars (parts.flatMap fun (p, s) => s.toList.map (·, isTaggedQuoted p)), c)
    (ruledValue name rule c word glob).map fun (text, c) => (f.put quoted text, c)
  | fuel + 1, (f, c), .arithmetic expression =>
    let pieces := ((Token.readWord true (expression.length + 2) expression.toList).map (·.1)).getD []
    let text := pieces.foldlM (fun (s : Fields × Context) p => expandPiece find fuel s p)
      (({ splits := false } : Fields), c)
    text.map fun (g, c) =>
      match Arithmetic.value? (fun name => numberOf (c.value name)) (g.current.getD "") with
      | some n => (f.append (toString n), c)
      | none => (f, { c with
          job := c.job.complain (c.name ++ ": 1: arithmetic expression: expecting primary: " ++ "\""
            ++ g.current.getD "" ++ "\"") })

/-- Rules within rules are followed this deep. -/
def ruleDepth : Nat := 16

/-! ## Words -/

/-- The fields of a word. -/
def expand (find : Finder) (c : Context) (w : ScriptWord) : Option (List String × Context) :=
  (w.foldlM (expandPiece find ruleDepth) (({} : Fields), c)).map fun (f, c) => (f.close.done.reverse, c)

/-- The fields of several words. -/
def expandAll (find : Finder) (c : Context) (ws : List ScriptWord) : Option (List String × Context) :=
  ws.foldlM (fun (done, c) w => (expand find c w).map fun (fs, c) => (done ++ fs, c)) ([], c)

/-- A word as one text. -/
def expandOne (find : Finder) (c : Context) (w : ScriptWord) : Option (String × Context) :=
  (w.foldlM (expandPiece find ruleDepth) (({ splits := false } : Fields), c)).map fun (f, c) =>
    (f.current.getD "", c)

/-- The characters of a word as a glob has them: those that are quoted are marked. -/
def globChars (find : Finder) : ScriptWord → Context → Option (List (Char × Bool) × Context)
  | [], c => some ([], c)
  | p :: rest, c =>
    match expandPiece find ruleDepth ({ splits := false }, c) p with
    | none => none
    | some (f, c) =>
      (globChars find rest c).map fun (more, c) =>
        ((f.current.getD "").toList.map (·, isTaggedQuoted p) ++ more, c)

end TopicShell.Program
