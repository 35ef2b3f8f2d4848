import TopicShell.Program.Options
import TopicShell.Program.Pattern

/-!
# Editing

`sed` runs a list of edits over every line.  The line at work is the pattern space; a second space
holds text between lines.  An edit may be for all lines, for one address or for a range of two.
`readEdits` reads a script, `Editor.runEdits` runs one cycle of it, and `editText` all cycles.
-/

namespace TopicShell.Program

open Text

/-! ## Edits -/

inductive Address where
  | number (n : Nat)
  | last
  | step (first step : Nat)
  | matching (p : Pattern)

/-- Where a range ends. -/
inductive RangeEnd where
  | address (a : Address)
  | plus (n : Nat)

inductive Selection where
  | every
  | one (a : Address)
  | range (a : Address) (b : RangeEnd)

/-- How the letters of a replacement are changed. -/
inductive LetterCase where
  | upper
  | lower
  deriving DecidableEq

inductive ReplacementPiece where
  | text (b : UInt8)
  | group (n : Nat)
  | mode (c : Option LetterCase)
  | next (c : LetterCase)

structure Replacement where
  pattern : Pattern
  pieces : List ReplacementPiece
  /-- The first occurrence that is replaced. -/
  first : Nat := 1
  everywhere : Bool := false
  prints : Bool := false

inductive Action where
  | replace (r : Replacement)
  | transliterate (old new : List UInt8)
  | delete
  | deleteFirst
  | print
  | printFirst
  | printNumber
  | quit (status : Nat) (quiet : Bool)
  | append (text : Octets)
  | insert (text : Octets)
  | change (text : Octets)
  | next
  | joinNext
  | recall
  | recallMore
  | keep
  | keepMore
  | swap
  | begin_
  | end_
  | label (name : String)
  | branch (name : String)
  | branchIf (name : String)
  | branchUnless (name : String)

structure Edit where
  selection : Selection := .every
  negated : Bool := false
  action : Action

/-! ## Replacing -/

def caseOctet (mode : Option LetterCase) (b : UInt8) : UInt8 :=
  match mode with
  | some .upper => if 97 ≤ b && b ≤ 122 then b - 32 else b
  | some .lower => if 65 ≤ b && b ≤ 90 then b + 32 else b
  | none => b

/-- A text in the current case; the next letter may have one of its own. -/
def inCase (mode next : Option LetterCase) : Octets → Octets
  | [] => []
  | b :: rest => caseOctet (next.or mode) b :: rest.map (caseOctet mode)

def Replacement.text (m : Pattern.Match) :
    Option LetterCase → Option LetterCase → List ReplacementPiece → Octets
  | _, _, [] => []
  | mode, next, .text b :: rest => inCase mode next [b] ++ text m mode none rest
  | mode, next, .group n :: rest =>
    let found := if n = 0 then m.found else (m.groups.lookup n).getD []
    inCase mode next found ++ text m mode (if found.isEmpty then next else none) rest
  | _, _, .mode c :: rest => text m c none rest
  | mode, _, .next c :: rest => text m mode (some c) rest

/-- A line with the occurrences from `first` on replaced, and whether one was.  The occurrence at the
front has number `n`; `done` is what has been passed, in parts, last first. -/
def Replacement.apply (r : Replacement) (length : Nat) :
    Nat → Nat → List Octets → Bool → Option UInt8 → Octets → Octets × Bool
  | 0, _, done, changed, _, line => ((line :: done).reverse.flatten, changed)
  | fuel + 1, n, done, changed, last, line =>
    match r.pattern.search length last line with
    | none => ((line :: done).reverse.flatten, changed)
    | some m =>
      let hit := r.first ≤ n
      let changed := changed || hit
      let done := (if hit then Replacement.text m none none r.pieces else m.found) :: m.before :: done
      if hit && !r.everywhere then ((m.rest :: done).reverse.flatten, true)
      else
        match m.found.isEmpty, m.rest with
        | _, [] => (done.reverse.flatten, changed)
        | true, b :: rest => apply r length fuel (n + 1) ([b] :: done) changed (some b) rest
        | false, rest => apply r length fuel (n + 1) done changed m.found.getLast? rest

/-! ## Reading a script -/

/-- Why a script cannot be read, with the number of characters behind the place. -/
structure ScriptFault where
  behind : Nat
  text : String

abbrev Reader (α : Type) := Except ScriptFault (α × List Char)

def octetsOf (cs : List Char) : Octets :=
  cs.map fun c => UInt8.ofNat c.toNat

def isScriptBlank (c : Char) : Bool :=
  c = ' ' || c = '\t'

/-- How far a pattern is inside a bracket list: its first member is next, or some have come, or a
class between colons has begun. -/
inductive BracketState where
  | outside
  | first
  | inside
  | named
  deriving DecidableEq

/-- A pattern up to its delimiter, which may be escaped or stand in a bracket list. -/
def patternPart (mark : Char) : BracketState → List Char → Option (List Char × List Char)
  | _, [] => none
  | .outside, ['\\'] => none
  | .outside, '\\' :: c :: rest =>
    (patternPart mark .outside rest).map fun (part, rest) =>
      (if c = mark then c :: part else '\\' :: c :: part, rest)
  | .outside, c :: rest =>
    if c = mark then some ([], rest)
    else (patternPart mark (if c = '[' then .first else .outside) rest).map fun (part, rest) => (c :: part, rest)
  | state, '\\' :: 'n' :: rest =>
    (patternPart mark (if state = .named then .named else .inside) rest).map fun (part, rest) => ('\n' :: part, rest)
  | state, '[' :: ':' :: rest =>
    (patternPart mark (if state = .named then .inside else .named) rest).map fun (part, rest) => ('[' :: ':' :: part, rest)
  | .named, ':' :: ']' :: rest =>
    (patternPart mark .inside rest).map fun (part, rest) => (':' :: ']' :: part, rest)
  | .named, c :: rest => (patternPart mark .named rest).map fun (part, rest) => (c :: part, rest)
  | .first, '^' :: rest => (patternPart mark .first rest).map fun (part, rest) => ('^' :: part, rest)
  | .first, c :: rest => (patternPart mark .inside rest).map fun (part, rest) => (c :: part, rest)
  | .inside, c :: rest =>
    (patternPart mark (if c = ']' then .outside else .inside) rest).map fun (part, rest) => (c :: part, rest)

/-- A replacement up to its delimiter, which may be escaped. -/
def replacementPart (mark : Char) : List Char → Option (List Char × List Char)
  | [] => none
  | ['\\'] => none
  | '\\' :: c :: rest =>
    (replacementPart mark rest).map fun (part, rest) =>
      if c = mark then ((if c = '&' then ['\\', c] else [c]) ++ part, rest)
      else ('\\' :: c :: part, rest)
  | c :: rest =>
    if c = mark then some ([], rest)
    else (replacementPart mark rest).map fun (part, rest) => (c :: part, rest)

def replacementPieces : List Char → List ReplacementPiece
  | [] => []
  | '\\' :: c :: rest =>
    let piece : ReplacementPiece := match c with
      | 'n' => .text 10
      | 't' => .text 9
      | 'U' => .mode (some .upper)
      | 'L' => .mode (some .lower)
      | 'E' => .mode none
      | 'u' => .next .upper
      | 'l' => .next .lower
      | c => if isDigit c then .group (c.toNat - 48) else .text (UInt8.ofNat c.toNat)
    piece :: replacementPieces rest
  | '&' :: rest => .group 0 :: replacementPieces rest
  | c :: rest => .text (UInt8.ofNat c.toNat) :: replacementPieces rest

/-- A pattern with the text behind it. -/
def parsePattern (extended fold : Bool) (part rest : List Char) : Except ScriptFault Pattern :=
  (Pattern.parse { extended, fold, controls := true } (octetsOf part)).mapError fun e =>
    ⟨rest.length, e.message⟩

def readAddress (extended : Bool) (cs : List Char) : Except ScriptFault (Option Address × List Char) :=
  let pattern (mark : Char) (rest : List Char) : Except ScriptFault (Option Address × List Char) :=
    match patternPart mark .outside rest with
    | some (part, rest) =>
      let fold := rest.head? = some 'I'
      let rest := if fold then rest.drop 1 else rest
      (parsePattern extended fold part rest).map fun p => (some (.matching p), rest)
    | none => .error ⟨0, "unterminated address regex"⟩
  match cs with
  | '$' :: rest => .ok (some .last, rest)
  | '/' :: rest => pattern '/' rest
  | '\\' :: mark :: rest => pattern mark rest
  | cs =>
    let digits := cs.takeWhile isDigit
    let rest := cs.drop digits.length
    if digits.isEmpty then .ok (none, cs)
    else
      match rest with
      | '~' :: more =>
        let steps := more.takeWhile isDigit
        .ok (some (.step (naturalOf digits) (naturalOf steps)), more.drop steps.length)
      | rest => .ok (some (.number (naturalOf digits)), rest)

def readSelection (extended : Bool) (cs : List Char) : Reader Selection :=
  match readAddress extended cs with
  | .error e => .error e
  | .ok (none, rest) => .ok (.every, rest)
  | .ok (some a, rest) =>
    match rest.dropWhile isScriptBlank with
    | ',' :: more =>
      let more := more.dropWhile isScriptBlank
      match more with
      | '+' :: more =>
        let digits := more.takeWhile isDigit
        .ok (.range a (.plus (naturalOf digits)), more.drop digits.length)
      | more =>
        match readAddress extended more with
        | .error e => .error e
        | .ok (some b, rest) => .ok (.range a (.address b), rest)
        | .ok (none, rest) => .error ⟨rest.length, "unexpected ','"⟩
    | rest => .ok (.one a, rest)

/-- The flags of a replacement. -/
def readFlags (r : Replacement) : Nat → List Char → Replacement × Bool × List Char
  | 0, cs => (r, false, cs)
  | fuel + 1, 'g' :: rest => readFlags { r with everywhere := true } fuel rest
  | fuel + 1, 'p' :: rest => readFlags { r with prints := true } fuel rest
  | fuel + 1, c :: rest =>
    if c = 'i' || c = 'I' then
      let (r, _, rest) := readFlags r fuel rest
      (r, true, rest)
    else if isDigit c then
      let digits := (c :: rest).takeWhile isDigit
      readFlags { r with first := naturalOf digits } fuel ((c :: rest).drop digits.length)
    else (r, false, c :: rest)
  | _, [] => (r, false, [])

/-- The text of an inserting edit: up to the end of its line, backslashes removed. -/
def readText : List Char → List Char × List Char
  | [] => ([], [])
  | '\n' :: rest => ([], rest)
  | '\\' :: c :: rest =>
    let (more, rest) := readText rest
    (c :: more, rest)
  | c :: rest =>
    let (more, rest) := readText rest
    (c :: more, rest)

def insertedText (cs : List Char) : Octets × List Char :=
  let cs := cs.dropWhile isScriptBlank
  let cs := match cs with
    | '\\' :: rest =>
      match rest.dropWhile isScriptBlank with
      | '\n' :: rest => rest
      | rest => rest
    | cs => cs
  let (text, rest) := readText cs
  (octetsOf (text ++ ['\n']), '\n' :: rest)

def endsCommand (c : Char) : Bool :=
  c = ';' || c = '\n' || c = '\x7d' || c = '#'

def readLabel (cs : List Char) : String × List Char :=
  let cs := cs.dropWhile isScriptBlank
  let name := cs.takeWhile fun c => c ≠ ';' && c ≠ '\n' && !isScriptBlank c
  (String.ofList name, cs.drop name.length)

/-- The action of a letter. -/
def readAction (extended : Bool) (letter : Char) (cs : List Char) : Reader Action :=
  let text (make : Octets → Action) : Reader Action :=
    let (t, rest) := insertedText cs
    if t = [10] then .error ⟨0, "expected \\ after 'a', 'c' or 'i'"⟩ else .ok (make t, rest)
  let named (make : String → Action) : Reader Action :=
    let (name, rest) := readLabel cs
    .ok (make name, rest)
  match letter with
  | 's' =>
    match cs with
    | [] => .error ⟨0, "unterminated `s' command"⟩
    | mark :: rest =>
      match (patternPart mark .outside rest).bind fun (p, rest) =>
        (replacementPart mark rest).map fun (r, rest) => (p, r, rest) with
      | none => .error ⟨0, "unterminated `s' command"⟩
      | some (p, r, rest) =>
        let (made, fold, rest) := readFlags ⟨.nothing, replacementPieces r, 1, false, false⟩ rest.length rest
        (parsePattern extended fold p rest).map fun pattern => (.replace { made with pattern }, rest)
  | 'y' =>
    match cs with
    | [] => .error ⟨0, "unterminated `y' command"⟩
    | mark :: rest =>
      match (replacementPart mark rest).bind fun (p, rest) =>
        (replacementPart mark rest).map fun (r, rest) => (p, r, rest) with
      | none => .error ⟨0, "unterminated `y' command"⟩
      | some (p, r, rest) =>
        let plain (part : List Char) : List UInt8 :=
          (replacementPieces (part.flatMap fun c => if c = '&' then ['\\', '&'] else [c])).filterMap fun
            | .text b => some b
            | _ => none
        if (plain p).length ≠ (plain r).length then
          .error ⟨rest.length, "strings for `y' command are different lengths"⟩
        else .ok (.transliterate (plain p) (plain r), rest)
  | 'a' => text .append
  | 'i' => text .insert
  | 'c' => text .change
  | ':' => named .label
  | 'b' => named .branch
  | 't' => named .branchIf
  | 'T' => named .branchUnless
  | 'q' | 'Q' =>
    let cs := cs.dropWhile isScriptBlank
    let digits := cs.takeWhile isDigit
    .ok (.quit (naturalOf digits) (letter = 'Q'), cs.drop digits.length)
  | letter =>
    let simple : Option Action := match letter with
      | 'd' => some .delete
      | 'D' => some .deleteFirst
      | 'p' => some .print
      | 'P' => some .printFirst
      | '=' => some .printNumber
      | 'n' => some .next
      | 'N' => some .joinNext
      | 'g' => some .recall
      | 'G' => some .recallMore
      | 'h' => some .keep
      | 'H' => some .keepMore
      | 'x' => some .swap
      | '\x7b' => some .begin_
      | '\x7d' => some .end_
      | _ => none
    match simple with
    | some a => .ok (a, cs)
    | none => .error ⟨cs.length, "unknown command: `" ++ letter.toString ++ "'"⟩

/-- The edits of a script; they are separated by semicolons or line feeds. -/
def readEdits (extended : Bool) : Nat → List Char → Except ScriptFault (List Edit)
  | 0, _ => .ok []
  | fuel + 1, cs =>
    match cs.dropWhile fun c => isScriptBlank c || c = ';' || c = '\n' with
    | [] => .ok []
    | '#' :: rest => readEdits extended fuel (rest.dropWhile (· ≠ '\n'))
    | cs =>
      match readSelection extended cs with
      | .error e => .error e
      | .ok (selection, rest) =>
        let rest := rest.dropWhile isScriptBlank
        let negated := rest.head? = some '!'
        match rest.dropWhile fun c => isScriptBlank c || c = '!' with
        | [] => .error ⟨0, "missing command"⟩
        | letter :: rest =>
          match readAction extended letter rest with
          | .error e => .error e
          | .ok (action, rest) =>
            let rest := rest.dropWhile isScriptBlank
            if letter = '\x7b' || rest.head?.all endsCommand then
              (readEdits extended fuel rest).map (⟨selection, negated, action⟩ :: ·)
            else
              .error ⟨rest.length - 1,
                if letter = 's' then "unknown option to `s'" else "extra characters after command"⟩

/-! ## Running edits -/

structure Line where
  text : Octets
  /-- A line feed stands at its end. -/
  ended : Bool

/-- The state between two edits. -/
structure Editor where
  /-- The lines to come. -/
  coming : List Line
  space : Octets := []
  ended : Bool := true
  held : Octets := []
  number : Nat := 0
  /-- What has been written, last first. -/
  written : List Octets := []
  lacksFeed : Bool := false
  /-- What is written at the end of the cycle. -/
  queue : List Octets := []
  replaced : Bool := false
  /-- The ranges that have begun, each with its last line if that is known. -/
  open_ : List (Nat × Option Nat) := []

namespace Editor

/-- Writes a line; a line feed that was missing before it is made up for. -/
def writeLine (e : Editor) (text : Octets) (feed : Bool) : Editor :=
  { e with
    written := ((if e.lacksFeed then [(10 : UInt8)] else []) ++ text ++ (if feed then [10] else [])) :: e.written
    lacksFeed := !feed }

def isLast (e : Editor) : Bool :=
  e.coming.isEmpty

def Address.holds (e : Editor) : Address → Bool
  | .number n => e.number = n
  | .last => e.isLast
  | .step first step => if step = 0 then e.number = first else first ≤ e.number && (e.number - first) % step = 0
  | .matching p => p.occursIn e.space

/-- The place in front of the first line, at which only a range can begin. -/
def Address.isBefore : Address → Bool
  | .number 0 => true
  | _ => false

/-- Whether the edit with this place in the script is for the current line. -/
def selects (e : Editor) (place : Nat) : Selection → Bool × Editor
  | .every => (true, e)
  | .one a => (Address.holds e a, e)
  | .range a b =>
    let without : Editor := { e with open_ := e.open_.filter (·.1 ≠ place) }
    match e.open_.lookup place with
    | none =>
      if !Address.holds e a && !(Address.isBefore a && e.number = 1) then (false, e)
      else
        let (goesOn, until_) : Bool × Option Nat := match b with
          | .plus n => (0 < n, some (e.number + n))
          | .address (.number n) => (e.number < n, some n)
          | .address b => (!(Address.isBefore a && Address.holds e b), none)
        (true, if goesOn then { e with open_ := (place, until_) :: e.open_ } else e)
    | some until_ =>
      match until_, b with
      | some n, _ => if e.number < n then (true, e) else (e.number = n, without)
      | none, .address a => if Address.holds e a then (true, without) else (true, e)
      | none, .plus _ => (true, without)

/-- How an edit goes on. -/
inductive Course where
  | next
  | jump (place : Nat)
  /-- The cycle ends; the pattern space is printed if it is to be. -/
  | cycle (prints : Bool)
  /-- The cycle begins again with what is left of the pattern space. -/
  | again
  | quit (status : Nat) (prints : Bool)

/-- The place behind the end of the block that begins at a place. -/
def blockEnd (edits : List Edit) (place : Nat) : Nat :=
  let rec go : Nat → Nat → List Edit → Nat
    | _, n, [] => n
    | depth, n, e :: rest =>
      match e.action with
      | .begin_ => go (depth + 1) (n + 1) rest
      | .end_ => if depth = 0 then n + 1 else go (depth - 1) (n + 1) rest
      | _ => go depth (n + 1) rest
  go 0 (place + 1) (edits.drop (place + 1))

/-- The place of a label; without a name it is the end of the script. -/
def labelPlace (edits : List Edit) (name : String) : Nat :=
  if name.isEmpty then edits.length
  else (edits.findIdx? fun e => match e.action with
    | .label n => n = name
    | _ => false).getD edits.length

/-- Puts the next line in place of the pattern space, or behind it. -/
def advance (e : Editor) (joins : Bool) : Editor :=
  match e.coming with
  | [] => e
  | l :: rest =>
    { e with
      coming := rest
      space := if joins then e.space ++ (10 : UInt8) :: l.text else l.text
      ended := l.ended
      number := e.number + 1 }

/-- Writes what has been put off to the end of the cycle. -/
def flush (e : Editor) : Editor :=
  { e.queue.foldl (fun e text => e.writeLine text.dropLast true) e with queue := [] }

def perform (quiet : Bool) (edits : List Edit) (e : Editor) (place : Nat) : Action → Course × Editor
  | .replace r =>
    let (space, changed) := r.apply e.space.length (e.space.length + 2) 1 [] false none e.space
    let e := { e with space, replaced := e.replaced || changed }
    (.next, if changed && r.prints then e.writeLine e.space true else e)
  | .transliterate old new =>
    let image (b : UInt8) : UInt8 := ((old.idxOf? b).bind (new[·]?)).getD b
    (.next, { e with space := e.space.map image })
  | .delete => (.cycle false, e)
  | .deleteFirst =>
    if e.space.contains 10 then (.again, { e with space := (e.space.dropWhile (· ≠ 10)).drop 1 })
    else (.cycle false, e)
  | .print => (.next, e.writeLine e.space e.ended)
  | .printFirst => (.next, e.writeLine (e.space.takeWhile (· ≠ 10)) true)
  | .printNumber => (.next, e.writeLine (inBase 10 e.number) true)
  | .quit status silent => (.quit status !silent, e)
  | .append text => (.next, { e with queue := e.queue ++ [text] })
  | .insert text => (.next, e.writeLine text.dropLast true)
  | .change text =>
    let inside := e.open_.any (·.1 = place)
    (.cycle false, if inside then e else e.writeLine text.dropLast true)
  | .next =>
    if e.isLast then (.quit 0 true, e)
    else (.next, ((if quiet then e else e.writeLine e.space e.ended).flush).advance false)
  | .joinNext => if e.isLast then (.quit 0 true, e) else (.next, e.flush.advance true)
  | .recall => (.next, { e with space := e.held })
  | .recallMore => (.next, { e with space := e.space ++ (10 : UInt8) :: e.held })
  | .keep => (.next, { e with held := e.space })
  | .keepMore => (.next, { e with held := e.held ++ (10 : UInt8) :: e.space })
  | .swap => (.next, { e with space := e.held, held := e.space })
  | .begin_ | .end_ | .label _ => (.next, e)
  | .branch name => (.jump (labelPlace edits name), e)
  | .branchIf name =>
    if e.replaced then (.jump (labelPlace edits name), { e with replaced := false }) else (.next, e)
  | .branchUnless name =>
    if e.replaced then (.next, { e with replaced := false }) else (.jump (labelPlace edits name), e)

/-- The edits from a place on, until the cycle ends; at most `fuel` of them. -/
def runEdits (quiet : Bool) (edits : List Edit) : Nat → Nat → Editor → Course × Editor
  | 0, _, e => (.cycle true, e)
  | fuel + 1, place, e =>
    match edits[place]? with
    | none => (.cycle true, e)
    | some edit =>
      let (selected, e) := e.selects place edit.selection
      if selected != edit.negated then
        match perform quiet edits e place edit.action with
        | (.next, e) => runEdits quiet edits fuel (place + 1) e
        | (.jump place, e) => runEdits quiet edits fuel place e
        | r => r
      else
        match edit.action with
        | .begin_ => runEdits quiet edits fuel (blockEnd edits place) e
        | _ => runEdits quiet edits fuel (place + 1) e

/-- The end of a cycle. -/
def finish (quiet prints : Bool) (e : Editor) : Editor :=
  (if prints && !quiet then e.writeLine e.space e.ended else e).flush

/-- All cycles; `steps` bounds the edits of one of them. -/
def run (quiet : Bool) (edits : List Edit) (steps : Nat) : Nat → Editor → Nat × Editor
  | 0, e => (0, e)
  | fuel + 1, e =>
    match runEdits quiet edits steps 0 e with
    | (.quit status prints, e) => (status, e.finish quiet prints)
    | (.again, e) => run quiet edits steps fuel e.flush
    | (.cycle prints, e) =>
      let e := e.finish quiet prints
      if e.isLast then (0, e) else run quiet edits steps fuel { e.advance false with replaced := false }
    | (_, e) => (0, e)

end Editor

/-- A text through all edits: what is written, and the status. -/
def editText (quiet : Bool) (edits : List Edit) (text : Octets) : Octets × Nat :=
  let lines := (rawLines text).map fun l =>
    if l.getLast? = some 10 then (⟨l.dropLast, true⟩ : Line) else ⟨l, false⟩
  if lines.isEmpty then ([], 0)
  else
    let bound := (edits.length + 1) * (text.length + 8)
    let (status, e) := Editor.run quiet edits bound (2 * text.length + 2) (({ coming := lines : Editor }).advance false)
    (e.written.reverse.flatten, status)

/-! ## sed -/

/-- Why blocks are not closed as often as they are opened. -/
def blockFault? (edits : List Edit) : Option String :=
  let count (test : Action → Bool) : Nat := (edits.filter (test ·.action)).length
  let opened := count fun | .begin_ => true | _ => false
  let closed := count fun | .end_ => true | _ => false
  if opened < closed then some "unexpected `\x7d'"
  else if closed < opened then some "unmatched `\x7b'"
  else none

def sed : Tool := fun args j =>
  withOptions "sed" { flags := ['n', 'E', 'r', 'u', 's'], valued := ['e'] } 1 args j fun o =>
    let given := o.values 'e'
    match given, o.names with
    | [], [] => (some .failure, j.complain "Usage: sed [OPTION]... \x7bscript-only-if-no-other-script\x7d [input-file]...")
    | _, _ =>
      let script := "\n".intercalate (if given.isEmpty then o.names.take 1 else given)
      let names := if given.isEmpty then o.names.drop 1 else o.names
      let cs := (Utf8.encode script).map fun b => Char.ofNat b.toNat
      let refuse (place : Nat) (text : String) : Outcome × Job :=
        (some .failure, j.complain ("sed: -e expression #1, char " ++ toString place ++ ": " ++ text))
      match readEdits (o.has 'E' || o.has 'r') (cs.length + 1) cs with
      | .error e => refuse (cs.length - e.behind) e.text
      | .ok edits =>
        match blockFault? edits with
        | some text => refuse 0 text
        | none =>
          onEachFileOr (.code 2) "sed" names j fun contents j =>
            let (out, status) := editText (o.has 'n') edits (contents.flatMap (·.2))
            (some (.code status), j.write .output out)

end TopicShell.Program
