import TopicShell.Text.Escape
import TopicShell.Yaml.Cursor
import TopicShell.Yaml.Fault

/-!
# Scalars of a YAML text

A plain scalar ends where something else begins, a quoted one at its quote, a block scalar where the
indentation ends.  Lines are joined by one rule: a single end of a line becomes a space, and of
several the first one disappears.
-/

namespace TopicShell.Yaml

/-- What joins two lines: the end of the first one, and the ends of the empty lines between them. -/
def joined (first : Char) (others : List Char) : List Char :=
  if first ≠ '\n' then first :: others else if others.isEmpty then [' '] else others

/-! ## Plain scalars -/

namespace Plain

/-- Inside brackets, the characters that have a meaning of their own. -/
def isFlowMark (c : Char) : Bool :=
  [',', '[', ']', '\x7b', '\x7d'].contains c

/-- The word at the front of a text. -/
def word (inFlow : Bool) : List Char → List Char
  | [] => []
  | c :: rest =>
    let followed := rest.head?.all fun x => isGap x || (inFlow && isFlowMark x)
    if isGap c || (c = ':' && followed) || (inFlow && (isFlowMark c || c = '?')) then []
    else c :: word inFlow rest

/-- The empty lines and the indentation after the end of a line: the ends of the empty lines, the
cursor behind them, and whether they stop at a mark of a document. -/
def emptyLines : Nat → Cursor → List Char × Cursor × Bool
  | 0, c => ([], c, false)
  | fuel + 1, c =>
    match c.peek with
    | none => ([], c, false)
    | some x =>
      if x = ' ' then emptyLines fuel c.step
      else if isBreak x then
        if c.step.atDocumentMark then ([breakValue x], c.step, true)
        else
          let (others, after, marked) := emptyLines fuel c.step
          (breakValue x :: others, after, marked)
      else ([], c, false)

/-- What stands between two words: the characters it stands for, the cursor behind it, and whether a
line ended. -/
def gap (c : Cursor) : List Char × Cursor × Bool :=
  let (spaces, c) := c.takeWhile (· = ' ')
  match c.peek with
  | none => (spaces, c, false)
  | some x =>
    if isBreak x then
      if c.step.atDocumentMark then ([], c.step, true)
      else
        let (others, after, marked) := emptyLines c.rest.length c.step
        (if marked then [] else joined (breakValue x) others, after, true)
    else (spaces, c, false)

/-- The words from a cursor on with the gaps between them, the cursor behind them, and whether a line
ended after the last word. -/
def words (inFlow : Bool) (indent : Nat) : Nat → Cursor → List Char → Bool → List Char × Cursor × Bool
  | 0, c, _, broke => ([], c, broke)
  | fuel + 1, c, pending, broke =>
    let w := if c.isAt '#' then [] else word inFlow c.rest
    if w.isEmpty then ([], c, broke)
    else
      let (between, after, broke) := gap (c.skip w.length)
      if between.isEmpty || after.isAt '#' || (!inFlow && after.column < indent) then
        (pending ++ w, after, broke)
      else
        let (more, after, broke) := words inFlow indent fuel after between broke
        (pending ++ w ++ more, after, broke)

end Plain

/-- A plain scalar whose lines are indented by `indent` columns. -/
def plainScalar (inFlow : Bool) (indent : Nat) (c : Cursor) : List Char × Cursor × Bool :=
  Plain.words inFlow indent (c.rest.length + 1) c [] false

/-! ## Quoted scalars -/

namespace Quoted

/-- The escapes of one character. -/
def short? : Char → Option Char
  | '0' => some '\x00'
  | 'a' => some '\x07'
  | 'b' => some '\x08'
  | 't' | '\t' => some '\t'
  | 'n' => some '\n'
  | 'v' => some '\x0b'
  | 'f' => some '\x0c'
  | 'r' => some '\r'
  | 'e' => some '\x1b'
  | ' ' => some ' '
  | '"' => some '"'
  | '\\' => some '\\'
  | '/' => some '/'
  | 'N' => some '\x85'
  | '_' => some '\xa0'
  | 'L' => some '\u2028'
  | 'P' => some '\u2029'
  | _ => none

/-- The number of digits of an escape by code. -/
def width? : Char → Option Nat
  | 'x' => some 2
  | 'u' => some 4
  | 'U' => some 8
  | _ => none

/-- The empty lines after the end of a line, with the white space around them. -/
def emptyLines : Nat → Cursor → Except Fault (List Char × Cursor)
  | 0, c => .ok ([], c)
  | fuel + 1, c =>
    if c.atDocumentMark then .error .malformed
    else
      let after := (c.takeWhile fun x => x = ' ' || x = '\t').2
      match after.peek with
      | none => .ok ([], after)
      | some x =>
        if isBreak x then (emptyLines fuel after.step).map fun (xs, c) => (breakValue x :: xs, c)
        else .ok ([], after)

/-- White space inside the quotes. -/
def gap (c : Cursor) : Except Fault (List Char × Cursor) :=
  let (spaces, after) := c.takeWhile fun x => x = ' ' || x = '\t'
  match after.peek with
  | none => .error .malformed
  | some x =>
    if isBreak x then
      (emptyLines after.rest.length after.step).map fun (others, c) => (joined (breakValue x) others, c)
    else .ok (spaces, after)

/-- An escape by code, after its letter. -/
def numbered (width : Nat) (c : Cursor) : Except Fault (List Char × Cursor) :=
  let (code, count, _) := Text.Escape.takeDigits 16 Text.Escape.hexValue? width 0 c.rest
  if count < width then .error .malformed
  else if 0x110000 ≤ code then .error (.noCharacter code)
  else .ok ([Char.ofNat code], c.skip width)

/-- An escape, after its backslash; the end of a line disappears. -/
def escape (c : Cursor) : Except Fault (List Char × Cursor) :=
  match c.peek with
  | none => .error .malformed
  | some x =>
    match short? x, width? x with
    | some y, _ => .ok ([y], c.step)
    | none, some width => numbered width c.step
    | none, none => if isBreak x then emptyLines c.rest.length c.step else .error .malformed

/-- The text up to the quote, and the cursor behind it. -/
def body (isDouble : Bool) : Nat → Cursor → Except Fault (List Char × Cursor)
  | 0, _ => .error .malformed
  | fuel + 1, c =>
    match c.rest with
    | [] => .error .malformed
    | x :: rest =>
      let piece : Except Fault (Option (List Char × Cursor)) :=
        if isGap x then (gap c).map some
        else if isDouble then
          if x = '"' then .ok none
          else if x = '\\' then (escape c.step).map some
          else .ok (some ([x], c.step))
        else if x = '\'' then
          .ok (if rest.head? = some '\'' then some ([x], c.skip 2) else none)
        else .ok (some ([x], c.step))
      match piece with
      | .error f => .error f
      | .ok none => .ok ([], c.step)
      | .ok (some (cs, after)) => (body isDouble fuel after).map fun (more, c) => (cs ++ more, c)

end Quoted

/-- A quoted scalar, at its first quote. -/
def quotedScalar (c : Cursor) : Except Fault (List Char × Cursor) :=
  Quoted.body (c.isAt '"') (c.rest.length + 1) c.step

/-! ## Block scalars -/

namespace Block

/-- What becomes of the ends of lines at the end of a block. -/
inductive Chomping where
  | strip
  | clip
  | keep
  deriving DecidableEq

def chomping? : Option Char → Option Chomping
  | some '+' => some .keep
  | some '-' => some .strip
  | _ => none

/-- An indentation that the header gives; it is not zero. -/
def increment? (c : Cursor) : Except Fault (Option Nat × Cursor) :=
  match c.peek with
  | some x =>
    if x = '0' then .error .malformed
    else if x.isDigit then .ok (some (x.toNat - 48), c.step)
    else .ok (none, c)
  | none => .ok (none, c)

/-- The header of a block up to the end of its line. -/
def header (c : Cursor) : Except Fault (Chomping × Option Nat × Cursor) := do
  let (chomping, increment, c) ← match chomping? c.peek with
    | some chomping => do
      let (increment, c) ← increment? c.step
      pure (chomping, increment, c)
    | none => do
      let (increment, c) ← increment? c
      match increment, chomping? c.peek with
      | some _, some chomping => pure (chomping, increment, c.step)
      | _, _ => pure (.clip, increment, c)
  if !c.atSpaceOrEnd then throw .malformed
  let c := c.skipSpaces
  let c := if c.isAt '#' then c.skipLine else c
  if !c.atEndOfLine then throw .malformed
  pure (chomping, increment, c.step)

/-- The empty lines at the front of a block that shows its own indentation: their ends, the widest
indentation among them, and the cursor behind them. -/
def leadingLines : Nat → Cursor → Nat → List Char × Nat × Cursor
  | 0, c, widest => ([], widest, c)
  | fuel + 1, c, widest =>
    match c.peek with
    | none => ([], widest, c)
    | some x =>
      if x = ' ' then leadingLines fuel c.step (max widest c.step.column)
      else if isBreak x then
        let (ends, widest, after) := leadingLines fuel c.step widest
        (breakValue x :: ends, widest, after)
      else ([], widest, c)

/-- Goes on over spaces, at most to a column. -/
def indentTo (indent : Nat) (c : Cursor) : Cursor :=
  c.skip (min (indent - c.column) (c.rest.takeWhile (· = ' ')).length)

/-- The empty lines inside a block, and the cursor where the next line starts. -/
def emptyLines (indent : Nat) : Nat → Cursor → List Char × Cursor
  | 0, c => ([], c)
  | fuel + 1, c =>
    let c := indentTo indent c
    match c.peek with
    | none => ([], c)
    | some x =>
      if isBreak x then
        let (ends, after) := emptyLines indent fuel c.step
        (breakValue x :: ends, after)
      else ([], c)

/-- The lines of a block: its text without its last end of a line, that end, the ends of the empty
lines behind it, and the cursor there. -/
def lines (folds : Bool) (indent : Nat) : Nat → Cursor → List Char → List Char × List Char × List Char × Cursor
  | 0, c, ends => ([], [], ends, c)
  | fuel + 1, c, ends =>
    if c.column = indent && c.peek.isSome then
      let indented := c.isAt ' ' || c.isAt '\t'
      let (line, c) := c.takeWhile fun x => !isBreak x
      let last := c.peek.toList.map breakValue
      let (next, c) := emptyLines indent (c.rest.length + 1) c.step
      if c.column = indent && c.peek.isSome then
        let folded := folds && last = ['\n'] && !indented && !(c.isAt ' ' || c.isAt '\t')
        let between := if !folded then last else if next.isEmpty then [' '] else []
        let (more, last, after, c) := lines folds indent fuel c next
        (ends ++ line ++ between ++ more, last, after, c)
      else (ends ++ line, last, next, c)
    else ([], [], ends, c)

end Block

/-- A block scalar after its mark; `outer` is the column that its lines are right of. -/
def blockScalar (folds : Bool) (outer : Option Nat) (c : Cursor) : Except Fault (List Char × Cursor) := do
  let (chomping, increment, c) ← Block.header c
  let least := match outer with
    | some column => column + 1
    | none => 0
  let least := max least 1
  let fuel := c.rest.length + 1
  let (indent, ends, c) := match increment with
    | some n =>
      let indent := least + n - 1
      let (ends, c) := Block.emptyLines indent fuel c
      (indent, ends, c)
    | none =>
      let (ends, widest, c) := Block.leadingLines fuel c 0
      (max least widest, ends, c)
  let (text, last, after, c) := Block.lines folds indent fuel c ends
  let tail := match chomping with
    | .strip => []
    | .clip => last
    | .keep => last ++ after
  pure (text ++ tail, c)

end TopicShell.Yaml
