/-!
# Places in a YAML text

A cursor is a text from some place on, with the place: its index, its line and its column.  The
columns decide about indentation.  Of the characters that end a line, two stand for themselves when
lines are joined and the others for a newline.
-/

namespace TopicShell.Yaml

def isBreak (c : Char) : Bool :=
  c = '\n' || c = '\x85' || c = '\u2028' || c = '\u2029'

/-- What the end of a line stands for. -/
def breakValue (c : Char) : Char :=
  if c = '\u2028' || c = '\u2029' then c else '\n'

/-- A character between words. -/
def isGap (c : Char) : Bool :=
  c = ' ' || c = '\t' || isBreak c

/-- The characters that a text may hold. -/
def isAllowed (c : Char) : Bool :=
  let n := c.toNat
  n == 9 || n == 10 || n == 13 || (0x20 ≤ n && n ≤ 0x7e) || n == 0x85 || (0xa0 ≤ n && n ≤ 0xd7ff)
    || (0xe000 ≤ n && n ≤ 0xfffd) || 0x10000 ≤ n

/-- A mark that takes no column. -/
def byteOrderMark : Char := '\uFEFF'

structure Cursor where
  rest : List Char
  index : Nat := 0
  line : Nat := 0
  column : Nat := 0

namespace Cursor

/-- Goes on by one character. -/
def step (c : Cursor) : Cursor :=
  match c.rest with
  | [] => c
  | x :: rest =>
    if isBreak x then ⟨rest, c.index + 1, c.line + 1, 0⟩
    else ⟨rest, c.index + 1, c.line, if x = byteOrderMark then c.column else c.column + 1⟩

def skip (n : Nat) (c : Cursor) : Cursor :=
  n.repeat step c

def peek (c : Cursor) : Option Char :=
  c.rest.head?

def isAt (x : Char) (c : Cursor) : Bool :=
  c.peek == some x

/-- At the place `n` there is a gap, or the text is over. -/
def gapAt (n : Nat) (c : Cursor) : Bool :=
  c.rest[n]?.all isGap

/-- The line or the text is over. -/
def atEndOfLine (c : Cursor) : Bool :=
  c.peek.all isBreak

/-- The line or the text is over, or there is a space. -/
def atSpaceOrEnd (c : Cursor) : Bool :=
  c.isAt ' ' || c.atEndOfLine

/-- The characters up to the first one that does not belong, and the cursor there. -/
def takeWhile (belongs : Char → Bool) (c : Cursor) : List Char × Cursor :=
  let run := c.rest.takeWhile belongs
  (run, c.skip run.length)

def skipSpaces (c : Cursor) : Cursor :=
  (c.takeWhile (· = ' ')).2

def skipLine (c : Cursor) : Cursor :=
  (c.takeWhile fun x => !isBreak x).2

/-- A marker of three characters stands here, and a gap after it. -/
def atMark (x : Char) (c : Cursor) : Bool :=
  [x, x, x].isPrefixOf c.rest && c.gapAt 3

/-- The start or the end of a document is marked here. -/
def atDocumentMark (c : Cursor) : Bool :=
  c.atMark '-' || c.atMark '.'

end Cursor

end TopicShell.Yaml
