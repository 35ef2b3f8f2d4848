import TopicShell.Text.Integer
import TopicShell.Text.Utf8.Fault
import TopicShell.Yaml.Scalar
import TopicShell.Yaml.Token

/-!
# The tokens of a YAML text

A lexer goes over a text once.  It remembers the columns of the open block collections, how deep it
is inside brackets, and for each depth the token that may turn out to be a key: when a colon follows
on the same line, and not too far away, the key token is put in before it.
-/

namespace TopicShell.Yaml

/-- A token that may be a key: its number, where it starts, and whether it has to be one. -/
structure Candidate where
  place : Nat
  isRequired : Bool
  index : Nat
  line : Nat
  column : Nat

structure Lexer where
  cursor : Cursor
  tokens : Array Token := #[]
  /-- How many brackets are open. -/
  depth : Nat := 0
  /-- The columns of the open block collections, the innermost first. -/
  indents : List Nat := []
  /-- A key may start here. -/
  allowsKey : Bool := true
  /-- The candidates by the depth at which they stand. -/
  candidates : List (Nat × Candidate) := []

namespace Lexer

abbrev Step := Except Fault Lexer

def push (t : Token) (l : Lexer) : Lexer :=
  { l with tokens := l.tokens.push t }

def insert (place : Nat) (t : Token) (l : Lexer) : Lexer :=
  { l with tokens := (l.tokens.extract 0 place).push t ++ l.tokens.extract place l.tokens.size }

def advance (n : Nat) (l : Lexer) : Lexer :=
  { l with cursor := l.cursor.skip n }

def inFlow (l : Lexer) : Bool :=
  0 < l.depth

/-- A name can be continued with the character. -/
def isNamePart (c : Char) : Bool :=
  c.isAlphanum || c = '-' || c = '_'

/-! ## Keys and indentation -/

/-- Gives up the candidate of this depth. -/
def forget (l : Lexer) : Step :=
  if l.candidates.any fun e => e.1 = l.depth && e.2.isRequired then .error .malformed
  else .ok { l with candidates := l.candidates.filter fun e => e.1 ≠ l.depth }

/-- The farthest that a colon can be from the start of its key. -/
def keyReach : Nat := 1024

/-- Gives up the candidates that are on another line or too far away. -/
def forgetStale (l : Lexer) : Step :=
  let isStale := fun (e : Nat × Candidate) =>
    e.2.line ≠ l.cursor.line || keyReach < l.cursor.index - e.2.index
  if l.candidates.any fun e => isStale e && e.2.isRequired then .error .malformed
  else .ok { l with candidates := l.candidates.filter fun e => !isStale e }

/-- Takes the next token for a possible key. -/
def propose (l : Lexer) : Step :=
  if l.allowsKey then do
    let l ← l.forget
    let c := l.cursor
    let candidate := { place := l.tokens.size, isRequired := !l.inFlow && l.indents.head? = some c.column
                       index := c.index, line := c.line, column := c.column }
    pure { l with candidates := (l.depth, candidate) :: l.candidates }
  else .ok l

/-- Closes the block collections that are right of a column. -/
def closeTo (column : Option Nat) (l : Lexer) : Lexer :=
  if l.inFlow then l
  else
    let isClosed := fun i => column.all (· < i)
    let closed := (l.indents.takeWhile isClosed).length
    { l with indents := l.indents.drop closed, tokens := l.tokens ++ Array.replicate closed .blockEnd }

/-- Opens a block collection at a column that is right of all open ones. -/
def openAt (column place : Nat) (t : Token) (l : Lexer) : Lexer :=
  if l.indents.head?.all (· < column) then { l.insert place t with indents := column :: l.indents }
  else l

/-! ## Marks -/

def documentMark (t : Token) (l : Lexer) : Step := do
  let l ← (l.closeTo none).forget
  pure (({ l with allowsKey := false }.push t).advance 3)

def openFlow (t : Token) (l : Lexer) : Step := do
  let l ← l.propose
  pure (({ l with depth := l.depth + 1, allowsKey := true }.push t).advance 1)

def closeFlow (t : Token) (l : Lexer) : Step := do
  let l ← l.forget
  if !l.inFlow then throw .malformed
  pure (({ l with depth := l.depth - 1, allowsKey := false }.push t).advance 1)

def flowEntry (l : Lexer) : Step := do
  let l ← l.forget
  pure (({ l with allowsKey := true }.push .flowEntry).advance 1)

/-- The mark of an item or of a key; outside brackets it may open a collection. -/
def entryMark (opening mark : Token) (keyMayFollow : Bool) (l : Lexer) : Step := do
  if !l.inFlow && !l.allowsKey then throw .malformed
  let l := if l.inFlow then l else l.openAt l.cursor.column l.tokens.size opening
  let l ← l.forget
  pure (({ l with allowsKey := keyMayFollow }.push mark).advance 1)

/-- The colon before a value: what stood before it on the line is the key, or there is none. -/
def valueMark (l : Lexer) : Step :=
  match l.candidates.lookup l.depth with
  | some k =>
    let l := { l with candidates := l.candidates.filter fun e => e.1 ≠ l.depth }
    let l := l.insert k.place .key
    let l := if l.inFlow then l else l.openAt k.column k.place .blockMapping
    .ok (({ l with allowsKey := false }.push .value).advance 1)
  | none => l.entryMark .blockMapping .value !l.inFlow

/-! ## Directives -/

/-- The octets that a run of escapes in an address gives. -/
def escapedOctets : Nat → List Char → Option (Octets × List Char)
  | fuel + 1, '%' :: rest =>
    match Text.Escape.takeDigits 16 Text.Escape.hexValue? 2 0 rest with
    | (n, 2, after) => (escapedOctets fuel after).map fun (os, tail) => (UInt8.ofNat n :: os, tail)
    | _ => none
  | _, cs => some ([], cs)

def isUriPart (c : Char) : Bool :=
  isNamePart c || ";/?:@&=+$,.!~*'()[]%".toList.contains c

/-- The text of an address with its escapes read. -/
def uriText : Nat → List Char → Except Fault (List Char)
  | _, [] => .ok []
  | 0, _ => .ok []
  | fuel + 1, c :: rest =>
    if c = '%' then
      match escapedOctets (rest.length + 1) (c :: rest) with
      | some (os, after) =>
        match Text.Utf8.read os with
        | .ok s => (uriText fuel after).map (s.toList ++ ·)
        | .error _ => .error .malformed
      | none => .error .malformed
    else (uriText fuel rest).map (c :: ·)

/-- The address at a cursor; it is not empty. -/
def uri (c : Cursor) : Except Fault (String × Cursor) := do
  let (cs, after) := c.takeWhile isUriPart
  if cs.isEmpty then throw .malformed
  pure (String.ofList (← uriText cs.length cs), after)

/-- The short form of a common start of tags: one exclamation mark, or a name between two. -/
def handle (c : Cursor) : Except Fault (String × Cursor) :=
  match c.rest with
  | '!' :: rest =>
    let name := rest.takeWhile isNamePart
    if rest.head? = some ' ' then .ok ("!", c.step)
    else if rest[name.length]? = some '!' then
      .ok (String.ofList ('!' :: name ++ ['!']), c.skip (name.length + 2))
    else .error .malformed
  | _ => .error .malformed

def number (c : Cursor) : Except Fault (Nat × Cursor) := do
  let (ds, after) := c.takeWhile Char.isDigit
  if ds.isEmpty then throw .malformed
  pure (Text.Integer.value (ds.filterMap Text.asciiDigit?), after)

def versionValue (c : Cursor) : Except Fault (Directive × Cursor) := do
  let (major, c) ← number c.skipSpaces
  if !c.isAt '.' then throw .malformed
  let (_, c) ← number c.step
  if !c.atSpaceOrEnd then throw .malformed
  pure (.version major, c)

def handleValue (c : Cursor) : Except Fault (Directive × Cursor) := do
  let (name, c) ← handle c.skipSpaces
  if !c.isAt ' ' then throw .malformed
  let (start, c) ← uri c.skipSpaces
  if !c.atSpaceOrEnd then throw .malformed
  pure (.handle name start, c)

def directive (l : Lexer) : Step := do
  let l ← (l.closeTo none).forget
  let (name, c) := l.cursor.step.takeWhile isNamePart
  if name.isEmpty || !c.atSpaceOrEnd then throw .malformed
  let (d, c) ← match String.ofList name with
    | "YAML" => versionValue c
    | "TAG" => handleValue c
    | _ => pure (.other, c.skipLine)
  let c := c.skipSpaces
  let c := if c.isAt '#' then c.skipLine else c
  if !c.atEndOfLine then throw .malformed
  pure ({ l with allowsKey := false, cursor := c.step }.push (.directive d))

/-! ## Properties and scalars -/

/-- A character that may follow the name of an anchor. -/
def endsName (c : Char) : Bool :=
  isGap c || "?:,]\x7d%@\x60".toList.contains c

/-- The name of an anchor or of an alias, after its mark. -/
def named (token : String → Token) (l : Lexer) : Step := do
  let l ← l.propose
  let (name, c) := l.cursor.step.takeWhile isNamePart
  if name.isEmpty || !c.peek.all endsName then throw .malformed
  pure ({ l with allowsKey := false, cursor := c }.push (token (String.ofList name)))

/-- The word from a tag's mark on holds a second mark. -/
def hasHandle (c : Cursor) : Bool :=
  (c.step.rest.takeWhile fun x => !(x = ' ' || isBreak x)).contains '!'

/-- The two parts of a tag, and the cursor behind it. -/
def tagParts (c : Cursor) : Except Fault (Option String × String × Cursor) := do
  if c.rest[1]? = some '<' then
    let (suffix, c) ← uri (c.skip 2)
    if !c.isAt '>' then throw .malformed
    pure (none, suffix, c.step)
  else if c.gapAt 1 then pure (none, "!", c.step)
  else
    let (name, c) ← if hasHandle c then handle c else pure ("!", c.step)
    let (suffix, c) ← uri c
    pure (some name, suffix, c)

def tag (l : Lexer) : Step := do
  let l ← l.propose
  let (name, suffix, c) ← tagParts l.cursor
  if !c.atSpaceOrEnd then throw .malformed
  pure ({ l with allowsKey := false, cursor := c }.push (.tag name suffix))

def blockScalar (folds : Bool) (l : Lexer) : Step := do
  let l ← l.forget
  let (text, c) ← Yaml.blockScalar folds l.indents.head? l.cursor.step
  pure ({ l with allowsKey := true, cursor := c }.push (.scalar false (String.ofList text)))

def quotedScalar (l : Lexer) : Step := do
  let l ← l.propose
  let (text, c) ← Yaml.quotedScalar l.cursor
  pure ({ l with allowsKey := false, cursor := c }.push (.scalar false (String.ofList text)))

def plainScalar (l : Lexer) : Step := do
  let l ← l.propose
  let indent := match l.indents.head? with
    | some column => column + 1
    | none => 0
  let (text, c, broke) := Yaml.plainScalar l.inFlow indent l.cursor
  pure ({ l with allowsKey := broke, cursor := c }.push (.scalar true (String.ofList text)))

/-- A plain scalar can start with the character, if the next one is a gap or not. -/
def startsPlain (inFlow gapFollows : Bool) (c : Char) : Bool :=
  !(isGap c || "-?:,[]\x7b\x7d#&*!|>'\"%@\x60".toList.contains c)
    || (!gapFollows && (c = '-' || (!inFlow && (c = '?' || c = ':'))))

/-! ## One token after the other -/

/-- Goes on to the next token: over spaces, comments and ends of lines. -/
def skipGap : Nat → Lexer → Lexer
  | 0, l => l
  | fuel + 1, l =>
    let c := l.cursor.skipSpaces
    let c := if c.isAt '#' then c.skipLine else c
    match c.peek with
    | some x =>
      if isBreak x then
        skipGap fuel { l with cursor := c.step, allowsKey := l.allowsKey || !l.inFlow }
      else { l with cursor := c }
    | none => { l with cursor := c }

/-- The token that starts with a character. -/
def token (x : Char) (l : Lexer) : Step :=
  let c := l.cursor
  let gapFollows := c.gapAt 1
  if x = '%' && c.column = 0 then l.directive
  else if c.column = 0 && c.atMark '-' then l.documentMark .documentStart
  else if c.column = 0 && c.atMark '.' then l.documentMark .documentEnd
  else if x = '[' then l.openFlow .flowSequence
  else if x = '\x7b' then l.openFlow .flowMapping
  else if x = ']' then l.closeFlow .flowSequenceEnd
  else if x = '\x7d' then l.closeFlow .flowMappingEnd
  else if x = ',' then l.flowEntry
  else if x = '-' && gapFollows then l.entryMark .blockSequence .blockEntry true
  else if x = '?' && (l.inFlow || gapFollows) then l.entryMark .blockMapping .key !l.inFlow
  else if x = ':' && (l.inFlow || gapFollows) then l.valueMark
  else if x = '*' then l.named .alias
  else if x = '&' then l.named .anchor
  else if x = '!' then l.tag
  else if x = '|' && !l.inFlow then l.blockScalar false
  else if x = '>' && !l.inFlow then l.blockScalar true
  else if x = '\'' || x = '"' then l.quotedScalar
  else if startsPlain l.inFlow gapFollows x then l.plainScalar
  else .error .malformed

/-- All tokens that are left; every round but the last takes a character at least. -/
def run : Nat → Lexer → Except Fault (Array Token)
  | 0, _ => .error .malformed
  | fuel + 1, l => do
    let l ← (l.skipGap (l.cursor.rest.length + 1)).forgetStale
    match l.cursor.peek with
    | none => pure (← (l.closeTo none).forget).tokens
    | some x => run fuel (← (l.closeTo (some l.cursor.column)).token x)

end Lexer

/-- The tokens of a text. -/
def tokens (cs : List Char) : Except Fault (List Token) :=
  if cs.all isAllowed then
    let cursor : Cursor := { rest := cs }
    let cursor := if cursor.isAt byteOrderMark then cursor.step else cursor
    (Lexer.run (cs.length + 1) { cursor }).map Array.toList
  else .error .malformed

end TopicShell.Yaml
