import TopicShell.Number.Real
import TopicShell.Template.Error
import TopicShell.Text.Word

/-!
# Tokens of a template

A template is text with tags in it: `{{ }}` prints, `{% %}` states, `{# #}` is a comment, and
between `{% raw %}` and `{% endraw %}` nothing is a tag.  A `-` inside a delimiter strips the white
space on its side.  Tokens are scanned from left to right; the first error is the last token, so
that a parser that stops earlier never sees it.
-/

namespace TopicShell.Template

open TopicShell.Number

inductive TokenKind where
  | data (text : String)
  | printBegin
  | printEnd
  | blockBegin
  | blockEnd
  | name (word : String)
  | text (value : String)
  | integer (value : Nat)
  | real (value : Float)
  | operator (text : String)
  | fault (cause : ParseError)

structure Token where
  kind : TokenKind
  line : Nat

/-- What a message calls a token. -/
def TokenKind.description : TokenKind → String
  | data _ => "template data / text"
  | printBegin => "begin of print statement"
  | printEnd => "end of print statement"
  | blockBegin => "begin of statement block"
  | blockEnd => "end of statement block"
  | name word => word
  | text _ => "string"
  | integer _ => "integer"
  | real _ => "float"
  | operator t => t
  | fault _ => ""

/-! ## Preparing the text -/

/-- All line ends as line feeds. -/
def unifyLines : List Char → List Char
  | '\r' :: '\n' :: rest => '\n' :: unifyLines rest
  | '\r' :: rest => '\n' :: unifyLines rest
  | c :: rest => c :: unifyLines rest
  | [] => []

/-- A line feed at the end does not belong to the template. -/
def prepare (s : String) : List Char :=
  let cs := unifyLines s.toList
  if cs.getLast? = some '\n' then cs.dropLast else cs

/-! ## Inside a tag -/

def isSpace (c : Char) : Bool :=
  Text.isBlank c

/-- Digits with single underscores between them, at the front of a text. -/
def takeDigitRun (cs : List Char) : List Nat × List Char :=
  takeNumber Text.digitValue? cs

/-- A number with a fraction or an exponent. -/
def takeReal? (cs : List Char) : Option (Float × List Char) :=
  match takeDigitRun cs with
  | ([], _) => none
  | (whole, rest) =>
    let (fraction, more) := match rest with
      | '.' :: after =>
        match takeDigitRun after with
        | ([], _) => ([], rest)
        | (ds, after) => (ds, after)
      | _ => ([], rest)
    let (e, after) := takeExponent Text.digitValue? more
    if fraction.isEmpty && after.length = more.length then none
    else
      some (realOfDecimal false ⟨Text.Integer.value (whole ++ fraction), e - fraction.length⟩, after)

/-- Digits of a base, each with at most one underscore before it. -/
def takeBased (base : Nat) : Nat → List Char → Option (Nat × List Char)
  | n, '_' :: c :: rest =>
    match Text.Escape.hexValue? c with
    | some d =>
      if d < base then some ((takeBased base (base * n + d) rest).getD (base * n + d, rest)) else none
    | none => none
  | n, c :: rest =>
    match Text.Escape.hexValue? c with
    | some d =>
      if d < base then some ((takeBased base (base * n + d) rest).getD (base * n + d, rest)) else none
    | none => none
  | _, [] => none

/-- The longest run of zeros, each with at most one underscore before it. -/
def dropZeros : List Char → List Char
  | '_' :: '0' :: rest => dropZeros rest
  | '0' :: rest => dropZeros rest
  | rest => rest

/-- A whole number: with a mark for its base, or decimal without a leading zero. -/
def takeInteger? : List Char → Option (Nat × List Char)
  | '0' :: c :: rest =>
    let zeros := (0, dropZeros (c :: rest))
    let based := match c.toLower with
      | 'b' => takeBased 2 0 rest
      | 'o' => takeBased 8 0 rest
      | 'x' => takeBased 16 0 rest
      | _ => none
    some (based.getD zeros)
  | ['0'] => some (0, [])
  | c :: rest =>
    if '1' ≤ c && c ≤ '9' then
      let (ds, after) := takeDigitRun (c :: rest)
      some (Text.Integer.value ds, after)
    else none
  | [] => none

/-- What stands before the closing quote, and what follows it. -/
def takeQuoted? (q : Char) : List Char → Option (List Char × List Char)
  | '\\' :: c :: rest => (takeQuoted? q rest).map fun r => ('\\' :: c :: r.1, r.2)
  | c :: rest =>
    if c = q then some ([], rest)
    else if c = '\\' then none
    else (takeQuoted? q rest).map fun r => (c :: r.1, r.2)
  | [] => none

/-- The value of a quoted text. -/
def textToken (cs : List Char) : TokenKind :=
  match Text.Escape.decode (Text.Escape.spellOut 0x80 cs) with
  | .ok value => .text (String.ofList value)
  | .error e => .fault (.escape e.reason)

def nameToken (cs : List Char) : TokenKind :=
  if Text.isIdentifier cs then .name (String.ofList cs) else .fault .identifier

/-- The operators, longer ones first. -/
def operators : List String :=
  ["//", "**", "==", "!=", ">=", "<=", "+", "-", "/", "*", "%", "~", "[", "]", "(", ")", "\x7b",
    "\x7d", ">", "<", "=", ".", ":", "|", ",", ";"]

def takeOperator? (cs : List Char) : Option String :=
  operators.find? fun o => o.toList.isPrefixOf cs

/-- The closing brackets that are waited for, after an operator. -/
def balance (stack : List Char) (operator : String) : Except ParseError (List Char) :=
  match operator.toList with
  | ['\x7b'] => .ok ('\x7d' :: stack)
  | ['('] => .ok (')' :: stack)
  | ['['] => .ok (']' :: stack)
  | [c] =>
    if c = '\x7d' || c = ')' || c = ']' then
      match stack with
      | [] => .error (.unopened c)
      | e :: rest => if e = c then .ok rest else .error (.mismatched c e)
    else .ok stack
  | _ => .ok stack

inductive TagKind where
  | print
  | block
  deriving DecidableEq

def TagKind.opening : TagKind → TokenKind
  | print => .printBegin
  | block => .blockBegin

def TagKind.closing : TagKind → TokenKind
  | print => .printEnd
  | block => .blockEnd

/-- What follows the end of a tag, if the tag ends here. -/
def TagKind.close? : TagKind → List Char → Option (List Char)
  | print, '-' :: '\x7d' :: '\x7d' :: rest => some (rest.dropWhile isSpace)
  | print, '\x7d' :: '\x7d' :: rest => some rest
  | block, '-' :: '%' :: '\x7d' :: rest => some (rest.dropWhile isSpace)
  | block, '+' :: '%' :: '\x7d' :: rest => some rest
  | block, '%' :: '\x7d' :: rest => some rest
  | _, _ => none

/-! ## Between the tags -/

/-- The sign at the front of what stands in a tag. -/
def dropSign : List Char → Bool × List Char
  | '-' :: rest => (true, rest)
  | '+' :: rest => (false, rest)
  | rest => (false, rest)

/-- What follows the rest of a block tag that holds one word. -/
def wordTag? (word : String) (cs : List Char) : Option (List Char) :=
  let cs := cs.dropWhile isSpace
  if word.toList.isPrefixOf cs then TagKind.block.close? ((cs.drop word.length).dropWhile isSpace)
  else none

inductive Opening where
  | tag (kind : TagKind)
  | comment
  | raw
  deriving DecidableEq

/-- The delimiter at the front of a text: its kind, whether it strips, and what follows. -/
def opening? : List Char → Option (Opening × Bool × List Char)
  | '\x7b' :: '\x7b' :: rest => let (strips, rest) := dropSign rest; some (.tag .print, strips, rest)
  | '\x7b' :: '#' :: rest => let (strips, rest) := dropSign rest; some (.comment, strips, rest)
  | '\x7b' :: '%' :: rest =>
    let (strips, rest) := dropSign rest
    match wordTag? "raw" rest with
    | some after => some (.raw, strips, after)
    | none => some (.tag .block, strips, rest)
  | _ => none

/-- The text up to the first delimiter, and the delimiter. -/
def cutOpening : List Char → List Char × Option (Opening × Bool × List Char)
  | [] => ([], none)
  | c :: rest =>
    match opening? (c :: rest) with
    | some o => ([], some o)
    | none =>
      let (before, o) := cutOpening rest
      (c :: before, o)

/-- What follows the end of a comment. -/
def afterComment? : List Char → Option (List Char)
  | '-' :: '#' :: '\x7d' :: rest => some (rest.dropWhile isSpace)
  | '#' :: '\x7d' :: rest => some rest
  | _ :: rest => afterComment? rest
  | [] => none

/-- The text up to the end of raw text, whether that end strips, and what follows. -/
def cutRaw? : List Char → Option (List Char × Bool × List Char)
  | [] => none
  | c :: rest =>
    let stop := match c :: rest with
      | '\x7b' :: '%' :: more =>
        let (strips, more) := dropSign more
        (wordTag? "endraw" more).map (strips, ·)
      | _ => none
    match stop with
    | some (strips, after) => some ([], strips, after)
    | none => (cutRaw? rest).map fun (before, strips, after) => (c :: before, strips, after)

def stripped (strips : Bool) (cs : List Char) : List Char :=
  if strips then Text.trimRight isSpace cs else cs

/-- Text without characters is no token. -/
def dataTokens (cs : List Char) (line : Nat) : List Token :=
  if cs.isEmpty then [] else [⟨.data (String.ofList cs), line⟩]

/-! ## The scan -/

/-- Between the tags, or inside one with the closing brackets that are waited for. -/
inductive ScanState where
  | outside
  | inside (kind : TagKind) (stack : List Char)

/-- One step of the scan inside a tag: the token, the next state, and what follows. -/
def stepInside (kind : TagKind) (stack : List Char) (previous : Option Char) (position : Nat)
    (cs : List Char) : Option TokenKind × ScanState × List Char :=
  match if stack.isEmpty then kind.close? cs else none with
  | some rest => (some kind.closing, .outside, rest)
  | none =>
    match cs with
    | [] => (none, .outside, [])
    | c :: more =>
      if isSpace c then (none, .inside kind stack, more.dropWhile isSpace)
      else match if previous = some '.' then none else takeReal? cs with
        | some (x, rest) => (some (.real x), .inside kind stack, rest)
        | none =>
          match takeInteger? cs with
          | some (n, rest) => (some (.integer n), .inside kind stack, rest)
          | none =>
            if Text.isWordChar c then
              (some (nameToken (cs.takeWhile Text.isWordChar)), .inside kind stack,
                cs.dropWhile Text.isWordChar)
            else match if c = '\'' || c = '"' then takeQuoted? c more else none with
              | some (value, rest) => (some (textToken value), .inside kind stack, rest)
              | none =>
                match takeOperator? cs with
                | some o =>
                  match balance stack o with
                  | .ok stack => (some (.operator o), .inside kind stack, cs.drop o.length)
                  | .error e => (some (.fault e), .outside, [])
                | none => (some (.fault (.character c position)), .outside, [])

/-- One step of the scan between the tags. -/
def stepOutside (line : Nat) (cs : List Char) : List Token × ScanState × List Char :=
  match cutOpening cs with
  | (data, none) => (dataTokens data line, .outside, [])
  | (data, some (o, strips, rest)) =>
    let here := line + data.count '\n'
    let data := dataTokens (stripped strips data) line
    match o with
    | .tag kind => (data ++ [⟨kind.opening, here⟩], .inside kind [], rest)
    | .comment =>
      match afterComment? rest with
      | some after => (data, .outside, after)
      | none => (data ++ (if rest.isEmpty then [] else [⟨.fault .openComment, here⟩]), .outside, [])
    | .raw =>
      match cutRaw? rest with
      | some (inner, strips, after) =>
        (data ++ dataTokens (stripped strips inner) here, .outside, after)
      | none => (data ++ (if rest.isEmpty then [] else [⟨.fault .openRaw, here⟩]), .outside, [])

/-- Scans a text; each step takes at least one character. -/
def scanFrom : Nat → ScanState → Option Char → Nat → Nat → List Char → List Token
  | 0, _, _, _, _, _ => []
  | _, _, _, _, _, [] => []
  | fuel + 1, state, previous, position, line, cs =>
    let (tokens, state, rest) := match state with
      | .outside => stepOutside line cs
      | .inside kind stack =>
        let (token, state, rest) := stepInside kind stack previous position cs
        (token.toList.map (⟨·, line⟩), state, rest)
    let taken := cs.take (cs.length - rest.length)
    tokens ++ scanFrom fuel state taken.getLast? (position + taken.length) (line + taken.count '\n') rest

def tokensOf (s : String) : List Token :=
  let cs := prepare s
  scanFrom (cs.length + 1) .outside none 0 1 cs

end TopicShell.Template
