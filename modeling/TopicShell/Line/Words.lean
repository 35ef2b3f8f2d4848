/-!
# Words

A line is split into words at spaces, tabs, carriage returns and line feeds.  Single quotes keep
everything up to the next single quote; double quotes keep everything but a backslash before a
double quote or a backslash; outside of quotes a backslash keeps the next character.  Quoted and
unquoted pieces without a separator between them are one word, and a pair of quotes is a word even
when nothing stands in it.

`quote` writes one word so that `split` reads it back, and `join` writes a list of words.
-/

namespace TopicShell.Line

/-- Why a text cannot be split. -/
inductive SplitError where
  | openSingleQuote
  | openDoubleQuote
  | nothingEscaped
  deriving DecidableEq

def SplitError.message : SplitError → String
  | .openSingleQuote => "Unterminated single-quoted string"
  | .openDoubleQuote => "Unterminated double-quoted string"
  | .nothingEscaped => "No escaped character"

namespace Words

def isSeparator (c : Char) : Bool :=
  c = ' ' || c = '\t' || c = '\r' || c = '\n'

/-- Where the reader stands: between words, in an unquoted piece, within quotes, or right behind a
backslash. -/
inductive Mode where
  | gap
  | bare
  | single
  | double
  | escape
  | escapeInDouble
  deriving DecidableEq

/-- The mode that a character of an unquoted piece leads to, and what it adds to the word. -/
def Mode.ofBare (c : Char) : Mode × List Char :=
  if c = '\'' then (.single, [])
  else if c = '"' then (.double, [])
  else if c = '\\' then (.escape, [])
  else (.bare, [c])

/-- The words of a text; `word` holds the characters of the open word, last first. -/
def scan : Mode → List Char → List Char → Except SplitError (List (List Char))
  | .gap, _, [] => .ok []
  | .bare, word, [] => .ok [word.reverse]
  | .single, _, [] => .error .openSingleQuote
  | .double, _, [] => .error .openDoubleQuote
  | .escape, _, [] => .error .nothingEscaped
  | .escapeInDouble, _, [] => .error .nothingEscaped
  | .gap, _, c :: rest =>
    if isSeparator c then scan .gap [] rest
    else scan (Mode.ofBare c).1 (Mode.ofBare c).2 rest
  | .bare, word, c :: rest =>
    if isSeparator c then (scan .gap [] rest).map (word.reverse :: ·)
    else scan (Mode.ofBare c).1 ((Mode.ofBare c).2 ++ word) rest
  | .single, word, c :: rest =>
    if c = '\'' then scan .bare word rest else scan .single (c :: word) rest
  | .double, word, c :: rest =>
    if c = '"' then scan .bare word rest
    else if c = '\\' then scan .escapeInDouble word rest
    else scan .double (c :: word) rest
  | .escape, word, c :: rest => scan .bare (c :: word) rest
  | .escapeInDouble, word, c :: rest =>
    if c = '"' || c = '\\' then scan .double (c :: word) rest
    else scan .double (c :: '\\' :: word) rest

def split (text : String) : Except SplitError (List String) :=
  (scan .gap [] text.toList).map (·.map String.ofList)

/-! ## Writing words -/

/-- Characters that need no quotes: ASCII letters and digits and `-_@%+=:,./`. -/
def isPlain (c : Char) : Bool :=
  c.isAlphanum || c = '_' || c = '@' || c = '%' || c = '+' || c = '=' || c = ':' || c = ','
    || c = '.' || c = '/' || c = '-'

/-- A character within single quotes; a single quote leaves them and stands in double quotes. -/
def quoteChar (c : Char) : List Char :=
  if c = '\'' then ['\'', '"', '\'', '"', '\''] else [c]

def quote (word : List Char) : List Char :=
  if !word.isEmpty && word.all isPlain then word
  else '\'' :: (word.flatMap quoteChar ++ ['\''])

def quoteText (word : String) : String :=
  String.ofList (quote word.toList)

def join (words : List String) : String :=
  " ".intercalate (words.map quoteText)

example : scan .gap [] ['a', ' ', '\'', 'b', ' ', '\'', 'c'] = .ok [['a'], ['b', ' ', 'c']] := by
  rfl
example : scan .gap [] ['"', '\\', '"', '\\', 'x', '"'] = .ok [['"', '\\', 'x']] := by rfl
example : quote ['i', '\'', 's'] = ['\'', 'i', '\'', '"', '\'', '"', '\'', 's', '\''] := by decide
example : quote [] = ['\'', '\''] := by decide

end Words

end TopicShell.Line
