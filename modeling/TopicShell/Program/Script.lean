import TopicShell.Text.Pieces

/-!
# Shell scripts

The language of `sh` as far as one-line filters need it: words with quotes and variables, lists,
pipelines, redirections, groups, conditions and loops.  `Script.parse` reads a script; a text that
is no script gives the reason.
-/

namespace TopicShell.Program

/-- A part of a word. -/
inductive Piece where
  | text (s : String) (quoted : Bool)
  | variable (name : String) (quoted : Bool)
  /-- A variable with a rule for the case that it has no value, or for cutting the value. -/
  | ruled (name rule word : String) (quoted : Bool)
  /-- What a script writes. -/
  | substitution (script : String) (quoted : Bool)
  | arithmetic (expression : String)
  deriving DecidableEq

abbrev ScriptWord := List Piece

inductive Redirection where
  | store (descriptor : Nat) (target : ScriptWord) (appends : Bool)
  | input (target : ScriptWord)
  | duplicate (descriptor source : Nat)
  deriving DecidableEq

inductive Script where
  | nothing
  | simple (assignments : List (String × ScriptWord)) (words : List ScriptWord)
      (redirections : List Redirection)
  | pipe (a b : Script)
  | sequence (a b : Script)
  | both (a b : Script)
  | either (a b : Script)
  | negate (a : Script)
  | group (body : Script) (subshell : Bool) (redirections : List Redirection)
  | cond (test yes no : Script)
  | loop (test body : Script)
  | each (name : String) (words : List ScriptWord) (body : Script)
  /-- Sets the subject of the branches behind it. -/
  | subject (word : ScriptWord) (branches : Script)
  | branch (patterns : List ScriptWord) (body otherwise : Script)
  | define (name : String) (body : Script)
  | background (a : Script)

/-! ## Tokens -/

inductive Token where
  | word (pieces : ScriptWord)
  | operator (text : String)
  deriving DecidableEq

namespace Token

def isNameStart (c : Char) : Bool :=
  c.isAlpha || c = '_'

def isNameChar (c : Char) : Bool :=
  c.isAlphanum || c = '_'

/-- What stands before the bracket that closes an open one, and what follows it; `depth` more are
open, and `quote` is the quote that is open. -/
def insideBrackets (opening closing : Char) : Nat → Option Char → List Char → Option (List Char × List Char)
  | _, _, [] => none
  | depth, some q, c :: rest =>
    (insideBrackets opening closing depth (if c = q then none else some q) rest).map fun (part, rest) =>
      (c :: part, rest)
  | depth, none, c :: rest =>
    let go (depth : Nat) (quote : Option Char) : Option (List Char × List Char) :=
      (insideBrackets opening closing depth quote rest).map fun (part, rest) => (c :: part, rest)
    if c = '\'' || c = '"' then go depth (some c)
    else if c = opening then go (depth + 1) none
    else if c = closing then
      match depth with
      | 0 => some ([], rest)
      | depth + 1 => go depth none
    else go depth none

/-- What stands before the next backquote, and what follows it; a backslash keeps it from closing. -/
def insideBackquotes : List Char → Option (List Char × List Char)
  | [] => none
  | '`' :: rest => some ([], rest)
  | '\\' :: c :: rest =>
    (insideBackquotes rest).map fun (part, rest) =>
      (if c = '`' || c = '\\' || c = '$' then c :: part else '\\' :: c :: part, rest)
  | c :: rest => (insideBackquotes rest).map fun (part, rest) => (c :: part, rest)

def isSpecialName (c : Char) : Bool :=
  c.isDigit || c = '@' || c = '*' || c = '#' || c = '?' || c = '$' || c = '!'

/-- The rule that asks for the length of a value. -/
def lengthRule : String := "length"

/-- A variable between braces, perhaps with its length asked for or with a rule behind its name. -/
def braced (quoted : Bool) (inside : List Char) : Piece :=
  match inside with
  | '#' :: c :: rest => .ruled (String.ofList (c :: rest)) lengthRule "" quoted
  | _ =>
    let name := if inside.head?.any isNameStart then inside.takeWhile isNameChar
      else if inside.head?.any Char.isDigit then inside.takeWhile Char.isDigit
      else inside.take 1
    let after := inside.drop name.length
    let name := String.ofList name
    let rules := [":-", ":=", ":+", ":?", "-", "=", "+", "?", "##", "#", "%%", "%"]
    match rules.find? fun r => r.toList.isPrefixOf after with
    | some r => .ruled name r (String.ofList (after.drop r.length)) quoted
    | none => .variable name quoted

/-- What a dollar sign begins, and the rest; before anything else the sign stands for itself. -/
def dollar (quoted : Bool) (cs : List Char) : Option (Piece × List Char) :=
  match cs with
  | '\x7b' :: rest =>
    (insideBrackets '\x7b' '\x7d' 0 none rest).map fun (inside, rest) => (braced quoted inside, rest)
  | '(' :: '(' :: rest =>
    (insideBrackets '(' ')' 1 none rest).map fun (inside, rest) =>
      (.arithmetic (String.ofList inside.dropLast), rest)
  | '(' :: rest =>
    (insideBrackets '(' ')' 0 none rest).map fun (inside, rest) =>
      (.substitution (String.ofList inside) quoted, rest)
  | c :: rest =>
    if isNameStart c then
      let name := cs.takeWhile isNameChar
      some (.variable (String.ofList name) quoted, cs.drop name.length)
    else if isSpecialName c then some (.variable c.toString quoted, rest)
    else some (.text "$" quoted, cs)
  | [] => some (.text "$" quoted, [])

/-- The pieces of a double-quoted part, and what follows its closing quote. -/
def doubleQuoted : Nat → List Char → Option (ScriptWord × List Char)
  | 0, _ => none
  | _, [] => none
  | _, '"' :: rest => some ([.text "" true], rest)
  | fuel + 1, '\\' :: c :: rest =>
    let kept := if c = '"' || c = '\\' || c = '$' || c = '`' then c.toString
      else if c = '\n' then "" else "\\" ++ c.toString
    (doubleQuoted fuel rest).map fun (ps, rest) => (.text kept true :: ps, rest)
  | fuel + 1, '$' :: rest =>
    match dollar true rest with
    | some (p, rest) => (doubleQuoted fuel rest).map fun (ps, rest) => (p :: ps, rest)
    | none => none
  | fuel + 1, '`' :: rest =>
    match insideBackquotes rest with
    | some (script, rest) =>
      (doubleQuoted fuel rest).map fun (ps, rest) =>
        (.substitution (String.ofList script) true :: ps, rest)
    | none => none
  | fuel + 1, c :: rest =>
    (doubleQuoted fuel rest).map fun (ps, rest) => (.text c.toString true :: ps, rest)

def isOperatorChar (c : Char) : Bool :=
  c = ';' || c = '&' || c = '|' || c = '<' || c = '>' || c = '(' || c = ')' || c = '\n'

def endsWord (c : Char) : Bool :=
  c = ' ' || c = '\t' || isOperatorChar c

/-- The pieces of a word, and what follows it; a `whole` text is one word. -/
def readWord (whole : Bool) : Nat → List Char → Option (ScriptWord × List Char)
  | 0, _ => none
  | _, [] => some ([], [])
  | fuel + 1, '\'' :: rest =>
    match Text.cut '\'' rest with
    | (inside, some rest) =>
      (readWord whole fuel rest).map fun (ps, rest) => (.text (String.ofList inside) true :: ps, rest)
    | (_, none) => none
  | fuel + 1, '"' :: rest =>
    match doubleQuoted (fuel + 1) rest with
    | some (ps, rest) => (readWord whole fuel rest).map fun (qs, rest) => (ps ++ qs, rest)
    | none => none
  | fuel + 1, '\\' :: c :: rest =>
    let kept := if c = '\n' then "" else c.toString
    (readWord whole fuel rest).map fun (ps, rest) => (.text kept true :: ps, rest)
  | fuel + 1, '$' :: rest =>
    match dollar false rest with
    | some (p, rest) => (readWord whole fuel rest).map fun (ps, rest) => (p :: ps, rest)
    | none => none
  | fuel + 1, '`' :: rest =>
    match insideBackquotes rest with
    | some (script, rest) =>
      (readWord whole fuel rest).map fun (ps, rest) => (.substitution (String.ofList script) false :: ps, rest)
    | none => none
  | fuel + 1, c :: rest =>
    if !whole && endsWord c then some ([], c :: rest)
    else (readWord whole fuel rest).map fun (ps, rest) => (.text c.toString false :: ps, rest)

def operators : List String :=
  ["&&", "||", ";;", ">>", ">&", "<&", ";", "&", "|", "<", ">", "(", ")", "\n"]

def tokens : Nat → List Char → Option (List Token)
  | 0, _ => none
  | _, [] => some []
  | fuel + 1, c :: rest =>
    if c = ' ' || c = '\t' then tokens fuel rest
    else if c = '#' then tokens fuel (rest.dropWhile (· ≠ '\n'))
    else if isOperatorChar c then
      match operators.find? fun o => o.toList.isPrefixOf (c :: rest) with
      | some o => (tokens fuel ((c :: rest).drop o.length)).map (.operator o :: ·)
      | none => none
    else
      match readWord false (rest.length + 2) (c :: rest) with
      | some (ps, after) =>
        match c.isDigit, ps, after with
        | true, [.text d _], '>' :: _ =>
          (tokens fuel after).map (.operator ("#" ++ d) :: ·)
        | _, _, _ => (tokens fuel after).map (.word ps :: ·)
      | none => none

end Token

/-! ## Grammar -/

namespace Script

/-- The text of a word that is written without quotes and variables. -/
def plain? (w : ScriptWord) : Option String :=
  w.foldr (fun p acc =>
    match p, acc with
    | .text s false, some t => some (s ++ t)
    | _, _ => none) (some "")

/-- An assignment in front of a command. -/
def assignment? (w : ScriptWord) : Option (String × ScriptWord) :=
  let name := w.takeWhile fun p => match p with
    | .text s false => s ≠ "="
    | _ => false
  match w.drop name.length with
  | .text "=" false :: value =>
    match plain? name with
    | some n =>
      if n.toList.head?.any Token.isNameStart && n.toList.all Token.isNameChar then some (n, value)
      else none
    | none => none
  | _ => none

def keyword? : List Token → Option String
  | .word w :: _ => plain? w
  | _ => none

def isReserved (s : String) : Bool :=
  ["then", "else", "elif", "fi", "do", "done", "esac", "\x7d"].contains s

def skipLines : List Token → List Token
  | .operator "\n" :: rest => skipLines rest
  | ts => ts

def number (s : String) : Nat :=
  s.toNat?.getD 1

/-- A redirection at the front. -/
def redirection? : List Token → Option (Redirection × List Token)
  | .operator ">" :: .word w :: rest => some (.store 1 w false, rest)
  | .operator ">>" :: .word w :: rest => some (.store 1 w true, rest)
  | .operator ">&" :: .word w :: rest =>
    match (plain? w).bind String.toNat? with
    | some n => some (.duplicate 1 n, rest)
    | none => none
  | .operator "<" :: .word w :: rest => some (.input w, rest)
  | .operator "<&" :: .word w :: rest => ((plain? w).bind String.toNat?).map fun n => (.duplicate 0 n, rest)
  | .operator d :: .operator ">" :: .word w :: rest =>
    if d.startsWith "#" then some (.store (number (String.ofList (d.toList.drop 1))) w false, rest) else none
  | .operator d :: .operator ">>" :: .word w :: rest =>
    if d.startsWith "#" then some (.store (number (String.ofList (d.toList.drop 1))) w true, rest) else none
  | .operator d :: .operator ">&" :: .word w :: rest =>
    match (plain? w).bind String.toNat? with
    | some n =>
      if d.startsWith "#" then some (.duplicate (number (String.ofList (d.toList.drop 1))) n, rest) else none
    | none => none
  | _ => none

def redirections : Nat → List Token → List Redirection × List Token
  | 0, ts => ([], ts)
  | fuel + 1, ts =>
    match redirection? ts with
    | some (r, rest) =>
      let (more, rest) := redirections fuel rest
      (r :: more, rest)
    | none => ([], ts)

/-- The words and redirections of a simple command. -/
def simpleParts : Nat → List Token → List ScriptWord × List Redirection × List Token
  | 0, ts => ([], [], ts)
  | fuel + 1, ts =>
    match redirection? ts with
    | some (r, rest) =>
      let (ws, rs, rest) := simpleParts fuel rest
      (ws, r :: rs, rest)
    | none =>
      match ts with
      | .word w :: rest =>
        let (ws, rs, rest) := simpleParts fuel rest
        (w :: ws, rs, rest)
      | _ => ([], [], ts)

def assignments : List ScriptWord → List (String × ScriptWord) × List ScriptWord
  | [] => ([], [])
  | w :: ws =>
    match assignment? w with
    | some a =>
      let (more, ws) := assignments ws
      (a :: more, ws)
    | none => ([], w :: ws)

def takeKeyword (k : String) (ts : List Token) : Option (List Token) :=
  if keyword? ts = some k then some ts.tail else none

/-- A command with the redirections behind it. -/
def withRedirections (subshell : Bool) (body : Script) (ts : List Token) : Script × List Token :=
  let (rs, rest) := redirections ts.length ts
  (.group body subshell rs, rest)

/-- Joins a command to a list of conditions, which bind to the left. -/
def attach (join : Script → Script → Script) (a : Script) : Script → Script
  | .both b c => .both (attach join a b) c
  | .either b c => .either (attach join a b) c
  | b => join a b

/-- The words that a loop goes through; without a list these are the arguments. -/
def loopWords (ts : List Token) : List ScriptWord × List Token :=
  match takeKeyword "in" ts with
  | some rest =>
    let (ws, _, rest) := simpleParts rest.length rest
    (ws, rest)
  | none => ([[.variable "@" true]], ts)

def skipSeparator : List Token → List Token
  | .operator ";" :: rest => skipLines rest
  | ts => skipLines ts

/-- The patterns of a branch up to their bracket. -/
def branchPatterns : List Token → Option (List ScriptWord × List Token)
  | .word w :: .operator ")" :: rest => some ([w], rest)
  | .word w :: .operator "|" :: rest => (branchPatterns rest).map fun (ws, rest) => (w :: ws, rest)
  | _ => none

/-- The kinds of phrases: a list of commands, down to one command, and the parts of conditional
commands behind `if` and `in`. -/
inductive Level where
  | list
  | conditions
  | pipeline
  | command
  | conditional
  | branches

def read : Nat → Level → List Token → Option (Script × List Token)
  | 0, _, _ => none
  | fuel + 1, .list, ts =>
    match skipLines ts with
    | [] => some (.nothing, [])
    | .operator ")" :: rest => some (.nothing, .operator ")" :: rest)
    | .operator ";;" :: rest => some (.nothing, .operator ";;" :: rest)
    | ts =>
      if (keyword? ts).any isReserved then some (.nothing, ts)
      else
        match read fuel .conditions ts with
        | some (a, .operator o :: rest) =>
          if o = ";" || o = "\n" || o = "&" then
            (read fuel .list rest).map fun (b, rest) =>
              (.sequence (if o = "&" then .background a else a) b, rest)
          else some (a, .operator o :: rest)
        | r => r
  | fuel + 1, .conditions, ts => do
    let (a, rest) ← read fuel .pipeline ts
    match rest with
    | .operator "&&" :: rest =>
      (read fuel .conditions (skipLines rest)).map fun (b, rest) => (attach .both a b, rest)
    | .operator "||" :: rest =>
      (read fuel .conditions (skipLines rest)).map fun (b, rest) => (attach .either a b, rest)
    | rest => some (a, rest)
  | fuel + 1, .pipeline, ts =>
    match takeKeyword "!" ts with
    | some rest => (read fuel .pipeline rest).map fun (a, rest) => (.negate a, rest)
    | none =>
      match read fuel .command ts with
      | some (a, .operator "|" :: rest) =>
        (read fuel .pipeline (skipLines rest)).map fun (b, rest) => (.pipe a b, rest)
      | r => r
  | fuel + 1, .conditional, ts => do
    let (test, rest) ← read fuel .list ts
    let (yes, rest) ← read fuel .list (← takeKeyword "then" rest)
    match keyword? rest with
    | some "fi" => some (.cond test yes .nothing, rest.tail)
    | some "elif" => (read fuel .conditional rest.tail).map fun (no, rest) => (.cond test yes no, rest)
    | some "else" =>
      let (no, rest) ← read fuel .list rest.tail
      some (.cond test yes no, ← takeKeyword "fi" rest)
    | _ => none
  | fuel + 1, .branches, ts =>
    match skipLines ts with
    | [] => none
    | ts =>
      match takeKeyword "esac" ts with
      | some rest => some (.nothing, rest)
      | none => do
        let (patterns, rest) ← branchPatterns (match ts with
          | .operator "(" :: rest => rest
          | ts => ts)
        let (body, rest) ← read fuel .list rest
        let (otherwise, rest) ← read fuel .branches (match rest with
          | .operator ";;" :: rest => rest
          | rest => rest)
        some (.branch patterns body otherwise, rest)
  | fuel + 1, .command, ts =>
    let loop (turn : Script → Script) (ts : List Token) : Option (Script × List Token) := do
      let (test, rest) ← read fuel .list ts
      let (body, rest) ← read fuel .list (← takeKeyword "do" rest)
      withRedirections false (.loop (turn test) body) (← takeKeyword "done" rest)
    match ts with
    | .operator "(" :: rest =>
      match read fuel .list rest with
      | some (body, .operator ")" :: rest) => some (withRedirections true body rest)
      | _ => none
    | .word w :: .operator "(" :: .operator ")" :: rest => do
      let (body, rest) ← read fuel .command (skipLines rest)
      some (.define (← plain? w) body, rest)
    | ts =>
      match keyword? ts, ts.tail with
      | some "\x7b", rest => do
        let (body, rest) ← read fuel .list rest
        withRedirections false body (← takeKeyword "\x7d" rest)
      | some "if", rest => do
        let (c, rest) ← read fuel .conditional rest
        withRedirections false c rest
      | some "while", rest => loop id rest
      | some "until", rest => loop .negate rest
      | some "case", .word w :: rest => do
        let (branches, rest) ← read fuel .branches (← takeKeyword "in" (skipLines rest))
        withRedirections false (.subject w branches) rest
      | some "for", .word name :: rest => do
        let (ws, rest) := loopWords rest
        let (body, rest) ← read fuel .list (← takeKeyword "do" (skipSeparator rest))
        withRedirections false (.each ((plain? name).getD "") ws body) (← takeKeyword "done" rest)
      | _, _ =>
        let (ws, rs, rest) := simpleParts ts.length ts
        if ws.isEmpty && rs.isEmpty then none
        else
          let (as, ws) := assignments ws
          some (.simple as ws rs, rest)

/-- The script of a text, or what is wrong about it. -/
def parse (text : String) : Except String Script :=
  let cs := text.toList
  match Token.tokens (cs.length + 1) cs with
  | some ts =>
    match read (6 * ts.length + 8) .list ts with
    | some (s, []) => .ok s
    | _ => .error "Syntax error"
  | none => .error "Syntax error: Unterminated quoted string"

end Script

end TopicShell.Program
