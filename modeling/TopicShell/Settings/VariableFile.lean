import TopicShell.Text.Blank

/-!
# Files of variables

Each statement gives a variable a value: a name, perhaps with `export` before it, an equals sign and a
value with or without quotes.  A name alone has no value.  Comments start with a number sign, and a
statement that cannot be read is passed over up to the end of its line.  A value may mention other
variables in braces, with what to take if there is none.
-/

namespace TopicShell.Settings.VariableFile

open Text

def isInline (c : Char) : Bool :=
  isBlank c && c ≠ '\n'

def skipInline (cs : List Char) : List Char :=
  cs.dropWhile isInline

def skipLine (cs : List Char) : List Char :=
  (cs.dropWhile (· ≠ '\n')).drop 1

/-! ## Values -/

/-- The place of the quote that ends a value: the first one without a backslash before it, or else the
last one of all.  `place` counts from the start and `last` is the last one so far. -/
def closing? (quote : Char) : List Char → Nat → Option Nat → Option Nat
  | [], _, last => last
  | c :: rest, place, last =>
    if c = quote then some place
    else
      match c, rest with
      | '\\', d :: more =>
        if d = quote then closing? quote more (place + 2) (some (place + 1))
        else closing? quote (d :: more) (place + 1) last
      | _, rest => closing? quote rest (place + 1) last

/-- What the escapes in double quotes stand for. -/
def escapes : List (Char × Char) := [
  ('\\', '\\'), ('\'', '\''), ('"', '"'), ('a', '\x07'), ('b', '\x08'), ('f', '\x0c'), ('n', '\n'),
  ('r', '\r'), ('t', '\t'), ('v', '\x0b')]

def unescape (known : List (Char × Char)) : List Char → List Char
  | '\\' :: c :: rest =>
    match known.lookup c with
    | some x => x :: unescape known rest
    | none => '\\' :: unescape known (c :: rest)
  | c :: rest => c :: unescape known rest
  | [] => []

/-- A value in quotes, after the first of them. -/
def quoted? (quote : Char) (cs : List Char) : Option (List Char × List Char) :=
  (closing? quote cs 0 none).map fun n =>
    (unescape (if quote = '"' then escapes else escapes.take 2) (cs.take n), cs.drop (n + 1))

/-- A value without quotes ends before a comment with white space before it. -/
def withoutComment : List Char → List Char
  | [] => []
  | c :: rest =>
    if isBlank c && ((c :: rest).dropWhile isBlank).head? = some '#' then []
    else c :: withoutComment rest

def bare (cs : List Char) : List Char × List Char :=
  let line := cs.takeWhile (· ≠ '\n')
  (trimRight isBlank (withoutComment line), cs.drop line.length)

def value? : List Char → Option (List Char × List Char)
  | [] => some ([], [])
  | c :: rest =>
    if c = '\'' || c = '"' then quoted? c rest
    else if c = '\n' then some ([], c :: rest)
    else some (bare (c :: rest))

/-! ## Statements -/

def skipExport (cs : List Char) : List Char :=
  if "export".toList.isPrefixOf cs && (cs.drop 6).head?.any isInline then skipInline (cs.drop 6) else cs

/-- The name at the front, if the statement is no comment; a failure tells where. -/
def name : List Char → Except (List Char) (Option (List Char) × List Char)
  | '\'' :: rest =>
    let n := rest.takeWhile (· ≠ '\'')
    if n.isEmpty || n.length = rest.length then .error ('\'' :: rest)
    else .ok (some n, rest.drop (n.length + 1))
  | cs =>
    if cs.head? = some '#' then .ok (none, cs)
    else
      let n := cs.takeWhile fun c => !(isBlank c || c = '=' || c = '#')
      if n.isEmpty then .error cs else .ok (some n, cs.drop n.length)

/-- A variable and its value, if it has one. -/
abbrev Binding := String × Option String

/-- One statement, and what follows its line. -/
def statement (cs : List Char) : Except (List Char) (Option Binding × List Char) := do
  let (name, rest) ← name (skipExport cs)
  let rest := skipInline rest
  let (value, rest) ← match rest with
    | '=' :: more =>
      match value? (skipInline more) with
      | some (v, after) => pure (some v, after)
      | none => throw (skipInline more)
    | _ => pure (none, rest)
  let rest := match skipInline rest with
    | '#' :: more => more.dropWhile (· ≠ '\n')
    | _ => rest
  match skipInline rest with
  | [] => pure (binding name value, [])
  | '\n' :: after => pure (binding name value, after)
  | _ => throw rest
where
  /-- A comment binds nothing. -/
  binding (name value : Option (List Char)) : Option Binding :=
    name.map fun n => (String.ofList n, value.map String.ofList)

/-- All bindings; every statement takes a character at least. -/
def bindings : Nat → List Char → List Binding
  | 0, _ => []
  | fuel + 1, cs =>
    match cs.dropWhile isBlank with
    | [] => []
    | cs =>
      match statement cs with
      | .ok (b, rest) => b.toList ++ bindings fuel rest
      | .error rest => bindings fuel (skipLine rest)

/-! ## Mentions of other variables -/

abbrev Variables := List (String × Option String)

def putVariable (name : String) (value : Option String) : Variables → Variables
  | [] => [(name, value)]
  | (n, v) :: rest => if n = name then (n, value) :: rest else (n, v) :: putVariable name value rest

/-- A mention after its dollar sign: the name, what to take without it, and what follows. -/
def mention? : List Char → Option (List Char × List Char × List Char)
  | '\x7b' :: rest =>
    let n := rest.takeWhile fun c => !(c = '\x7d' || c = ':')
    match rest.drop n.length with
    | '\x7d' :: after => some (n, [], after)
    | ':' :: '-' :: more =>
      let other := more.takeWhile (· ≠ '\x7d')
      match more.drop other.length with
      | _ :: after => some (n, other, after)
      | [] => none
    | _ => none
  | _ => none

/-- A value with its mentions replaced. -/
def expand (known : Variables) : Nat → List Char → List Char
  | 0, _ => []
  | _, [] => []
  | fuel + 1, c :: rest =>
    match if c = '$' then mention? rest else none with
    | some (n, other, after) =>
      let value := match known.lookup (String.ofList n) with
        | some v => (v.getD "").toList
        | none => other
      value ++ expand known fuel after
    | none => c :: expand known fuel rest

/-- The values in the order of the bindings; a mention finds the bindings above it first. -/
def resolve (environment : List (String × String)) (bs : List Binding) : Variables :=
  let outer : Variables := environment.map fun (n, v) => (n, some v)
  bs.foldl (fun found (n, v) =>
    putVariable n (v.map fun s => String.ofList (expand (found ++ outer) s.length s.toList)) found) []

def read (environment : List (String × String)) (s : String) : Variables :=
  resolve environment (bindings (s.length + 1) s.toList)

end TopicShell.Settings.VariableFile
