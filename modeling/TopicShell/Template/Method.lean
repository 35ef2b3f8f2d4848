import TopicShell.Template.Arguments
import TopicShell.Text.Blank
import TopicShell.Text.Case
import TopicShell.Text.Pieces

/-!
# Methods

What can be called on texts and dictionaries.
-/

namespace TopicShell.Template

/-! ## Operations on texts -/

/-- The pieces between white space, at most `most` cuts. -/
def splitBlank : Nat → Option Nat → List Char → List (List Char)
  | 0, _, _ => []
  | fuel + 1, most, cs =>
    let cs := cs.dropWhile Text.isBlank
    if cs.isEmpty then []
    else if most = some 0 then [Text.trimRight Text.isBlank cs]
    else
      cs.takeWhile (!Text.isBlank ·)
        :: splitBlank fuel (most.map (· - 1)) (cs.dropWhile (!Text.isBlank ·))

/-- The pieces between separators, at most `most` cuts. -/
def splitAt (sep : List Char) : Nat → Option Nat → List Char → List (List Char)
  | 0, _, cs => [cs]
  | fuel + 1, most, cs =>
    if most = some 0 then [cs]
    else match Text.cutAt sep cs with
      | (before, some after) => before :: splitAt sep fuel (most.map (· - 1)) after
      | (before, none) => [before]

/-- Replaces a text, at most `most` times; an empty one stands around every character. -/
def replaceText (old new : List Char) (most : Option Nat) (cs : List Char) : List Char :=
  if old.isEmpty then
    let n := (most.getD (cs.length + 1))
    ((cs.zipIdx.map fun (c, i) => if i < n then new ++ [c] else [c]).flatten)
      ++ (if cs.length < n then new else [])
  else new.intercalate (splitAt old cs.length most cs)

/-- How often a text occurs without overlap. -/
def countText (part cs : List Char) : Nat :=
  if part.isEmpty then cs.length + 1 else (splitAt part cs.length none cs).length - 1

/-- Where a text occurs first. -/
def findText (part cs : List Char) : Int :=
  if part.isEmpty then 0
  else match Text.cutAt part cs with
    | (before, some _) => before.length
    | (_, none) => -1

def endsWith (part cs : List Char) : Bool :=
  part.reverse.isPrefixOf cs.reverse

/-! ## Calls -/

def textMethods : List String :=
  ["capitalize", "count", "endswith", "find", "join", "lower", "lstrip", "replace", "rstrip",
    "split", "startswith", "strip", "upper"]

def dictMethods : List String :=
  ["get", "items", "keys", "values"]

/-- The value has a method with a name. -/
def hasMethod (v : Value) (name : String) : Bool :=
  match v with
  | .text _ => textMethods.contains name
  | .dict _ => dictMethods.contains name
  | .loop _ _ => name == "cycle"
  | _ => false

namespace Method

def bad {α : Type} (message : String) : Result α :=
  Result.mistyped (.argument message)

def noArguments (type name : String) (args : List Value) : Result Unit :=
  if args.isEmpty then .ok ()
  else bad (type ++ "." ++ name ++ "() takes no arguments (" ++ toString args.length ++ " given)")

def optionalCount : Option Value → Result (Option Nat)
  | none => .ok none
  | some v =>
    match v.int? with
    | some n => .ok (if n < 0 then none else some n.toNat)
    | none => bad ("'" ++ v.typeName ++ "' object cannot be interpreted as an integer")

def texts (xs : List (List Char)) : Value :=
  .list (xs.map fun cs => .text (String.ofList cs))

def split (s : List Char) (sep most : Option Value) : Result Value := do
  let most ← optionalCount most
  match sep with
  | none | some .none => return texts (splitBlank (s.length + 1) most s)
  | some (.text t) =>
    if t.isEmpty then Result.invalid .emptySeparator
    else return texts (splitAt t.toList s.length most s)
  | some v => bad ("must be str or None, not " ++ v.typeName)

def strip (name : String) (s : List Char) (chars : Option Value) : Result Value := do
  let drop ← match chars with
    | none | some .none => pure Text.isBlank
    | some (.text t) => pure t.toList.contains
    | some _ => bad (name ++ " arg must be None or str")
  return .text (String.ofList (match name with
    | "lstrip" => Text.trimLeft drop s
    | "rstrip" => Text.trimRight drop s
    | _ => Text.trim drop s))

/-- Whether a text starts or ends with one of some texts. -/
def edge (name : String) (test : List Char → Bool) (v : Value) : Result Value :=
  match v with
  | .text t => .ok (.bool (test t.toList))
  | .tuple items =>
    match items.mapM fun i => match i with
      | .text t => some t
      | _ => none with
    | some ts => .ok (.bool (ts.any fun t => test t.toList))
    | none => bad ("tuple for " ++ name ++ " must only contain str")
  | v => bad (name ++ " first arg must be str or a tuple of str, not " ++ v.typeName)

def joinItems (sep : String) : Nat → List Value → Result (List String)
  | _, [] => .ok []
  | i, .text t :: rest => (joinItems sep (i + 1) rest).map (t :: ·)
  | i, v :: _ => bad ("sequence item " ++ toString i ++ ": expected str instance, " ++ v.typeName ++ " found")

def join (sep : String) (v : Value) : Result Value :=
  match v.items? with
  | none => bad "can only join an iterable"
  | some items => (joinItems sep 0 items).map fun ts => .text (sep.intercalate ts)

def asText (v : Value) : Result String :=
  match v with
  | .text t => .ok t
  | v => bad ("must be str, not " ++ v.typeName)

def ofText (s : String) (name : String) (args : List Value) : Result Value :=
  let cs := s.toList
  match name with
  | "upper" => do noArguments "str" name args; return .text (Text.upperText s)
  | "lower" => do noArguments "str" name args; return .text (Text.lowerText s)
  | "capitalize" => do noArguments "str" name args; return .text (Text.capitalizeText s)
  | "strip" | "lstrip" | "rstrip" =>
    if 1 < args.length then
      bad (name ++ " expected at most 1 argument, got " ++ toString args.length)
    else strip name cs args.head?
  | "split" =>
    if 2 < args.length then
      bad ("split() takes at most 2 arguments (" ++ toString args.length ++ " given)")
    else split cs args[0]? args[1]?
  | "replace" =>
    match args with
    | [a, b] | [a, b, _] =>
      match a, b with
      | .text old, .text new => do
        let most ← optionalCount args[2]?
        return .text (String.ofList (replaceText old.toList new.toList most cs))
      | .text _, v => bad ("replace() argument 2 must be str, not " ++ v.typeName)
      | v, _ => bad ("replace() argument 1 must be str, not " ++ v.typeName)
    | args =>
      if args.length < 2 then
        bad ("replace expected at least 2 arguments, got " ++ toString args.length)
      else bad ("replace expected at most 3 arguments, got " ++ toString args.length)
  | "startswith" | "endswith" =>
    match args with
    | [] => bad (name ++ "() takes at least 1 argument (0 given)")
    | v :: _ =>
      edge name (fun t => if name == "startswith" then t.isPrefixOf cs else endsWith t cs) v
  | "join" =>
    match args with
    | [v] => join s v
    | args => bad ("str.join() takes exactly one argument (" ++ toString args.length ++ " given)")
  | "find" | "count" =>
    match args with
    | [] => bad (name ++ "() takes at least 1 argument (0 given)")
    | v :: _ => do
      let t ← asText v
      return .int (if name == "find" then findText t.toList cs else countText t.toList cs)
  | _ => Result.mistyped (.notCallable "str")

def ofDict (entries : List (Value × Value)) (name : String) (args : List Value) : Result Value :=
  match name with
  | "items" => do
    noArguments "dict" name args
    return .list (entries.map fun e => .tuple [e.1, e.2])
  | "keys" => do noArguments "dict" name args; return .list (entries.map Prod.fst)
  | "values" => do noArguments "dict" name args; return .list (entries.map Prod.snd)
  | _ =>
    match args with
    | [k] => .ok ((Value.valueOf? entries k).getD .none)
    | [k, d] => .ok ((Value.valueOf? entries k).getD d)
    | args =>
      if args.isEmpty then bad "get expected at least 1 argument, got 0"
      else bad ("get expected at most 2 arguments, got " ++ toString args.length)

/-- The items of a cycle, one for each turn of a loop. -/
def cycle (index : Nat) (args : List Value) : Result Value :=
  match args[index % args.length]? with
  | some v => .ok v
  | none => bad "no items for cycling given"

/-- The place of keyword arguments of a method, as far as a method takes any. -/
def keywordPlaces : String → List String
  | "split" => ["sep", "maxsplit"]
  | _ => []

/-- Puts keyword arguments behind the plain ones. -/
def plainArguments (name : String) (a : Arguments) : Result (List Value) :=
  let places := keywordPlaces name
  match a.keywords.find? fun k => !places.contains k.1 with
  | some k =>
    if places.isEmpty then bad (name ++ "() takes no keyword arguments")
    else bad ("'" ++ k.1 ++ "' is an invalid keyword argument for " ++ name ++ "()")
  | none =>
    .ok (a.plain ++ (places.drop a.plain.length).map fun p => (a.keywords.lookup p).getD (
      if p == "maxsplit" then .int (-1) else .none))

def call (subject : Value) (name : String) (a : Arguments) : Result Value := do
  match subject with
  | .text s =>
    let args ← if a.keywords.isEmpty then pure a.plain else plainArguments name a
    ofText s name args
  | .dict entries => ofDict entries name a.plain
  | .loop i _ => cycle i a.plain
  | v => Result.mistyped (.notCallable v.typeName)

end Method

end TopicShell.Template
