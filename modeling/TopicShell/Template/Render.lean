import TopicShell.Template.Error
import TopicShell.Template.Filter
import TopicShell.Template.Format
import TopicShell.Template.Names

/-!
# Rendering

Evaluates a template.  Names live in frames, each inside another one; a loop makes a frame for every
item, and a routine one for every call, so that assignments in them stay inside.  Namespaces are
shared objects.  What a template does outside of itself goes through a `Host`: running a line, and
writing a text.  What has been done before an error stays done.
-/

namespace TopicShell.Template

/-- What a template can do outside of itself, on a world `σ` and with errors `ε`. -/
structure Host (ε σ : Type) where
  exec : String → σ → Except ε String × σ
  log : String → σ → σ

inductive RenderError (ε : Type) where
  | fault (cause : Fault)
  | host (cause : ε)

/-- Names with their values, inside another frame. -/
structure Frame where
  parent : Option Nat := none
  names : List (String × Value) := []

/-- A routine of a template, with the frame it was defined in. -/
structure Routine where
  name : String
  parameters : List (String × Option Expr)
  body : List Node
  frame : Nat

structure Machine (σ : Type) where
  frames : Array Frame := #[]
  spaces : Array (List (String × Value)) := #[]
  routines : Array Routine := #[]
  world : σ

abbrev Render (ε σ : Type) := ExceptT (RenderError ε) (StateM (Machine σ))

namespace Render

variable {ε σ : Type}

def lift {α : Type} (r : Result α) : Render ε σ α :=
  match r with
  | .ok a => pure a
  | .error e => throw (.fault e)

def fail {α : Type} (e : Fault) : Render ε σ α :=
  throw (.fault e)

/-! ## Frames -/

def enter (parent : Nat) : Render ε σ Nat := do
  let frames := (← get).frames
  modify fun m => { m with frames := m.frames.push { parent := some parent } }
  return frames.size

def bindName (name : String) (v : Value) (f : Frame) : Frame :=
  { f with names := (name, v) :: f.names.filter (·.1 != name) }

def setName (frame : Nat) (name : String) (v : Value) : Render ε σ Unit :=
  modify fun m => { m with frames := m.frames.modify frame (bindName name v) }

/-- The value of a name, searched from a frame outwards. -/
def find? (frames : Array Frame) : Nat → Nat → String → Option Value
  | 0, _, _ => none
  | fuel + 1, frame, name =>
    match frames[frame]? with
    | none => none
    | some f =>
      match f.names.lookup name with
      | some v => some v
      | none => f.parent.bind fun p => find? frames fuel p name

def builtins : List (String × Builtin) :=
  [("exec", .exec), ("log", .log), ("range", .range), ("dict", .dict), ("namespace", .space)]

def resolve (frame : Nat) (name : String) : Render ε σ Value := do
  let frames := (← get).frames
  return ((find? frames (frames.size + 1) frame name)
    <|> (builtins.lookup name).map Value.builtin).getD (.undefined (.name name))

/-- Gives a field a value, at the place it already has. -/
def putField (name : String) (v : Value) : List (String × Value) → List (String × Value)
  | [] => [(name, v)]
  | (n, w) :: rest => if n = name then (n, v) :: rest else (n, w) :: putField name v rest

def setField (number : Nat) (name : String) (v : Value) : Render ε σ Unit :=
  modify fun m => { m with spaces := m.spaces.modify number (putField name v) }

def newSpace (fields : List (String × Value)) : Render ε σ Value := do
  let number := (← get).spaces.size
  modify fun m => { m with spaces := m.spaces.push fields }
  return .space number

/-! ## Text -/

/-- The text of a value; the longest integers have none. -/
def textOf (v : Value) : Render ε σ String :=
  match v with
  | .int n => if Formatting.tooLong n then fail (.invalid .digits) else pure v.toText
  | v => pure v.toText

/-! ## Parts of values -/

def loopField? (i : Nat) (items : List Value) (name : String) : Option Value :=
  let n := items.length
  match name with
  | "index" => some (.int (i + 1))
  | "index0" => some (.int i)
  | "revindex" => some (.int (n - i))
  | "revindex0" => some (.int (n - i - 1))
  | "first" => some (.bool (i = 0))
  | "last" => some (.bool (i + 1 = n))
  | "length" => some (.int n)
  | "depth" => some (.int 1)
  | "depth0" => some (.int 0)
  | "previtem" =>
    some (if i = 0 then .undefined (.hint "there is no previous item")
      else (items[i - 1]?).getD .none)
  | "nextitem" => some ((items[i + 1]?).getD (.undefined (.hint "there is no next item")))
  | _ => none

/-- The part of a value that belongs to its type. -/
def ownAttribute? (v : Value) (name : String) : Render ε σ (Option Value) := do
  match v with
  | .space number => return ((← get).spaces[number]?).bind (·.lookup name)
  | .loop i items =>
    return (loopField? i items name) <|> (if hasMethod v name then some (.method v name) else none)
  | v => return if hasMethod v name then some (.method v name) else none

/-- The item under a key or an index. -/
def ownItem? (v index : Value) : Option Value :=
  match v with
  | .dict entries => if index.unhashable?.isSome then none else Value.valueOf? entries index
  | .text s => index.int?.bind fun n => (Value.itemAt? s.toList n).map fun c => .text c.toString
  | .list items | .tuple items => index.int?.bind (Value.itemAt? items)
  | .range a b c => index.int?.bind fun n => (Value.itemAt? (Value.rangeItems a b c) n).map .int
  | _ => none

def getAttribute (v : Value) (name : String) : Render ε σ Value := do
  match v with
  | .undefined why => fail (.undefined why)
  | v =>
    match ← ownAttribute? v name with
    | some w => return w
    | none => return (ownItem? v (.text name)).getD (.undefined (.attribute v.ownerName name))

def getItem (v index : Value) : Render ε σ Value := do
  match v with
  | .undefined why => fail (.undefined why)
  | v =>
    match ownItem? v index with
    | some w => return w
    | none =>
      match index with
      | .text name =>
        return (← ownAttribute? v name).getD (.undefined (.attribute v.ownerName name))
      | i => return .undefined (.element v.ownerName i.literal)

/-! ## Assignment -/

mutual

def assign (frame : Nat) : Place → Value → Render ε σ Unit
  | .name n, v => setName frame n v
  | .field space n, v => do
    match ← resolve frame space with
    | .space number => setField number n v
    | _ => fail (.template "cannot assign attribute on non-namespace object")
  | .tuple places, v =>
    match v.items? with
    | none => fail (.mistyped (.unpacking v.typeName))
    | some items =>
      if items.length < places.length then fail (.invalid (.tooFew places.length items.length))
      else if places.length < items.length then fail (.invalid (.tooMany places.length))
      else assignAll frame places items

def assignAll (frame : Nat) : List Place → List Value → Render ε σ Unit
  | p :: ps, vs => do
    assign frame p (vs.headD .none)
    assignAll frame ps vs.tail
  | [], _ => pure ()

end

/-! ## Builtin functions -/

def execSignature : Signature :=
  { function := "MacroManager._exec", parameters := [⟨"line", none⟩], hidden := 1 }

def logSignature : Signature :=
  { function := "MacroManager._log"
    parameters := [⟨"format_string", none⟩]
    hidden := 1
    openEnded := true }

def execLine (host : Host ε σ) (v : Value) : Render ε σ Value := do
  match v with
  | .text line =>
    let (outcome, world) := host.exec line (← get).world
    modify fun m => { m with world }
    match outcome with
    | .ok output => return .text output
    | .error e => throw (.host e)
  | v =>
    fail (.mistyped (.argument ("expected string or bytes-like object, got '" ++ v.typeName ++ "'")))

/-- The text of a log line: a format with its values, or one text as it is. -/
def logText (v : Value) (values : List Value) : Result String :=
  match v, values with
  | .text s, [] => .ok s
  | .text s, values => format s (.tuple values)
  | .undefined why, _ => .error (.undefined why)
  | v, [] => .error (.attribute v.typeName "endswith")
  | v, values => Value.operands .rem v (.tuple values)

def ensureLineEnd (s : String) : String :=
  if s.toList.getLast? = some '\n' then s else s ++ "\n"

def logLine (host : Host ε σ) (v : Value) (values : List Value) : Render ε σ Value := do
  let text ← lift (logText v values)
  modify fun m => { m with world := host.log (ensureLineEnd text) m.world }
  return .text ""

def wholeArgument (v : Value) : Result Int :=
  match v.int? with
  | some n => .ok n
  | none => Method.bad ("'" ++ v.typeName ++ "' object cannot be interpreted as an integer")

def makeRange (a : Arguments) : Result Value := do
  if !a.keywords.isEmpty then Method.bad "range() takes no keyword arguments"
  match a.plain with
  | [stop] => return .range 0 (← wholeArgument stop) 1
  | [start, stop] => return .range (← wholeArgument start) (← wholeArgument stop) 1
  | [start, stop, step] =>
    let s ← wholeArgument step
    if s = 0 then Result.invalid .rangeStep
    return .range (← wholeArgument start) (← wholeArgument stop) s
  | [] => Method.bad "range expected at least 1 argument, got 0"
  | xs => Method.bad ("range expected at most 3 arguments, got " ++ toString xs.length)

/-- The entries of a dictionary that is made from another one and from keywords. -/
def dictEntries (a : Arguments) : Result (List (Value × Value)) := do
  let start ← match a.plain with
    | [] => pure []
    | [.dict entries] => pure entries
    | [v] => Result.mistyped (.notIterable v.typeName)
    | xs => Method.bad ("dict expected at most 1 argument, got " ++ toString xs.length)
  return a.keywords.foldl (fun es k => Value.putEntry (.text k.1) k.2 es) start

def callBuiltin (host : Host ε σ) (f : Builtin) (a : Arguments) : Render ε σ Value := do
  match f with
  | .exec =>
    let (values, _) ← lift (execSignature.bind a)
    execLine host (values.headD .none)
  | .log =>
    let (values, rest) ← lift (logSignature.bind a)
    logLine host (values.headD .none) rest
  | .range => lift (makeRange a)
  | .dict => return .dict (← lift (dictEntries a))
  | .space =>
    let entries ← lift (dictEntries a)
    newSpace (entries.map fun e => (e.1.toText, e.2))

/-! ## Routines -/

/-- The keywords of a call that are no parameters beyond the plain arguments. -/
def leftKeywords (r : Routine) (a : Arguments) : List (String × Value) :=
  let open_ := (r.parameters.drop a.plain.length).map Prod.fst
  a.keywords.filter fun k => !open_.contains k.1

/-- The body of a routine reads a name that nothing in it defines. -/
def bodyTakes (r : Routine) (name : String) : Bool :=
  (takenBy { known := r.parameters.map Prod.fst } r.body).contains name

/-- The values of the parameters, as far as the call gives them. -/
def givenValues (r : Routine) (a : Arguments) : List (String × Option Expr × Option Value) :=
  r.parameters.zipIdx.map fun ((n, d), i) =>
    (n, d, (a.plain[i]?) <|> (if i < a.plain.length then none else a.keywords.lookup n))

def checkRoutine (r : Routine) (a : Arguments) : Result Unit :=
  match leftKeywords r a with
  | (k, _) :: _ =>
    if bodyTakes r "kwargs" then .ok () else Result.mistyped (.routineKeyword r.name k)
  | [] =>
    if r.parameters.length < a.plain.length && !bodyTakes r "varargs" then
      Result.mistyped (.routineArguments r.name r.parameters.length)
    else .ok ()

/-! ## Evaluation -/

def literalValue : Literal → Value
  | .none => .none
  | .bool b => .bool b
  | .int n => .int n
  | .real x => .real x
  | .text s => .text s

/-- The name under which a filter of a block finds the text of the block. -/
def blockText : String := ""

def noElse (line : Nat) : Value :=
  .undefined (.hint ("the inline if-expression on line " ++ toString line
    ++ " evaluated to false and no else section was defined."))

/-- The first value of each argument that is given by position, and the others by name. -/
def collect (parts : List (Argument × Value)) : Result Arguments :=
  parts.foldlM (fun a part => match part with
    | (.plain _, v) => .ok { a with plain := a.plain ++ [v] }
    | (.keyword n _, v) => .ok { a with keywords := a.keywords ++ [(n, v)] }
    | (.spread _, v) =>
      match v.items? with
      | some items => .ok { a with plain := a.plain ++ items }
      | none => Method.bad ("argument after * must be an iterable, not " ++ v.typeName)
    | (.spreadKeywords _, v) =>
      match v with
      | .dict entries =>
        .ok { a with keywords := a.keywords ++ entries.map fun e => (e.1.toText, e.2) }
      | v => Method.bad ("argument after ** must be a mapping, not " ++ v.typeName)) {}

def argumentExpr : Argument → Expr
  | .plain e | .keyword _ e | .spread e | .spreadKeywords e => e

def dictOf (entries : List (Value × Value)) : Result Value := do
  let es ← entries.foldlM (fun es (k, v) =>
    match k.unhashable? with
    | some t => Result.mistyped (.unhashable t)
    | none => .ok (Value.putEntry k v es)) []
  return .dict es

mutual

/-- Evaluates an expression in a frame; expressions and calls nest at most to a depth. -/
def eval (host : Host ε σ) : Nat → Nat → Expr → Render ε σ Value
  | 0, _, _ => fail .recursion
  | depth + 1, frame, e => do
    let sub := eval host depth frame
    match e with
    | .literal l => return literalValue l
    | .name n => resolve frame n
    | .list items => return .list (← items.mapM sub)
    | .tuple items => return .tuple (← items.mapM sub)
    | .dict items =>
      let entries ← items.mapM fun (k, v) => do
        let k ← sub k
        return (k, ← sub v)
      lift (dictOf entries)
    | .negative e => lift (← sub e).negate
    | .positive e => lift (← sub e).affirm
    | .not e => return .bool !(← sub e).isTrue
    | .and l r =>
      let v ← sub l
      if v.isTrue then sub r else return v
    | .or l r =>
      let v ← sub l
      if v.isTrue then return v else sub r
    | .binary op l r =>
      let a ← sub l
      let b ← sub r
      match op, a with
      | .rem, .text s => return .text (← lift (format s b))
      | op, a => lift (Value.operate op a b)
    | .concat parts =>
      let values ← parts.mapM sub
      return .text (String.join (← values.mapM textOf))
    | .compare first rest =>
      compareChain host depth frame (← sub first) rest
    | .conditional line condition yes no =>
      if (← sub condition).isTrue then sub yes
      else match no with
        | some e => sub e
        | none => return noElse line
    | .attribute e name => getAttribute (← sub e) name
    | .item e (.slice start stop step) =>
      let v ← sub e
      let part (o : Option Expr) : Render ε σ (Option Value) := match o with
        | some e => some <$> sub e
        | none => pure none
      lift (v.sliced (← part start) (← part stop) (← part step))
    | .item e index =>
      let v ← sub e
      getItem v (← sub index)
    | .slice _ _ _ => fail (.mistyped .sliceIndex)
    | .call callee args =>
      let f ← sub callee
      call host depth f (← evalArguments host depth frame args)
    | .filter subject name _ args =>
      let v ← match subject with
        | some e => sub e
        | none => resolve frame blockText
      let a ← evalArguments host depth frame args
      match Filter.ofName? name with
      | some f => lift (f.call { a with plain := v :: a.plain })
      | none => fail (.template ("No filter named " ++ quote name ++ " found."))
    | .test subject name _ args =>
      let v ← sub subject
      let a ← evalArguments host depth frame args
      match Test.ofName? name with
      | some t => return .bool (← lift (t.holds v a.plain))
      | none => fail (.template ("No test named " ++ quote name ++ " found."))
termination_by structural n => n

/-- A row of comparisons stops at the first that does not hold. -/
def compareChain (host : Host ε σ) : Nat → Nat → Value → List (Comparison × Expr) → Render ε σ Value
  | 0, _, _, _ => fail .recursion
  | _, _, _, [] => return .bool true
  | depth + 1, frame, v, (op, e) :: rest => do
    let w ← eval host depth frame e
    if ← lift (Value.compares op v w) then
      compareChain host depth frame w rest
    else return .bool false
termination_by structural n => n

def evalArguments (host : Host ε σ) : Nat → Nat → List Argument → Render ε σ Arguments
  | 0, _, _ => fail .recursion
  | depth + 1, frame, args => do
    let values ← args.mapM fun a => do return (a, ← eval host depth frame (argumentExpr a))
    lift (collect values)
termination_by structural n => n

def call (host : Host ε σ) : Nat → Value → Arguments → Render ε σ Value
  | 0, _, _ => fail .recursion
  | depth + 1, f, a => do
    match f with
    | .undefined why => fail (.undefined why)
    | .builtin b => callBuiltin host b a
    | .method subject name => lift (Method.call subject name a)
    | .routine number _ =>
      match (← get).routines[number]? with
      | some r => return .text (← callRoutine host depth r a)
      | none => fail (.mistyped (.notCallable f.typeName))
    | v => fail (.mistyped (.notCallable v.typeName))
termination_by structural n => n

def callRoutine (host : Host ε σ) : Nat → Routine → Arguments → Render ε σ String
  | 0, _, _ => fail .recursion
  | depth + 1, r, a => do
    lift (checkRoutine r a)
    let frame ← enter r.frame
    setName frame "varargs" (.tuple (a.plain.drop r.parameters.length))
    setName frame "kwargs" (.dict ((leftKeywords r a).map fun k => (.text k.1, k.2)))
    for (n, default, given) in givenValues r a do
      match given, default with
      | some v, _ => setName frame n v
      | none, some e => setName frame n (← eval host depth frame e)
      | none, none => setName frame n (.undefined (.hint ("parameter " ++ quote n ++ " was not provided")))
    runNodes host depth frame r.body
termination_by structural n => n

/-- The text that nodes produce in a frame. -/
def runNodes (host : Host ε σ) : Nat → Nat → List Node → Render ε σ String
  | 0, _, _ => fail .recursion
  | depth + 1, frame, nodes => do
    return String.join (← nodes.mapM (runNode host depth frame))
termination_by structural n => n

def runNode (host : Host ε σ) : Nat → Nat → Node → Render ε σ String
  | 0, _, _ => fail .recursion
  | depth + 1, frame, node => do
    let value := eval host depth frame
    match node with
    | .data t => return t
    | .print e => textOf (← value e)
    | .choose branches otherwise =>
      let chosen ← branches.findM? fun b => do return (← value b.1).isTrue
      runNodes host depth frame ((chosen.map Prod.snd).getD otherwise)
    | .loop place items condition body otherwise =>
      runLoop host depth frame place items condition body otherwise
    | .assign place e =>
      assign frame place (← value e)
      return ""
    | .assignBlock place filter body =>
      let inner ← enter frame
      let text ← runNodes host depth inner body
      setName inner blockText (.text text)
      let v ← match filter with
        | some f => eval host depth inner f
        | none => pure (.text text)
      assign frame place v
      return ""
    | .routine name parameters body =>
      let number := (← get).routines.size
      modify fun m => { m with routines := m.routines.push ⟨name, parameters, body, frame⟩ }
      setName frame name (.routine number name)
      return ""
    | .bind values body =>
      let inner ← enter frame
      for (p, e) in values do
        assign inner p (← value e)
      runNodes host depth inner body
    | .filterBlock f body =>
      let inner ← enter frame
      let text ← runNodes host depth inner body
      setName inner blockText (.text text)
      textOf (← eval host depth inner f)
termination_by structural n => n

def runLoop (host : Host ε σ) :
    Nat → Nat → Place → Expr → Option Expr → List Node → List Node → Render ε σ String
  | 0, _, _, _, _, _, _ => fail .recursion
  | depth + 1, frame, place, items, condition, body, otherwise => do
    let v ← eval host depth frame items
    let all ← match v.items? with
      | some xs => pure xs
      | none => fail (.mistyped (.notIterable v.typeName))
    let chosen ← match condition with
      | none => pure all
      | some c => all.filterM fun x => do
        let inner ← enter frame
        assign inner place x
        return (← eval host depth inner c).isTrue
    if chosen.isEmpty then
      let inner ← enter frame
      runNodes host depth inner otherwise
    else
      let texts ← chosen.zipIdx.mapM fun (x, i) => do
        let inner ← enter frame
        setName inner "loop" (.loop i chosen)
        assign inner place x
        runNodes host depth inner body
      return String.join texts
termination_by structural n => n

end

end Render

/-- Renders a template with some names given. -/
def render {ε σ : Type} (host : Host ε σ) (depth : Nat) (body : List Node)
    (names : List (String × Value)) (world : σ) : Except (RenderError ε) String × σ :=
  let machine : Machine σ := { frames := #[{ names }], world }
  let (r, m) := StateT.run (ExceptT.run (Render.runNodes host depth 0 body)) machine
  (r, m.world)

end TopicShell.Template
