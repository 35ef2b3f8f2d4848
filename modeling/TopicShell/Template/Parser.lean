import TopicShell.Template.ExprParser

/-!
# Parsing templates

`parse` reads the nodes of a template.  A block tag opens a body that runs to one of the tags it
waits for.
-/

namespace TopicShell.Template

/-! ## Places -/

/-- The kind of an expression, as messages name it. -/
def Expr.kind : Expr → String
  | literal _ => "const"
  | name _ => "name"
  | list _ => "list"
  | tuple _ => "tuple"
  | dict _ => "dict"
  | negative _ => "neg"
  | positive _ => "pos"
  | not _ => "not"
  | and _ _ => "and"
  | or _ _ => "or"
  | binary op _ _ =>
    match op with
    | .add => "add"
    | .sub => "sub"
    | .mul => "mul"
    | .div => "div"
    | .floorDiv => "floordiv"
    | .rem => "mod"
    | .pow => "pow"
  | concat _ => "concat"
  | compare _ _ => "compare"
  | conditional _ _ _ _ => "condexpr"
  | .attribute _ _ => "getattr"
  | item _ _ => "getitem"
  | slice _ _ _ => "slice"
  | call _ _ => "call"
  | filter _ _ _ _ => "filter"
  | test _ _ _ _ => "test"

mutual

/-- The place an expression stands for: a name, or a tuple of places. -/
def Expr.place? : Expr → Option Place
  | .name n => some (.name n)
  | .tuple items => (placesOf? items).map .tuple
  | _ => none

def placesOf? : List Expr → Option (List Place)
  | [] => some []
  | e :: es => do
    let p ← e.place?
    let ps ← placesOf? es
    return p :: ps

end

namespace Parse

def toPlace (e : Expr) : Parse Place :=
  match e.place? with
  | some p => pure p
  | none => throw (.target e.kind)

/-- One item of an assignment; `fields` allows a field of a namespace. -/
def placeItem (fields : Bool) : Parse (Place ⊕ Expr) := do
  match ← current with
  | some (.name n) =>
    if fields && isOperator "." (← ahead) then
      advance
      advance
      return .inl (.field n (← expectName))
    else return .inr (← primary expression)
  | _ => return .inr (← primary expression)

def placeItems (fields : Bool) (also : Option TokenKind → Bool) :
    Nat → Bool → Parse (List (Place ⊕ Expr) × Bool)
  | 0, _ => pure ([], false)
  | n + 1, first => do
    if !first then expectOperator ","
    if endsTuple also (← current) then return ([], false)
    let x ← placeItem fields
    if isOperator "," (← current) then
      return (x :: (← placeItems fields also n false).1, true)
    else return ([x], false)

def placeOf : Place ⊕ Expr → Parse Place
  | .inl p => pure p
  | .inr e => toPlace e

/-- The target of an assignment. -/
def place (fields : Bool) (also : Option TokenKind → Bool) : Parse Place := do
  match ← placeItems fields also (← budget) true with
  | ([x], false) => placeOf x
  | ([], false) => throw (.noExpression (describe (← current)))
  | (xs, _) =>
    match xs.mapM fun x => match x with
      | .inl p => some p
      | .inr e => e.place? with
    | some ps => return .tuple ps
    | none => throw (.target "tuple")

/-! ## Statements -/

def withBlock {α : Type} (tag : String) (p : Parse α) : Parse α := do
  modify fun s => { s with blocks := tag :: s.blocks }
  let x ← p
  modify fun s => { s with blocks := s.blocks.tail }
  return x

/-- What a statement needs to read the body of a block: the parser of nodes up to one of some
tags. -/
abbrev Body := List String → Parse (List Node)

/-- The body of a block up to one of some tags, and that tag. -/
def block (body : Body) (ends : List String) : Parse (List Node × String) := do
  let _ ← skipOperator ":"
  expectBlockEnd
  modify fun s => { s with sought := ends :: s.sought }
  let nodes ← body ends
  modify fun s => { s with sought := s.sought.tail }
  match ← current with
  | some (.name tag) => advance; return (nodes, tag)
  | _ => throw (.unfinished ends (← get).blocks.head?)

def loop (body : Body) : Parse Node := do
  let p ← place false (isWord "in")
  expectWord "in"
  let items ← tuple unconditional false (isWord "recursive")
  let condition ← if ← skipWord "if" then some <$> expression else pure none
  let _ ← skipWord "recursive"
  let (nodes, tag) ← block body ["endfor", "else"]
  let otherwise ← if tag = "endfor" then pure [] else Prod.fst <$> block body ["endfor"]
  return .loop p items condition nodes otherwise

def branches (body : Body) : Nat → Parse (List (Expr × List Node) × List Node)
  | 0 => pure ([], [])
  | n + 1 => do
    let condition ← tuple unconditional false noEnd
    let (nodes, tag) ← block body ["elif", "else", "endif"]
    if tag = "elif" then
      let (more, otherwise) ← branches body n
      return ((condition, nodes) :: more, otherwise)
    else if tag = "else" then
      let (otherwise, _) ← block body ["endif"]
      return ([(condition, nodes)], otherwise)
    else return ([(condition, nodes)], [])

def choose (body : Body) : Parse Node := do
  let (branches, otherwise) ← branches body (← budget)
  return .choose branches otherwise

/-- Filters after a block that is assigned. -/
def blockFilters : Nat → Option Expr → Parse (Option Expr)
  | 0, e => pure e
  | n + 1, e => do
    if ← skipOperator "|" then
      let f ← filterOf expression e
      blockFilters n (some f)
    else return e

def assign (body : Body) : Parse Node := do
  let p ← place true noEnd
  if ← skipOperator "=" then
    return .assign p (← tuple expression false noEnd)
  else
    let f ← blockFilters (← budget) none
    let (nodes, _) ← block body ["endset"]
    return .assignBlock p f nodes

def parameters : Nat → Bool → Bool → Parse (List (String × Option Expr))
  | 0, _, _ => pure []
  | n + 1, first, defaults => do
    if isOperator ")" (← current) then return []
    if !first then expectOperator ","
    let name ← expectName
    if (wordValue name).kind ≠ "name" then throw (.target "name")
    if ← skipOperator "=" then
      let value ← expression
      return (name, some value) :: (← parameters n false true)
    else if defaults then throw .defaultOrder
    else return (name, none) :: (← parameters n false false)

def routine (body : Body) : Parse Node := do
  let name ← expectName
  expectOperator "("
  let ps ← parameters (← budget) true false
  expectOperator ")"
  let (nodes, _) ← block body ["endmacro"]
  return .routine name ps nodes

def bindings : Nat → Bool → Parse (List (Place × Expr))
  | 0, _ => pure []
  | n + 1, first => do
    if isBlockEnd (← current) then return []
    if !first then expectOperator ","
    let p ← place false noEnd
    expectOperator "="
    let e ← expression
    return (p, e) :: (← bindings n false)

def bind (body : Body) : Parse Node := do
  let values ← bindings (← budget) true
  let (nodes, _) ← block body ["endwith"]
  return .bind values nodes

def filterBlock (body : Body) : Parse Node := do
  let first ← filterOf expression none
  let f ← blockFilters (← budget) (some first)
  let (nodes, _) ← block body ["endfilter"]
  return .filterBlock (f.getD first) nodes

def prints : Nat → Bool → Parse (List Node)
  | 0, _ => pure []
  | n + 1, first => do
    if isBlockEnd (← current) then return []
    if !first then expectOperator ","
    let e ← expression
    return .print e :: (← prints n false)

/-- The statement that a tag starts. -/
def tagged? (body : Body) : String → Option (Parse (List Node))
  | "for" => some (List.singleton <$> loop body)
  | "if" => some (List.singleton <$> choose body)
  | "set" => some (List.singleton <$> assign body)
  | "macro" => some (List.singleton <$> routine body)
  | "with" => some (List.singleton <$> bind body)
  | "filter" => some (List.singleton <$> filterBlock body)
  | "print" => some do prints (← budget) true
  | _ => none

def statement (body : Body) : Parse (List Node) := do
  match ← current with
  | some (.name tag) =>
    match tagged? body tag with
    | some p => withBlock tag do advance; p
    | none =>
      let s ← get
      throw (.unknownTag tag (s.sought.headD []) s.sought.flatten s.blocks.head?)
  | _ => throw .noTag

/-- Nodes up to one of some tags, or to the end. -/
def nodesFrom : Nat → List String → Parse (List Node)
  | 0, _ => pure []
  | n + 1, ends => do
    match ← current with
    | some (.data t) =>
      advance
      return .data t :: (← nodesFrom n ends)
    | some .printBegin =>
      advance
      let e ← tuple expression false noEnd
      expectPrintEnd
      return .print e :: (← nodesFrom n ends)
    | some .blockBegin =>
      advance
      let k ← current
      if ends.any (isWord · k) then return []
      let nodes ← statement (nodesFrom n)
      expectBlockEnd
      return nodes ++ (← nodesFrom n ends)
    | _ => return []

def template : Parse (List Node) := do
  checkScan (← get).tokens
  nodesFrom (← budget) []

end Parse

/-- Reads a template. -/
def parse (s : String) : Except ParseError (List Node) :=
  (Parse.template.run { tokens := tokensOf s }).map Prod.fst

end TopicShell.Template
