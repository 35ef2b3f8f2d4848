import TopicShell.Yaml.Tag
import TopicShell.Yaml.Token

/-!
# The tree of a YAML text

Nodes are put together from the tokens.  An anchor gives a node a name, and an alias stands for the
node that was named before; a name cannot be given twice.  A text is at most one document.
-/

namespace TopicShell.Yaml

inductive Node where
  | scalar (tag : Tag) (text : String)
  | sequence (tag : Tag) (items : List Node)
  | mapping (tag : Tag) (entries : List (Node × Node))

namespace Node

def tag : Node → Tag
  | scalar t _ => t
  | sequence t _ => t
  | mapping t _ => t

/-- What an empty place stands for. -/
def nothing : Node :=
  scalar .null ""

/-- What is known while tokens are put together. -/
structure Progress where
  tokens : List Token
  /-- The names that are taken. -/
  names : List String := []
  anchors : List (String × Node) := []
  /-- What the short forms at the start of tags stand for. -/
  handles : List (String × String) := []

abbrev Build := StateT Progress (Except Fault)

def standardHandles : List (String × String) := [("!", "!"), ("!!", Tag.standard)]

def peek : Build (Option Token) := do
  pure (← get).tokens.head?

def drop : Build Unit :=
  modify fun p => { p with tokens := p.tokens.tail }

def isNext (t : Token) : Build Bool := do
  pure ((← peek) == some t)

def isNextOf (ts : List Token) : Build Bool := do
  match ← peek with
  | some t => pure (ts.contains t)
  | none => pure false

/-! ## Properties -/

def anchorName? : Build (Option String) := do
  match ← peek with
  | some (.anchor n) => drop; pure (some n)
  | _ => pure none

/-- A tag written out. -/
def tagText? : Build (Option String) := do
  match ← peek with
  | some (.tag none suffix) => drop; pure (some suffix)
  | some (.tag (some handle) suffix) =>
    drop
    match (← get).handles.lookup handle with
    | some start => pure (some (start ++ suffix))
    | none => throw .malformed
  | _ => pure none

/-- The anchor and the tag of a node, in any order. -/
def properties : Build (Option String × Option String) := do
  match ← anchorName? with
  | some n => pure (some n, ← tagText?)
  | none =>
    match ← tagText? with
    | some t => pure (← anchorName?, some t)
    | none => pure (none, none)

/-- Takes the name of an anchor. -/
def claim : Option String → Build Unit
  | none => pure ()
  | some n => do
    if (← get).names.contains n then throw .malformed
    modify fun p => { p with names := n :: p.names }

/-- Names a node. -/
def bindAnchor (anchor : Option String) (node : Node) : Build Node := do
  match anchor with
  | none => pure node
  | some n =>
    modify fun p => { p with anchors := (n, node) :: p.anchors }
    pure node

/-- A tag that says no more than that there is one. -/
def bareTag : String := "!"

def scalarTag (written : Option String) (isPlain : Bool) (text : String) : Tag :=
  match written with
  | none => if isPlain then Tag.ofPlain text else .text
  | some t => if t = bareTag then Tag.ofPlain text else Tag.ofUri t

def collectionTag (written : Option String) (default : Tag) : Tag :=
  match written with
  | none => default
  | some t => if t = bareTag then default else Tag.ofUri t

/-! ## Nodes -/

mutual

/-- One node.  Block collections are possible outside brackets only, and items without indentation
only as the value or key of a mapping.  Every token costs at most three rounds. -/
def node : Nat → Bool → Bool → Build Node
  | 0, _, _ => throw .malformed
  | fuel + 1, inBlock, mayBeItems => do
    match ← peek with
    | some (.alias n) =>
      drop
      match (← get).anchors.lookup n with
      | some node => pure node
      | none => throw .malformed
    | _ =>
      let (anchor, written) ← properties
      claim anchor
      let content ← match ← peek with
        | some .blockEntry =>
          if mayBeItems then sequence (collectionTag written .list) <$> looseItems fuel
          else empty anchor written
        | some (.scalar isPlain text) => do
          drop
          pure (scalar (scalarTag written isPlain text) text)
        | some .flowSequence => do
          drop
          sequence (collectionTag written .list) <$> flowItems fuel true
        | some .flowMapping => do
          drop
          mapping (collectionTag written .dict) <$> flowEntries fuel true
        | some .blockSequence =>
          if inBlock then do
            drop
            sequence (collectionTag written .list) <$> blockItems fuel
          else empty anchor written
        | some .blockMapping =>
          if inBlock then do
            drop
            mapping (collectionTag written .dict) <$> blockEntries fuel
          else empty anchor written
        | _ => empty anchor written
      bindAnchor anchor content

/-- A node that is left out; it needs an anchor or a tag to be one. -/
def empty (anchor written : Option String) : Build Node :=
  if anchor.isSome || written.isSome then pure (scalar (scalarTag written true "") "")
  else throw .malformed

/-- A node, or nothing if one of some tokens comes next. -/
def nodeUnless : Nat → List Token → Bool → Bool → Build Node
  | 0, _, _, _ => throw .malformed
  | fuel + 1, stops, inBlock, mayBeItems => do
    if ← isNextOf stops then pure nothing else node fuel inBlock mayBeItems

def blockItems : Nat → Build (List Node)
  | 0 => throw .malformed
  | fuel + 1 => do
    if ← isNext .blockEntry then
      drop
      let item ← nodeUnless fuel [.blockEntry, .blockEnd] true false
      return item :: (← blockItems fuel)
    if !(← isNext .blockEnd) then throw .malformed
    drop
    pure []

/-- The items of a sequence that is not indented; something else ends it. -/
def looseItems : Nat → Build (List Node)
  | 0 => throw .malformed
  | fuel + 1 => do
    if ← isNext .blockEntry then
      drop
      let item ← nodeUnless fuel [.blockEntry, .key, .value, .blockEnd] true false
      return item :: (← looseItems fuel)
    pure []

def blockEntries : Nat → Build (List (Node × Node))
  | 0 => throw .malformed
  | fuel + 1 => do
    if ← isNext .key then
      drop
      let key ← nodeUnless fuel [.key, .value, .blockEnd] true true
      let value ← if ← isNext .value then do
          drop
          nodeUnless fuel [.key, .value, .blockEnd] true true
        else pure nothing
      return (key, value) :: (← blockEntries fuel)
    if !(← isNext .blockEnd) then throw .malformed
    drop
    pure []

/-- The value after a key in brackets that end with `close`. -/
def flowValue : Nat → Token → Build Node
  | 0, _ => throw .malformed
  | fuel + 1, close => do
    if ← isNext .value then
      drop
      nodeUnless fuel [.flowEntry, close] false false
    else pure nothing

/-- A key in brackets that end with `close`, and its value. -/
def flowPair : Nat → Token → Build (Node × Node)
  | 0, _ => throw .malformed
  | fuel + 1, close => do
    drop
    let key ← nodeUnless fuel [.value, .flowEntry, close] false false
    pure (key, ← flowValue fuel close)

def flowItems : Nat → Bool → Build (List Node)
  | 0, _ => throw .malformed
  | fuel + 1, isFirst => do
    if !(← isNext .flowSequenceEnd) && !isFirst then
      if !(← isNext .flowEntry) then throw .malformed
      drop
    if ← isNext .flowSequenceEnd then
      drop
      return []
    let item ← if ← isNext .key then do
        pure (mapping .dict [← flowPair fuel .flowSequenceEnd])
      else node fuel false false
    return item :: (← flowItems fuel false)

def flowEntries : Nat → Bool → Build (List (Node × Node))
  | 0, _ => throw .malformed
  | fuel + 1, isFirst => do
    if !(← isNext .flowMappingEnd) && !isFirst then
      if !(← isNext .flowEntry) then throw .malformed
      drop
    if ← isNext .flowMappingEnd then
      drop
      return []
    let entry ← if ← isNext .key then flowPair fuel .flowMappingEnd
      else do pure (← node fuel false false, nothing)
    return entry :: (← flowEntries fuel false)

end

/-! ## Documents -/

/-- The directives in front of a document: each of them can be given once. -/
def directives : Nat → Bool → List (String × String) → Build (List (String × String))
  | 0, _, _ => throw .malformed
  | fuel + 1, hasVersion, handles => do
    match ← peek with
    | some (.directive d) =>
      drop
      match d with
      | .version major =>
        if hasVersion || major ≠ 1 then throw .malformed
        directives fuel true handles
      | .handle name uri =>
        if (handles.lookup name).isSome then throw .malformed
        directives fuel hasVersion ((name, uri) :: handles)
      | .other => directives fuel hasVersion handles
    | _ => pure handles

/-- The node of a document after its directives and its mark. -/
def marked (fuel : Nat) : Build Node := do
  let handles ← directives fuel false []
  if !(← isNext .documentStart) then throw .malformed
  drop
  modify fun p => { p with handles := handles ++ standardHandles }
  match ← peek with
  | none | some (.directive _) | some .documentStart | some .documentEnd => pure nothing
  | _ => node fuel true false

/-- The node of the only document, if there is one. -/
def document (fuel : Nat) : Build (Option Node) := do
  let root ← match ← peek with
    | none => return none
    | some (.directive _) | some .documentStart => marked fuel
    | _ => node fuel true false
  if (← get).tokens.all (· == .documentEnd) then pure (some root) else throw .malformed

def ofTokens (ts : List Token) : Except Fault (Option Node) := do
  let (root, _) ← (document (3 * ts.length + 3)).run { tokens := ts, handles := standardHandles }
  pure root

end Node

end TopicShell.Yaml
