import TopicShell.Data.Datum
import TopicShell.Yaml.Lexer
import TopicShell.Yaml.Node

/-!
# The data of a YAML text

`read` gives the datum that a text stands for.  Before the values are built, every mapping takes in
the mappings that it merges: their entries come in front of its own, and of several merged mappings
the first one wins.  A collection cannot be a key.
-/

namespace TopicShell.Yaml

abbrev Entries := List (Node × Node)

namespace Node

/-! ## Merging -/

/-- The entries of each of the nodes, which are mappings, with those of the last node in front. -/
def lentBackwards : List Node → Except Fault Entries
  | [] => .ok []
  | mapping _ entries :: rest => (lentBackwards rest).map (· ++ entries)
  | _ :: _ => .error .malformed

/-- The entries that a mapping takes in. -/
def lent : Node → Except Fault Entries
  | mapping _ entries => .ok entries
  | sequence _ items => lentBackwards items
  | scalar .. => .error .malformed

/-- A key for a main value is a text. -/
def plainKey : Node → Node
  | scalar .value text => scalar .text text
  | key => key

/-- What the entries take in, and the entries themselves. -/
def divide : Entries → Except Fault (Entries × Entries)
  | [] => .ok ([], [])
  | (key, value) :: rest => do
    let (taken, own) ← divide rest
    if key.tag = .merge then pure ((← value.lent) ++ taken, own)
    else pure (taken, (key.plainKey, value) :: own)

mutual

/-- A node in which all merging is done. -/
def merged : Node → Except Fault Node
  | scalar t text => .ok (scalar t text)
  | sequence t items => (mergedItems items).map (sequence t)
  | mapping t entries => do
    let (taken, own) ← divide (← mergedEntries entries)
    pure (mapping t (taken ++ own))

def mergedItems : List Node → Except Fault (List Node)
  | [] => .ok []
  | n :: rest => do
    let n ← n.merged
    pure (n :: (← mergedItems rest))

def mergedEntries : Entries → Except Fault Entries
  | [] => .ok []
  | (key, value) :: rest => do
    let key ← key.merged
    let value ← value.merged
    pure ((key, value) :: (← mergedEntries rest))

end

/-! ## Values -/

/-- The text of a date with its time of day. -/
def momentText (t : Form.Timestamp) (hour minute second : Nat) : String :=
  let micros := (t.fraction ++ List.replicate 6 0).take 6
  let fraction := if micros.all (· = 0) then "" else
    "." ++ String.ofList (micros.flatMap Text.Integer.ofNat)
  let zone := match t.zone with
    | none => ""
    | some (west, hours, minutes) =>
      let isWest := west && !(hours = 0 && minutes = 0)
      (if isWest then "-" else "+") ++ Datum.twoDigits hours ++ ":" ++ Datum.twoDigits minutes
  Datum.dateText t.year t.month t.day ++ " " ++ Datum.twoDigits hour ++ ":"
    ++ Datum.twoDigits minute ++ ":" ++ Datum.twoDigits second ++ fraction ++ zone

def timestampDatum (text : String) : Except Fault Datum :=
  match Form.timestamp? text.toList with
  | none => .error .malformed
  | some t => do
    t.check
    match t.time with
    | none => pure (.date t.year t.month t.day)
    | some (hour, minute, second) => pure (.moment (momentText t hour minute second))

/-- The datum of a scalar with its tag. -/
def scalarDatum (text : String) : Tag → Except Fault Datum
  | .null => .ok .null
  | .bool => (Form.bool text).map .bool
  | .int => (Form.int text).map .int
  | .real => (Form.real text).map .real
  | .timestamp => timestampDatum text
  | .text => .ok (.text text)
  | .list | .dict | .set | .merge | .value | .unknown => .error .malformed

mutual

/-- The datum of a node in which all merging is done. -/
def datum : Node → Except Fault Datum
  | scalar t text => scalarDatum text t
  | sequence t items =>
    if t = .list then (data items).map .list else .error .malformed
  | mapping t entries =>
    if t = .dict then (entryData entries).map fun es => .dict (Datum.ofEntries es)
    else if t = .set then
      (entryData entries).map fun es => .set ((Datum.ofEntries es).map Prod.fst)
    else .error .malformed

def data : List Node → Except Fault (List Datum)
  | [] => .ok []
  | n :: rest => do
    let d ← n.datum
    pure (d :: (← data rest))

def entryData : Entries → Except Fault (List Datum.Entry)
  | [] => .ok []
  | (key, value) :: rest => do
    let k ← key.datum
    if !k.isKey then throw .malformed
    let v ← value.datum
    pure ((k, v) :: (← entryData rest))

end

end Node

/-- The datum of a text; an empty text stands for nothing. -/
def read (cs : List Char) : Except Fault Datum := do
  match ← Node.ofTokens (← tokens cs) with
  | none => pure .null
  | some root => (← root.merged).datum

end TopicShell.Yaml
