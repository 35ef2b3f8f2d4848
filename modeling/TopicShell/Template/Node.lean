/-!
# Templates as trees

Expressions and the nodes of a template.  What messages report with its line keeps that line.
-/

namespace TopicShell.Template

inductive Literal where
  | none
  | bool (value : Bool)
  | int (value : Int)
  | real (value : Float)
  | text (value : String)

inductive BinaryOp where
  | add
  | sub
  | mul
  | div
  | floorDiv
  | rem
  | pow
  deriving DecidableEq

def BinaryOp.text : BinaryOp → String
  | add => "+"
  | sub => "-"
  | mul => "*"
  | div => "/"
  | floorDiv => "//"
  | rem => "%"
  | pow => "**"

inductive Comparison where
  | eq
  | ne
  | lt
  | le
  | gt
  | ge
  | isIn
  | notIn
  deriving DecidableEq

mutual

inductive Expr where
  | literal (value : Literal)
  | name (name : String)
  | list (items : List Expr)
  | tuple (items : List Expr)
  | dict (items : List (Expr × Expr))
  | negative (e : Expr)
  | positive (e : Expr)
  | not (e : Expr)
  | and (left right : Expr)
  | or (left right : Expr)
  | binary (op : BinaryOp) (left right : Expr)
  | concat (parts : List Expr)
  | compare (first : Expr) (rest : List (Comparison × Expr))
  | conditional (line : Nat) (condition yes : Expr) (no : Option Expr)
  | attribute (e : Expr) (name : String)
  | item (e index : Expr)
  | slice (start stop step : Option Expr)
  | call (callee : Expr) (arguments : List Argument)
  /-- A filter without a subject filters the text of a block. -/
  | filter (subject : Option Expr) (name : String) (line : Nat) (arguments : List Argument)
  | test (subject : Expr) (name : String) (line : Nat) (arguments : List Argument)

inductive Argument where
  | plain (value : Expr)
  | keyword (name : String) (value : Expr)
  | spread (values : Expr)
  | spreadKeywords (values : Expr)

end

/-- What an assignment can assign to. -/
inductive Place where
  | name (name : String)
  | field (space name : String)
  | tuple (items : List Place)

inductive Node where
  | data (text : String)
  | print (e : Expr)
  | choose (branches : List (Expr × List Node)) (otherwise : List Node)
  | loop (place : Place) (items : Expr) (condition : Option Expr) (body otherwise : List Node)
  | assign (place : Place) (value : Expr)
  /-- The text of a block, filtered by the expression. -/
  | assignBlock (place : Place) (filter : Option Expr) (body : List Node)
  | routine (name : String) (parameters : List (String × Option Expr)) (body : List Node)
  | bind (values : List (Place × Expr)) (body : List Node)
  | filterBlock (filter : Expr) (body : List Node)

/-- The names a place assigns to. -/
def Place.names : Place → List String
  | name n => [n]
  | field _ _ => []
  | tuple items => namesOf items
where
  namesOf : List Place → List String
    | [] => []
    | p :: ps => p.names ++ namesOf ps

/-- The namespaces a place assigns into. -/
def Place.spaces : Place → List String
  | name _ => []
  | field space _ => [space]
  | tuple items => spacesOf items
where
  spacesOf : List Place → List String
    | [] => []
    | p :: ps => p.spaces ++ spacesOf ps

end TopicShell.Template
