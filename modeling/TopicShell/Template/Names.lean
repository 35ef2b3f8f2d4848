import TopicShell.Template.Node

/-!
# The names of a template

`undeclared` gives the names that a template takes from outside: those that are read in a scope
where nothing has assigned them yet, also not in a scope around it.  A name that only a branch
assigns still counts as taken from outside.  `absent?` finds the first filter or test that does not
exist; inside a choice a missing one shows only when it is reached.
-/

namespace TopicShell.Template

/-! ## Names in expressions -/

mutual

/-- The names an expression reads, from left to right. -/
def Expr.names : Expr → List String
  | .literal _ => []
  | .name n => [n]
  | .list items | .tuple items | .concat items => namesOf items
  | .dict items => namesOfPairs items
  | .negative e | .positive e | .not e => e.names
  | .and l r | .or l r | .binary _ l r => l.names ++ r.names
  | .compare e rest => e.names ++ namesOfOperands rest
  | .conditional _ c y n => c.names ++ y.names ++ namesOfOption n
  | .attribute e _ => e.names
  | .item e i => e.names ++ i.names
  | .slice a b c => namesOfOption a ++ namesOfOption b ++ namesOfOption c
  | .call f args => f.names ++ namesOfArguments args
  | .filter e _ _ args => namesOfOption e ++ namesOfArguments args
  | .test e _ _ args => e.names ++ namesOfArguments args

def namesOf : List Expr → List String
  | [] => []
  | e :: es => e.names ++ namesOf es

def namesOfPairs : List (Expr × Expr) → List String
  | [] => []
  | (k, v) :: rest => k.names ++ v.names ++ namesOfPairs rest

def namesOfOperands : List (Comparison × Expr) → List String
  | [] => []
  | (_, e) :: rest => e.names ++ namesOfOperands rest

def namesOfOption : Option Expr → List String
  | none => []
  | some e => e.names

def namesOfArguments : List Argument → List String
  | [] => []
  | a :: rest => a.names ++ namesOfArguments rest

def Argument.names : Argument → List String
  | .plain e | .keyword _ e | .spread e | .spreadKeywords e => e.names

end

/-! ## Scopes -/

/-- What is known of a scope: the names it knows, those it assigns, those it takes from outside, and
the names of the scopes around it. -/
structure Scope where
  known : List String := []
  stored : List String := []
  taken : List String := []
  outer : List String := []

namespace Scope

def read (s : Scope) (n : String) : Scope :=
  if s.known.contains n || s.outer.contains n then s
  else { s with known := n :: s.known, taken := n :: s.taken }

def store (s : Scope) (n : String) : Scope :=
  { s with
    stored := n :: s.stored
    known := if s.known.contains n then s.known else n :: s.known }

/-- A name that a scope gets when it is entered. -/
def parameter (s : Scope) (n : String) : Scope :=
  { s with stored := n :: s.stored, known := n :: s.known, taken := s.taken.filter (· ≠ n) }

def readAll (s : Scope) (names : List String) : Scope :=
  names.foldl read s

def assign (s : Scope) (p : Place) : Scope :=
  p.names.foldl store (s.readAll p.spaces)

/-- What is known after one of several branches. -/
def join (s : Scope) (branches : List Scope) : Scope :=
  let stored := (branches.flatMap (·.stored)).filter (!s.stored.contains ·)
  { s with
    known := (branches.flatMap (·.known)) ++ s.known
    stored := stored ++ s.stored
    taken := (branches.flatMap (·.taken)) ++ stored.filter (!s.outer.contains ·) ++ s.taken }

/-- The scope inside this one. -/
def inner (s : Scope) : Scope :=
  { outer := s.known ++ s.outer }

end Scope

/-- Something that is seen once by the scope it stands in. -/
def Scope.addNodes (s : Scope) : List Node → Scope
  | [] => s
  | n :: rest => Scope.addNodes (addNode s n) rest
where
  addNode (s : Scope) : Node → Scope
    | .data _ => s
    | .print e => s.readAll e.names
    | .choose branches otherwise =>
      s.join (addBranches s branches ++ [Scope.addNodes s otherwise])
    | .loop _ items _ _ _ => s.readAll items.names
    | .assign p e => (s.readAll e.names).assign p
    | .assignBlock p _ _ => s.assign p
    | .routine name _ _ => s.store name
    | .bind values _ => s.readAll (values.flatMap (·.2.names))
    | .filterBlock f _ => s.readAll f.names
  addBranches (s : Scope) : List (Expr × List Node) → List Scope
    | [] => []
    | (e, body) :: rest => Scope.addNodes (s.readAll e.names) body :: addBranches s rest

mutual

/-- The names that a list of nodes takes from outside, when it is a scope of its own. -/
def takenBy (s : Scope) (body : List Node) : List String :=
  let s := s.addNodes body
  s.taken ++ takenInside s body

/-- The names that the scopes inside a list of nodes take from outside. -/
def takenInside (s : Scope) : List Node → List String
  | [] => []
  | n :: rest => takenInsideNode s n ++ takenInside s rest

def takenInsideNode (s : Scope) : Node → List String
  | .data _ | .print _ | .assign _ _ => []
  | .choose branches otherwise => takenInsideBranches s branches ++ takenInside s otherwise
  | .loop p _ condition body otherwise =>
    let start := p.names.foldl Scope.parameter s.inner
    let tested := start.readAll (namesOfOption condition)
    tested.taken ++ takenBy (start.parameter "loop") body ++ takenBy s.inner otherwise
  | .assignBlock _ f body => takenBy (s.inner.readAll (namesOfOption f)) body
  | .routine _ parameters body =>
    let start := parameters.foldl (fun s p => s.parameter p.1) s.inner
    let start := ["caller", "varargs", "kwargs"].foldl Scope.parameter start
    takenBy (start.readAll (parameters.flatMap fun p => namesOfOption p.2)) body
  | .bind values body => takenBy (values.foldl (fun s v => v.1.names.foldl Scope.parameter s) s.inner) body
  | .filterBlock _ body => takenBy s.inner body

def takenInsideBranches (s : Scope) : List (Expr × List Node) → List String
  | [] => []
  | (_, body) :: rest => takenInside s body ++ takenInsideBranches s rest

end

/-- The names a template takes from outside, each once, in rising order. -/
def undeclared (body : List Node) : List String :=
  ((takenBy {} body).eraseDups).mergeSort fun a b => !decide (b < a)

/-! ## Filters and tests that do not exist -/

/-- A filter or a test that does not exist. -/
structure Absent where
  isFilter : Bool
  name : String
  line : Nat
  deriving DecidableEq

/-- The names of the filters and tests there are. -/
structure Vocabulary where
  filters : List String
  tests : List String

mutual

/-- The first missing filter or test of an expression; in a `soft` place none is missing. -/
def Expr.absent? (v : Vocabulary) (soft : Bool) : Expr → Option Absent
  | .literal _ | .name _ => none
  | .list items | .tuple items | .concat items => absentOf? v soft items
  | .dict items => absentOfPairs? v soft items
  | .negative e | .positive e | .not e => e.absent? v soft
  | .and l r | .or l r | .binary _ l r => l.absent? v soft <|> r.absent? v soft
  | .compare e rest => e.absent? v soft <|> absentOfOperands? v soft rest
  | .conditional _ c y n => c.absent? v true <|> y.absent? v true <|> absentOfOption? v true n
  | .attribute e _ => e.absent? v soft
  | .item e i => e.absent? v soft <|> i.absent? v soft
  | .slice a b c =>
    absentOfOption? v soft a <|> absentOfOption? v soft b <|> absentOfOption? v soft c
  | .call f args => f.absent? v soft <|> absentOfArguments? v soft args
  | .filter e name line args =>
    if soft || v.filters.contains name then
      absentOfOption? v soft e <|> absentOfArguments? v soft args
    else some ⟨true, name, line⟩
  | .test e name line args =>
    if soft || v.tests.contains name then e.absent? v soft <|> absentOfArguments? v soft args
    else some ⟨false, name, line⟩

def absentOf? (v : Vocabulary) (soft : Bool) : List Expr → Option Absent
  | [] => none
  | e :: es => e.absent? v soft <|> absentOf? v soft es

def absentOfPairs? (v : Vocabulary) (soft : Bool) : List (Expr × Expr) → Option Absent
  | [] => none
  | (k, e) :: rest => k.absent? v soft <|> e.absent? v soft <|> absentOfPairs? v soft rest

def absentOfOperands? (v : Vocabulary) (soft : Bool) : List (Comparison × Expr) → Option Absent
  | [] => none
  | (_, e) :: rest => e.absent? v soft <|> absentOfOperands? v soft rest

def absentOfOption? (v : Vocabulary) (soft : Bool) : Option Expr → Option Absent
  | none => none
  | some e => e.absent? v soft

def absentOfArguments? (v : Vocabulary) (soft : Bool) : List Argument → Option Absent
  | [] => none
  | a :: rest => a.absent? v soft <|> absentOfArguments? v soft rest

def Argument.absent? (v : Vocabulary) (soft : Bool) : Argument → Option Absent
  | .plain e | .keyword _ e | .spread e | .spreadKeywords e => e.absent? v soft

end

mutual

/-- The first missing filter or test of a list of nodes. -/
def absentIn? (v : Vocabulary) (soft : Bool) : List Node → Option Absent
  | [] => none
  | n :: rest => absentInNode? v soft n <|> absentIn? v soft rest

def absentInNode? (v : Vocabulary) (soft : Bool) : Node → Option Absent
  | .data _ => none
  | .print e | .assign _ e => e.absent? v soft
  | .choose branches otherwise => absentInBranches? v branches <|> absentIn? v true otherwise
  | .loop _ items condition body otherwise =>
    absentOfOption? v false condition <|> items.absent? v soft <|> absentIn? v false body
      <|> absentIn? v false otherwise
  | .assignBlock _ f body => absentIn? v false body <|> absentOfOption? v false f
  | .routine _ parameters body =>
    parameters.findSome? (fun p => absentOfOption? v false p.2) <|> absentIn? v false body
  | .bind values body => values.findSome? (fun p => p.2.absent? v soft) <|> absentIn? v false body
  | .filterBlock f body => absentIn? v false body <|> f.absent? v soft

def absentInBranches? (v : Vocabulary) : List (Expr × List Node) → Option Absent
  | [] => none
  | (e, body) :: rest =>
    e.absent? v true <|> absentIn? v true body <|> absentInBranches? v rest

end

end TopicShell.Template
