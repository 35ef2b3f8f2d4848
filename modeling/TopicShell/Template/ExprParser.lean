import TopicShell.Template.Node
import TopicShell.Template.Token

/-!
# Parsing expressions

Every level of precedence is a parser over the parser of whole expressions, which stands for what
is inside brackets.  `expression` ties the knot; its depth is bounded by the number of tokens.
-/

namespace TopicShell.Template

/-- The tokens ahead, the open blocks, and the tags that each of them waits for. -/
structure ParseState where
  tokens : List Token
  blocks : List String := []
  sought : List (List String) := []

abbrev Parse := StateT ParseState (Except ParseError)

namespace Parse

/-- Fails if the scan failed at the token at hand. -/
def checkScan : List Token → Parse Unit
  | ⟨.fault e, _⟩ :: _ => throw e
  | _ => pure ()

def current : Parse (Option TokenKind) := do
  return (← get).tokens.head?.map (·.kind)

def line : Parse Nat := do
  return ((← get).tokens.head?.map (·.line)).getD 1

def advance : Parse Unit := do
  let rest := (← get).tokens.tail
  modify fun s => { s with tokens := rest }
  checkScan rest

/-- The token after the one at hand. -/
def ahead : Parse (Option TokenKind) := do
  let rest := (← get).tokens.tail
  checkScan rest
  return rest.head?.map (·.kind)

/-- Enough steps to read all tokens ahead. -/
def budget : Parse Nat := do
  return (← get).tokens.length + 1

def describe : Option TokenKind → String
  | some k => k.description
  | none => "end of template"

def isOperator (o : String) : Option TokenKind → Bool
  | some (.operator t) => t == o
  | _ => false

def isWord (w : String) : Option TokenKind → Bool
  | some (.name n) => n == w
  | _ => false

def isBlockEnd : Option TokenKind → Bool
  | some .blockEnd => true
  | _ => false

/-- Fails because something else was expected. -/
def missing {α : Type} (what : String) : Parse α := do
  match ← current with
  | none => throw (.expectedAtEnd what)
  | some k => throw (.expected what k.description)

def expectOperator (o : String) : Parse Unit := do
  if isOperator o (← current) then advance else missing o

def expectWord (w : String) : Parse Unit := do
  if isWord w (← current) then advance else missing w

def expectName : Parse String := do
  match ← current with
  | some (.name n) => advance; return n
  | _ => missing "name"

def expectPrintEnd : Parse Unit := do
  match ← current with
  | some .printEnd => advance
  | _ => missing TokenKind.printEnd.description

def expectBlockEnd : Parse Unit := do
  if isBlockEnd (← current) then advance else missing TokenKind.blockEnd.description

/-- Takes an operator if it is there. -/
def skipOperator (o : String) : Parse Bool := do
  if isOperator o (← current) then advance; return true
  else return false

def skipWord (w : String) : Parse Bool := do
  if isWord w (← current) then advance; return true
  else return false

/-! ## Repetition -/

/-- Operators of one level, joined from the left. -/
def joined (op? : TokenKind → Option (Expr → Expr → Expr)) (operand : Parse Expr) :
    Nat → Expr → Parse Expr
  | 0, left => pure left
  | n + 1, left => do
    match (← current).bind op? with
    | some join =>
      advance
      joined op? operand n (join left (← operand))
    | none => pure left

def leftAssociative (op? : TokenKind → Option (Expr → Expr → Expr)) (operand : Parse Expr) :
    Parse Expr := do
  joined op? operand (← budget) (← operand)

/-- Applies a step as long as it has something to add. -/
def extended (step? : Expr → Parse (Option Expr)) : Nat → Expr → Parse Expr
  | 0, e => pure e
  | n + 1, e => do
    match ← step? e with
    | some e => extended step? n e
    | none => pure e

/-- Items with commas between them up to a closing bracket, which may follow a comma. -/
def itemsUntil {α : Type} (close : String) (item : Parse α) : Nat → Bool → Parse (List α)
  | 0, _ => pure []
  | n + 1, first => do
    if isOperator close (← current) then return []
    if !first then
      expectOperator ","
      if isOperator close (← current) then return []
    let x ← item
    return x :: (← itemsUntil close item n false)

def bracketed {α : Type} (opening close : String) (item : Parse α) : Parse (List α) := do
  expectOperator opening
  let xs ← itemsUntil close item (← budget) true
  expectOperator close
  return xs

/-! ## Tuples -/

def endsTuple (also : Option TokenKind → Bool) (k : Option TokenKind) : Bool :=
  also k || match k with
    | some .printEnd | some .blockEnd => true
    | k => isOperator ")" k

/-- Items with commas between them, and whether there was a comma. -/
def tupleItems (item : Parse Expr) (also : Option TokenKind → Bool) :
    Nat → Bool → Parse (List Expr × Bool)
  | 0, _ => pure ([], false)
  | n + 1, first => do
    if !first then expectOperator ","
    if endsTuple also (← current) then return ([], false)
    let x ← item
    if isOperator "," (← current) then
      return (x :: (← tupleItems item also n false).1, true)
    else return ([x], false)

/-- One expression, or a tuple if there is a comma; only brackets (`closed`) can hold none. -/
def tuple (item : Parse Expr) (closed : Bool) (also : Option TokenKind → Bool) : Parse Expr := do
  match ← tupleItems item also (← budget) true with
  | ([x], false) => return x
  | ([], false) =>
    if closed then return .tuple []
    else throw (.noExpression (describe (← current)))
  | (xs, _) => return .tuple xs

def noEnd : Option TokenKind → Bool :=
  fun _ => false

/-! ## Calls -/

/-- What may still come in a list of arguments. -/
structure ArgumentRules where
  plain : Bool := true
  spread : Bool := true
  keywords : Bool := true

def argument (sub : Parse Expr) (r : ArgumentRules) : Parse (Argument × ArgumentRules) := do
  let ensure (b : Bool) : Parse Unit := if b then pure () else throw .callArguments
  let k ← current
  if isOperator "*" k then
    ensure (r.spread && r.keywords)
    advance
    return (.spread (← sub), { r with plain := false, spread := false })
  else if isOperator "**" k then
    ensure r.keywords
    advance
    return (.spreadKeywords (← sub), ⟨false, false, false⟩)
  else
    match k with
    | some (.name n) =>
      if isOperator "=" (← ahead) then
        ensure r.keywords
        advance
        advance
        return (.keyword n (← sub), { r with plain := false })
      else
        ensure r.plain
        return (.plain (← sub), r)
    | _ =>
      ensure r.plain
      return (.plain (← sub), r)

def argumentsFrom (sub : Parse Expr) : Nat → ArgumentRules → Bool → Parse (List Argument)
  | 0, _, _ => pure []
  | n + 1, r, first => do
    if isOperator ")" (← current) then return []
    if !first then
      expectOperator ","
      if isOperator ")" (← current) then return []
    let (a, r) ← argument sub r
    return a :: (← argumentsFrom sub n r false)

def arguments (sub : Parse Expr) : Parse (List Argument) := do
  expectOperator "("
  let xs ← argumentsFrom sub (← budget) {} true
  expectOperator ")"
  return xs

/-! ## The levels -/

/-- Texts that stand side by side are one text. -/
def moreText : Nat → Parse String
  | 0 => pure ""
  | n + 1 => do
    match ← current with
    | some (.text t) =>
      advance
      return t ++ (← moreText n)
    | _ => pure ""

def wordValue (w : String) : Expr :=
  if w = "true" || w = "True" then .literal (.bool true)
  else if w = "false" || w = "False" then .literal (.bool false)
  else if w = "none" || w = "None" then .literal .none
  else .name w

def pair (sub : Parse Expr) : Parse (Expr × Expr) := do
  let key ← sub
  expectOperator ":"
  return (key, ← sub)

def primary (sub : Parse Expr) : Parse Expr := do
  let k ← current
  match k with
  | some (.name w) => advance; return wordValue w
  | some (.text t) =>
    advance
    return .literal (.text (t ++ (← moreText (← budget))))
  | some (.integer n) => advance; return .literal (.int n)
  | some (.real x) => advance; return .literal (.real x)
  | some (.operator "(") =>
    advance
    let e ← tuple sub true noEnd
    expectOperator ")"
    return e
  | some (.operator "[") => return .list (← bracketed "[" "]" sub)
  | some (.operator "\x7b") => return .dict (← bracketed "\x7b" "\x7d" (pair sub))
  | k => throw (.unexpected (describe k))

/-- The part of a slice after a colon, if there is one. -/
def sliceEnd (sub : Parse Expr) (alsoColon : Bool) : Parse (Option Expr) := do
  let k ← current
  if isOperator "]" k || isOperator "," k || (alsoColon && isOperator ":" k) then return none
  else return some (← sub)

/-- An index or a slice. -/
def subscribed (sub : Parse Expr) : Parse Expr := do
  let start ← if isOperator ":" (← current) then pure none else some <$> sub
  if isOperator ":" (← current) then
    advance
    let stop ← sliceEnd sub true
    let step ← if ← skipOperator ":" then sliceEnd sub false else pure none
    return .slice start stop step
  else return start.getD (.tuple [])

def subscripts (sub : Parse Expr) : Nat → Bool → Parse (List Expr)
  | 0, _ => pure []
  | n + 1, first => do
    if isOperator "]" (← current) then return []
    if !first then expectOperator ","
    let x ← subscribed sub
    return x :: (← subscripts sub n false)

def attributeOf (e : Expr) : Parse Expr := do
  match ← current with
  | some (.name n) => advance; return .attribute e n
  | some (.integer n) => advance; return .item e (.literal (.int n))
  | _ => advance; throw .subscript

def itemOf (sub : Parse Expr) (e : Expr) : Parse Expr := do
  let xs ← subscripts sub (← budget) true
  expectOperator "]"
  match xs with
  | [x] => return .item e x
  | xs => return .item e (.tuple xs)

def postfixStep? (sub : Parse Expr) (e : Expr) : Parse (Option Expr) := do
  match ← current with
  | some (.operator ".") => advance; some <$> attributeOf e
  | some (.operator "[") => advance; some <$> itemOf sub e
  | some (.operator "(") => return some (.call e (← arguments sub))
  | _ => return none

def dottedRest : Nat → Parse String
  | 0 => pure ""
  | n + 1 => do
    if ← skipOperator "." then
      let part ← expectName
      return "." ++ part ++ (← dottedRest n)
    else return ""

def dottedName : Parse String := do
  let first ← expectName
  return first ++ (← dottedRest (← budget))

def optionalArguments (sub : Parse Expr) : Parse (List Argument) := do
  if isOperator "(" (← current) then arguments sub else return []

/-- A filter after its bar. -/
def filterOf (sub : Parse Expr) (subject : Option Expr) : Parse Expr := do
  let line ← line
  let name ← dottedName
  return .filter subject name line (← optionalArguments sub)

/-- The token can start the operand of a test that stands without brackets. -/
def startsOperand (k : Option TokenKind) : Bool :=
  match k with
  | some (.name w) => !(["else", "or", "and"].contains w)
  | some (.text _) | some (.integer _) | some (.real _) => true
  | k => isOperator "[" k || isOperator "\x7b" k

def applied (sub : Parse Expr) (e : Expr) : Parse Expr := do
  extended (postfixStep? sub) (← budget) e

/-- A test after its word. -/
def testOf (sub : Parse Expr) (subject : Expr) : Parse Expr := do
  let line ← line
  advance
  let negated ← skipWord "not"
  let name ← dottedName
  let k ← current
  let operands ←
    if isOperator "(" k then arguments sub
    else if startsOperand k then do
      if isWord "is" k then throw .chainedTests
      pure [.plain (← applied sub (← primary sub))]
    else pure []
  let test := Expr.test subject name line operands
  return if negated then .not test else test

def filterStep? (sub : Parse Expr) (e : Expr) : Parse (Option Expr) := do
  match ← current with
  | some (.operator "|") => advance; some <$> filterOf sub (some e)
  | some (.name "is") => some <$> testOf sub e
  | some (.operator "(") => return some (.call e (← arguments sub))
  | _ => return none

/-- The signs in front of an operand, outermost first. -/
def signs : Nat → Parse (List (Expr → Expr))
  | 0 => pure []
  | n + 1 => do
    if ← skipOperator "-" then return .negative :: (← signs n)
    else if ← skipOperator "+" then return .positive :: (← signs n)
    else return []

def unary (sub : Parse Expr) : Parse Expr := do
  let signs ← signs (← budget)
  let e ← applied sub (← primary sub)
  extended (filterStep? sub) (← budget) (signs.foldr (fun sign e => sign e) e)

def power? : TokenKind → Option (Expr → Expr → Expr)
  | .operator "**" => some (.binary .pow)
  | _ => none

def product? : TokenKind → Option (Expr → Expr → Expr)
  | .operator "*" => some (.binary .mul)
  | .operator "/" => some (.binary .div)
  | .operator "//" => some (.binary .floorDiv)
  | .operator "%" => some (.binary .rem)
  | _ => none

def sum? : TokenKind → Option (Expr → Expr → Expr)
  | .operator "+" => some (.binary .add)
  | .operator "-" => some (.binary .sub)
  | _ => none

def product (sub : Parse Expr) : Parse Expr :=
  leftAssociative product? (leftAssociative power? (unary sub))

def concatRest (operand : Parse Expr) : Nat → Parse (List Expr)
  | 0 => pure []
  | n + 1 => do
    if ← skipOperator "~" then
      let e ← operand
      return e :: (← concatRest operand n)
    else return []

def concatenation (sub : Parse Expr) : Parse Expr := do
  let first ← product sub
  match ← concatRest (product sub) (← budget) with
  | [] => return first
  | more => return .concat (first :: more)

def sum (sub : Parse Expr) : Parse Expr :=
  leftAssociative sum? (concatenation sub)

def comparison? : TokenKind → Option Comparison
  | .operator "==" => some .eq
  | .operator "!=" => some .ne
  | .operator "<" => some .lt
  | .operator "<=" => some .le
  | .operator ">" => some .gt
  | .operator ">=" => some .ge
  | .name "in" => some .isIn
  | _ => none

def comparisons (operand : Parse Expr) : Nat → Parse (List (Comparison × Expr))
  | 0 => pure []
  | n + 1 => do
    let k ← current
    match k.bind comparison? with
    | some c =>
      advance
      let e ← operand
      return (c, e) :: (← comparisons operand n)
    | none =>
      if isWord "not" k then
        if isWord "in" (← ahead) then
          advance
          advance
          let e ← operand
          return (.notIn, e) :: (← comparisons operand n)
        else return []
      else return []

def comparison (sub : Parse Expr) : Parse Expr := do
  let first ← sum sub
  match ← comparisons (sum sub) (← budget) with
  | [] => return first
  | rest => return .compare first rest

def nots : Nat → Parse Nat
  | 0 => pure 0
  | n + 1 => do
    if ← skipWord "not" then return (← nots n) + 1 else return 0

def negation (sub : Parse Expr) : Parse Expr := do
  let n ← nots (← budget)
  let e ← comparison sub
  return n.repeat .not e

def and? : TokenKind → Option (Expr → Expr → Expr)
  | .name "and" => some .and
  | _ => none

def or? : TokenKind → Option (Expr → Expr → Expr)
  | .name "or" => some .or
  | _ => none

def disjunction (sub : Parse Expr) : Parse Expr :=
  leftAssociative or? (leftAssociative and? (negation sub))

def conditionStep? (sub : Parse Expr) (line : Nat) (e : Expr) : Parse (Option Expr) := do
  if ← skipWord "if" then
    let condition ← disjunction sub
    let no ← if ← skipWord "else" then some <$> sub else pure none
    return some (.conditional line condition e no)
  else return none

def conditional (sub : Parse Expr) : Parse Expr := do
  let line ← line
  let e ← disjunction sub
  extended (conditionStep? sub line) (← budget) e

/-- A whole expression, with brackets nested at most to a depth. -/
def nested : Nat → Parse Expr
  | 0 => do throw (.unexpected (describe (← current)))
  | depth + 1 => conditional (nested depth)

def expression : Parse Expr := do
  nested (← budget)

/-- An expression without a condition at its top. -/
def unconditional : Parse Expr :=
  disjunction expression

end Parse

end TopicShell.Template
