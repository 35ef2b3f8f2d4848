import TopicShell.Line.Words
import TopicShell.Line.Heredoc

/-!
# Chains

A line is a chain of commands joined by links.  `|` and `|&` pass the output on, the other links
store it in the file that the command after them names; the ones with `&` take the error output
along.  A link that stores can only be the last one.  A bare `&` at the end makes the chain long
term.  Groups without a word between two links give no command, but their links stay.
-/

namespace TopicShell.Line

inductive Link where
  | pipe
  | pipeBoth
  | write
  | writeBoth
  | append
  | appendBoth
  deriving DecidableEq

namespace Link

def text : Link → String
  | pipe => "|"
  | pipeBoth => "|&"
  | write => ">"
  | writeBoth => ">&"
  | append => ">>"
  | appendBoth => ">>&"

def all : List Link := [pipe, pipeBoth, write, writeBoth, append, appendBoth]

def ofWord? (word : String) : Option Link :=
  all.find? (·.text == word)

theorem ofWord?_text (l : Link) : ofWord? l.text = some l := by
  cases l <;> decide

theorem text_of_ofWord? {w : String} {l : Link} (h : ofWord? w = some l) : l.text = w := by
  simpa using List.find?_some h

/-- The link stores what it gets in a file. -/
def stores : Link → Bool
  | pipe | pipeBoth => false
  | write | writeBoth | append | appendBoth => true

/-- The link takes the error output along. -/
def takesErrors : Link → Bool
  | pipeBoth | writeBoth | appendBoth => true
  | pipe | write | append => false

/-- The link keeps what the file holds. -/
def keepsContent : Link → Bool
  | append | appendBoth => true
  | pipe | pipeBoth | write | writeBoth => false

end Link

/-- A name with its arguments: a command, or the target of a link that stores. -/
structure Command where
  name : String
  arguments : List String := []
  deriving DecidableEq

namespace Command

def words (c : Command) : List String :=
  c.name :: c.arguments

def text (c : Command) : String :=
  Words.join c.words

def ofWords? : List String → Option Command
  | [] => none
  | name :: arguments => some ⟨name, arguments⟩

theorem words_of_ofWords? {ws : List String} {c : Command} (h : ofWords? ws = some c) :
    c.words = ws := by
  cases ws with
  | nil => simp [ofWords?] at h
  | cons w ws => simp only [ofWords?, Option.some.injEq] at h; subst h; rfl

end Command

/-- The word that makes a chain long term. -/
def longTermWord : String := "&"

structure Chain where
  commands : List Command := []
  links : List Link := []
  /-- All words of the line, links and the body of a heredoc included. -/
  words : List String := []
  heredoc : Bool := false
  deriving DecidableEq

namespace Chain

def stores (c : Chain) : Bool :=
  c.links.getLast?.any Link.stores

def isLongTerm (c : Chain) : Bool :=
  !c.heredoc && c.words.getLast? == some longTermWord

/-- The file that the chain stores its output in. -/
def target? (c : Chain) : Option String :=
  if c.stores then c.commands.getLast?.map (·.name) else none

end Chain

/-- Why a line is no chain. -/
inductive InterpretError where
  | split (cause : SplitError)
  | misplaced
  deriving DecidableEq

def InterpretError.message : InterpretError → String
  | .split cause => cause.message
  | .misplaced => "invalid syntax"

/-! ## Reading a chain -/

/-- The words between the links; there is one group more than there are links. -/
def groups : List String → List (List String)
  | [] => [[]]
  | w :: ws =>
    if (Link.ofWord? w).isSome then [] :: groups ws
    else
      match groups ws with
      | g :: gs => (w :: g) :: gs
      | [] => [[w]]

theorem groups_ne_nil (ws : List String) : groups ws ≠ [] := by
  cases ws with
  | nil => simp [groups]
  | cons w ws =>
    simp only [groups]
    split
    · simp
    · split <;> simp

/-- The links among the words, in order. -/
def linksOf (words : List String) : List Link :=
  words.filterMap Link.ofWord?

/-- Groups with the body of a heredoc as the last word of the last one. -/
def addBody (gs : List (List String)) (body : String) : List (List String) :=
  gs.dropLast ++ [gs.getLast?.getD [] ++ [body]]

/-- The commands without the word that makes the chain long term. -/
def dropLongTermWord (commands : List Command) : Except InterpretError (List Command) :=
  match commands.getLast? with
  | none => .ok []
  | some last =>
    if last.arguments.isEmpty then .error .misplaced
    else .ok (commands.dropLast ++ [{ last with arguments := last.arguments.dropLast }])

/-- The chain of the words before a heredoc and the body of the heredoc, if there is one. -/
def chainOf (words : List String) (body : Option String) : Except InterpretError Chain :=
  let links := linksOf words
  if links.dropLast.any Link.stores then .error .misplaced
  else
    let gs := match body with
      | some b => addBody (groups words) b
      | none => groups words
    let chain : Chain :=
      { commands := gs.filterMap Command.ofWords?
        links
        words := words ++ body.toList
        heredoc := body.isSome }
    if chain.isLongTerm then
      (dropLongTermWord chain.commands).map fun commands => { chain with commands }
    else .ok chain

def interpret (line : String) : Except InterpretError Chain :=
  let (head, body) := Heredoc.splitText line
  match Words.split head with
  | .error cause => .error (.split cause)
  | .ok words => chainOf words body

example : (chainOf ["a", "|", "b", "c"] none).toOption.map (·.commands)
    = some [⟨"a", []⟩, ⟨"b", ["c"]⟩] := by decide
example : (chainOf ["a", ">", "f", "|", "b"] none).toOption = none := by decide
example : (chainOf ["a", "|", "&"] none).toOption = none := by decide

end TopicShell.Line
