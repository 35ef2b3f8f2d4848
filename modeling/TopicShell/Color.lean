/-!
# Colours of topics

A decorator is a list of terminal codes.  A pool hands its decorators out in turn; `cursor` is the
position of the next one, and an entry that is removed leaves it alone.
-/

namespace TopicShell

abbrev Decorator := List String

namespace Decorator

def reset : String := "\x1b[0m"

/-- Text with one escape sequence for each code before it and a reset after it. -/
def decorate (codes : Decorator) (text : String) : String :=
  String.join (codes.map fun code => "\x1b[" ++ code ++ "m") ++ text ++ reset

def serialize (codes : Decorator) : String :=
  " ".intercalate codes

end Decorator

/-- How many colours a terminal has. -/
inductive ColorLevel where
  | none
  | few
  | many
  deriving DecidableEq

/-- The name under which a terminal announces its colours. -/
inductive ColorSystem where
  | standard
  | eightBit
  | trueColor
  | windows
  deriving DecidableEq

def ColorLevel.ofSystem : Option ColorSystem → ColorLevel
  | some .eightBit | some .trueColor => .many
  | some .standard | some .windows => .few
  | Option.none => .none

def bold : String := "1"

/-- The colours of a level without bold ones. -/
def ColorLevel.plain : ColorLevel → List Decorator
  | .none => []
  | .few => (List.range 8).map fun n => [toString (30 + n)]
  | .many =>
    (List.range 16).flatMap fun r =>
      (List.range 16).map fun column => ["38;5;" ++ toString (column * 16 + (15 - r))]

/-- All decorators of a level: the plain ones, then the same in bold. -/
def ColorLevel.decorators (level : ColorLevel) : List Decorator :=
  level.plain ++ level.plain.map (· ++ [bold])

structure Pool where
  entries : List Decorator := []
  cursor : Nat := 0
  deriving DecidableEq

namespace Pool

def size (p : Pool) : Nat :=
  p.entries.length

/-- Without the first entry that is written as `code`; tells whether there was one. -/
def remove (p : Pool) (code : String) : Bool × Pool :=
  if p.entries.any (·.serialize == code) then
    (true, { p with entries := p.entries.eraseP (·.serialize == code) })
  else (false, p)

def ofLevel (level : ColorLevel) (blacklist : List String) : Pool :=
  blacklist.foldl (fun p code => (p.remove code).2) { entries := level.decorators }

/-- The position that `next` takes. -/
def position (p : Pool) : Nat :=
  if p.cursor < p.size then p.cursor else 0

/-- The next decorator in turn, if there is any. -/
def next (p : Pool) : Option Decorator × Pool :=
  match p.entries[p.position]? with
  | some d => (some d, { p with cursor := (p.position + 1) % p.size })
  | none => (none, p)

theorem entries_next (p : Pool) : p.next.2.entries = p.entries := by
  unfold next; split <;> rfl

end Pool

example : ColorLevel.few.decorators.length = 16 := by decide
example : Decorator.decorate ["31", "1"] "t" = "\x1b[31m\x1b[1mt\x1b[0m" := by decide

end TopicShell
