import TopicShell.Text.Case

/-!
# Log levels

`configure` replaces the sinks by one at the wanted level and remembers the level.  A level that is
already remembered changes nothing; an unknown one leaves no sink behind and is not remembered.
-/

namespace TopicShell

inductive LogLevel where
  | trace
  | debug
  | info
  | success
  | warning
  | error
  | critical
  deriving DecidableEq

namespace LogLevel

def name : LogLevel → String
  | trace => "TRACE"
  | debug => "DEBUG"
  | info => "INFO"
  | success => "SUCCESS"
  | warning => "WARNING"
  | error => "ERROR"
  | critical => "CRITICAL"

def severity : LogLevel → Nat
  | trace => 5
  | debug => 10
  | info => 20
  | success => 25
  | warning => 30
  | error => 40
  | critical => 50

def all : List LogLevel := [trace, debug, info, success, warning, error, critical]

def ofName? (name : String) : Option LogLevel :=
  all.find? (·.name == name)

theorem ofName?_name (l : LogLevel) : ofName? l.name = some l := by
  cases l <;> decide

end LogLevel

/-- The name is not a level. -/
structure UnknownLevel where
  name : String
  deriving DecidableEq

def UnknownLevel.message (e : UnknownLevel) : String :=
  "Level '" ++ e.name ++ "' does not exist"

structure Logging where
  /-- The level that was configured last. -/
  remembered : Option String := none
  sinks : List LogLevel := [.debug]
  deriving DecidableEq

namespace Logging

/-- The level that is asked for: the given one, else the one of the environment, else warnings. -/
def wanted (given setting : Option String) : String :=
  let chosen := match given with
    | some l => if l.isEmpty then setting else some l
    | none => setting
  Text.upperText (chosen.getD LogLevel.warning.name)

def configure (l : Logging) (given setting : Option String) :
    Except UnknownLevel Unit × Logging :=
  let level := wanted given setting
  if l.remembered = some level then (.ok (), l)
  else
    match LogLevel.ofName? level with
    | some sink => (.ok (), { remembered := some level, sinks := [sink] })
    | none => (.error ⟨level⟩, { l with sinks := [] })

/-- How often a message of a level is written. -/
def copies (l : Logging) (level : LogLevel) : Nat :=
  l.sinks.countP (·.severity ≤ level.severity)

/-- The field of a level in a log line, seven characters at least. -/
def field (level : LogLevel) : String :=
  level.name ++ String.ofList (List.replicate (7 - level.name.length) ' ')

end Logging

end TopicShell
