import TopicShell.Text.Integer

/-!
# Built-in commands and their arguments

`Publication` and `Request` are what the arguments of `pub` and `sub` say.  Flags may stand between
the other arguments; the last level of service counts.
-/

namespace TopicShell

/-- The reserved names. -/
inductive Builtin where
  | pub
  | sub
  | unsub
  | list
  | help
  | colors
  | macros
  | exit
  deriving DecidableEq

namespace Builtin

def word : Builtin → String
  | pub => "pub"
  | sub => "sub"
  | unsub => "unsub"
  | list => "list"
  | help => ".ls"
  | colors => ".lsc"
  | macros => ".macro"
  | exit => "exit"

def all : List Builtin := [pub, sub, unsub, list, help, colors, macros, exit]

def ofWord? (w : String) : Option Builtin :=
  all.find? (·.word == w)

theorem ofWord?_word (b : Builtin) : ofWord? b.word = some b := by
  cases b <;> decide

/-- The command is written with arguments after it. -/
def takesArguments : Builtin → Bool
  | pub | sub | unsub => true
  | list | help | colors | macros | exit => false

end Builtin

/-- How a command with arguments is written. -/
inductive Usage where
  | pub
  | sub
  | unsub
  deriving DecidableEq

def Usage.text : Usage → String
  | pub => "Usage: pub [-r] [-q 0|1|2] <topic> <payload>"
  | sub => "Usage: sub [-q 0|1|2] <topic> [...topicN]"
  | unsub => "Usage: unsub <topic> [...topicN]"

/-! ## The level of service -/

inductive QosError where
  | unreadable (text : String)
  | unknownLevel
  deriving DecidableEq

def QosError.message : QosError → String
  | .unreadable text => "invalid qos level: " ++ text
  | .unknownLevel => "invalid qos level"

def isQos (n : Int) : Bool :=
  n = 0 || n = 1 || n = 2

def readQos (text : String) : Except QosError Int :=
  match Text.Integer.read? text with
  | none => .error (.unreadable text)
  | some n => if isQos n then .ok n else .error .unknownLevel

theorem isQos_of_readQos {text : String} {n : Int} (h : readQos text = .ok n) : isQos n = true := by
  unfold readQos at h
  split at h
  · cases h
  · split at h
    · cases h; assumption
    · cases h

/-! ## Errors of commands -/

/-- Why a command is refused; a report names the way the command is written if that is known. -/
inductive CommandError where
  | unknown
  | arguments (usage : Usage)
  | qos (cause : QosError) (usage : Usage)
  | failed (reason : String) (usage : Usage)
  deriving DecidableEq

def CommandError.message : CommandError → String
  | .unknown => "unknown command"
  | .arguments usage => "invalid arguments\n" ++ usage.text
  | .qos cause usage => cause.message ++ "\n" ++ usage.text
  | .failed reason usage => reason ++ "\n" ++ usage.text

/-! ## Scanning arguments -/

/-- One argument list, taken apart: the words that are no flags, the level of service and whether
the flag `-r` occurred. -/
structure Scanned where
  words : List String
  qos : Int
  retained : Bool
  deriving DecidableEq

def Scanned.add (word : String) (s : Scanned) : Scanned :=
  { s with words := word :: s.words }

/-- `retain` tells whether `-r` is a flag; otherwise it is a word like any other. -/
def scanArguments (usage : Usage) (retain : Bool) :
    Int → Bool → List String → Except CommandError Scanned
  | qos, retained, [] => .ok ⟨[], qos, retained⟩
  | qos, retained, word :: rest =>
    if word = "-q" then
      match rest with
      | [] => .error (.arguments usage)
      | level :: rest =>
        match readQos level with
        | .ok level => scanArguments usage retain level retained rest
        | .error cause => .error (.qos cause usage)
    else if retain && word = "-r" then scanArguments usage retain qos true rest
    else (scanArguments usage retain qos retained rest).map (.add word)

/-- What `pub` sends. -/
structure Publication where
  topic : String
  payload : String
  qos : Int
  retained : Bool
  deriving DecidableEq

def Publication.ofArguments (arguments : List String) (defaultQos : Int) :
    Except CommandError Publication :=
  match scanArguments .pub true defaultQos false arguments with
  | .error e => .error e
  | .ok s =>
    match s.words with
    | topic :: word :: more =>
      let payload := " ".intercalate (word :: more)
      if topic.isEmpty || payload.isEmpty then .error (.arguments .pub)
      else .ok ⟨topic, payload, s.qos, s.retained⟩
    | _ => .error (.arguments .pub)

/-- What `sub` asks for. -/
structure Request where
  topics : List String
  qos : Int
  deriving DecidableEq

def Request.ofArguments (arguments : List String) (defaultQos : Int) :
    Except CommandError Request :=
  match scanArguments .sub false defaultQos false arguments with
  | .error e => .error e
  | .ok s => if s.words.isEmpty then .error (.arguments .sub) else .ok ⟨s.words, s.qos⟩

/-! ## The level of service that comes out -/

/-- The level of service that is left is the one at the start, or one that is accepted. -/
theorem qos_of_scanArguments {usage : Usage} {retain : Bool} {qos : Int} {retained : Bool}
    {words : List String} {r : Scanned} (h : scanArguments usage retain qos retained words = .ok r) :
    r.qos = qos ∨ isQos r.qos = true := by
  induction qos, retained, words using scanArguments.induct retain generalizing r with
  | case1 qos retained =>
    simp only [scanArguments] at h
    cases h
    exact .inl rfl
  | case2 qos retained => simp [scanArguments] at h
  | case3 qos retained level rest level' hl ih =>
    simp only [scanArguments, hl, if_true] at h
    rcases ih h with h | h
    · right
      rw [h]
      exact isQos_of_readQos hl
    · exact .inr h
  | case4 qos retained level rest cause hl =>
    simp [scanArguments, hl] at h
  | case5 qos retained word rest hw hr ih =>
    rw [scanArguments.eq_def] at h
    simp only [hw, if_false, hr, if_true] at h
    exact ih h
  | case6 qos retained word rest hw hr ih =>
    rw [scanArguments.eq_def] at h
    simp only [hw, if_false, hr] at h
    cases hs : scanArguments usage retain qos retained rest with
    | error e => simp [hs, Except.map] at h
    | ok r' =>
      simp only [hs, Except.map] at h
      cases h
      have hq : r'.qos = qos ∨ isQos r'.qos = true := ih hs
      exact hq

theorem Publication.qos_ofArguments {arguments : List String} {defaultQos : Int} {p : Publication}
    (h : Publication.ofArguments arguments defaultQos = .ok p) :
    p.qos = defaultQos ∨ isQos p.qos = true := by
  unfold Publication.ofArguments at h
  cases hs : scanArguments .pub true defaultQos false arguments with
  | error e => simp [hs] at h
  | ok s =>
    simp only [hs] at h
    split at h
    · split at h
      · cases h
      · cases h
        have hq := qos_of_scanArguments hs
        exact hq
    · cases h

theorem Request.qos_ofArguments {arguments : List String} {defaultQos : Int} {r : Request}
    (h : Request.ofArguments arguments defaultQos = .ok r) :
    r.qos = defaultQos ∨ isQos r.qos = true := by
  unfold Request.ofArguments at h
  cases hs : scanArguments .sub false defaultQos false arguments with
  | error e => simp [hs] at h
  | ok s =>
    simp only [hs] at h
    split at h
    · cases h
    · cases h
      have hq := qos_of_scanArguments hs
      exact hq

end TopicShell
