import TopicShell.Macro.Expansion
import TopicShell.Pipeline.Execution
import TopicShell.Template.Parser
import TopicShell.Template.Render

/-!
# Macro scripts

The engine of the program: a script is a template that can run lines as pipelines and write to the
terminal.
-/

namespace TopicShell.Macro

open Template

/-! ## Running a script -/

/-- What a script can reach: files, and the texts written so far. -/
structure Surroundings where
  files : Files.Tree := {}
  environment : List (String × String) := []
  machine : Machine := {}
  written : List String := []

/-- Why a line that a script runs fails. -/
inductive LineError where
  | interpret (cause : Line.InterpretError)
  | stores
  | pipeline (cause : Pipeline.Abort)
  | closing (message : String)
  deriving DecidableEq

def LineError.message : LineError → String
  | interpret cause => cause.message
  | stores => "file redirection is not supported in exec"
  | pipeline cause => cause.message
  | closing m => m

/-- Runs a line as a pipeline without input; its output includes the errors of the programs. -/
def runLine (line : String) (w : Surroundings) : Except LineError String × Surroundings :=
  match Line.interpret line with
  | .error e => (.error (.interpret e), w)
  | .ok chain =>
    if chain.stores then (.error .stores, w)
    else match Pipeline.ofChain chain .nothing [Pipeline.Sink.taking] w.files 0 true with
      | .error e => (.error (.pipeline e), w)
      | .ok built =>
        let closed := built.execute w.environment w.machine
        let w := { w with files := closed.files }
        match closed.closing, closed.report.abort with
        | some m, _ => (.error (.closing m), w)
        | none, some e => (.error (.pipeline e), w)
        | none, none =>
          let output := (closed.report.intakes.head?.map Pipeline.Intake.octets).getD []
          (.ok (Text.Utf8.decodeText output), w)

def write (text : String) (w : Surroundings) : Surroundings :=
  { w with written := w.written ++ [text] }

def host : Host LineError Surroundings :=
  { exec := runLine, log := write }

/-- Why a script yields no text. -/
inductive ScriptError where
  | spec (cause : SpecError)
  | fault (cause : Template.Fault)
  | line (cause : LineError)
  deriving DecidableEq

def ScriptError.message : ScriptError → String
  | spec cause => cause.message
  | fault cause => cause.message
  | line cause => cause.message

def ScriptError.ofRender : RenderError LineError → ScriptError
  | .fault cause => .fault cause
  | .host cause => .line cause

/-- The error is one that is reported; any other ends the expansion. -/
def ScriptError.isReported : ScriptError → Bool
  | spec _ => false
  | fault cause =>
    match cause with
    | .undefined _ | .template _ | .mistyped _ | .invalid _ => true
    | .zeroDivision _ | .key _ | .attribute _ _ | .overflow _ | .recursion => false
  | line cause =>
    match cause with
    | .interpret _ | .stores | .pipeline (.failure _) | .pipeline .nullCharacter => true
    | .pipeline (.refusal _) | .closing _ => false

/-! ## The engine -/

def vocabulary : Vocabulary :=
  { filters := Filter.named.map Prod.fst, tests := Test.named.map Prod.fst }

def absentMessage (a : Absent) : String :=
  "No " ++ (if a.isFilter then "filter" else "test") ++ " named " ++ quote a.name
    ++ ".\n  File \"<introspection>\", line " ++ toString a.line

/-- The names that a script takes from outside; all its filters and tests have to exist. -/
def takenNames (script : String) : Except String (List String) :=
  match parse script with
  | .error e => .error e.message
  | .ok nodes =>
    match absentIn? vocabulary false nodes with
    | some a => .error (absentMessage a)
    | none => .ok (undeclared nodes)

def grammar : Grammar :=
  { globals := ["range", "dict", "lipsum", "cycler", "joiner", "namespace"]
    flaw? := fun script => match parse script with
      | .error e => some e.message
      | .ok _ => none
    taken := takenNames
    obstacle? := fun _ => none }

/-- How deep the evaluation of a script may nest. -/
def depthOf (script : String) : Nat :=
  50 * (script.length + 5)

def renderScript (name : String) (s : Spec) (names : List (String × String)) (w : Surroundings) :
    Except ScriptError String × Surroundings :=
  match grammar.compile name s.script with
  | .error e => (.error (.spec e), w)
  | .ok _ =>
    let nodes := (parse s.script).toOption.getD []
    let (r, w) := render host (depthOf s.script) nodes (names.map fun n => (n.1, .text n.2)) w
    (r.mapError .ofRender, w)

/-- Renders scripts as templates on the files. -/
def scripts : Engine ScriptError Surroundings :=
  { grammar with
    render := renderScript
    report? := fun e => if e.isReported then some e.message else none
    write }

def validate (specs : List (String × Spec)) : Except SpecError Unit :=
  scripts.validate specs

end TopicShell.Macro
