import TopicShell.CommandLine
import TopicShell.Proofs.Settings.Sources

/-!
# How loading fails

An error of the configuration is explained in one line; any other error ends the program (`Derailed`).  Loading
reads one thing after another (`Reading`), and it derails exactly where one of them does: the octets of a file are no
text, the library fails on its text in another way than by refusing it, the library cannot gather what the sources
give, or a path is too long.
-/

namespace TopicShell.Settings

open Files

section Steps

variable {α β : Type}

end Steps

/-! ## Files -/

/-- The path is too long to be looked up. -/
def TooLong (files : Tree) (path : String) : Prop :=
  files.locate path = .error .nameTooLong

/-- There is a regular file with these octets. -/
def Stands (files : Tree) (path : String) (octets : Octets) : Prop :=
  ∃ spot n, files.locate path = .ok (.node spot n) ∧ n.content? = some octets

/-- The octets are no text. -/
def Undecodable (octets : Octets) : Prop :=
  ∃ fault, Text.Utf8.read octets = .error fault

/-- The octets are no text, or one on which the library fails otherwise than by refusing it. -/
def Garbled (library : Library) (octets : Octets) : Prop :=
  Undecodable octets ∨
    ∃ cs fault, textOf octets = .ok cs ∧ library.parse cs = .error fault ∧ fault ≠ .malformed

/-- What is at the path keeps the file from being read or skipped. -/
def FailsAt (library : Library) (files : Tree) (path : String) : Prop :=
  TooLong files path ∨ ∃ octets, Stands files path octets ∧ Garbled library octets

theorem Stands.unique {files : Tree} {path : String} {octets octets' : Octets} (h : Stands files path octets)
    (h' : Stands files path octets') : octets = octets' := by
  obtain ⟨spot, n, h, hn⟩ := h
  obtain ⟨spot', n', h', hn'⟩ := h'
  cases h.symm.trans h'
  exact Option.some.inj (hn.symm.trans hn')

variable {library : Library}

/-- The first of the files that is there, or one before it, fails. -/
def FirstFails (library : Library) (files : Tree) : List Path → Prop
  | [] => False
  | p :: rest => FailsAt library files p.text ∨ isFile files p.text = .ok false ∧ FirstFails library files rest

/-- What is done before the prompt is read. -/
inductive Reading where
  /-- A general file, which may be missing. -/
  | general (path : Path)
  /-- The file of the chosen environment. -/
  | environment
  /-- What the sources give is gathered and checked. -/
  | check
  /-- A file of macros, which may be missing. -/
  | macros (path : Path)

section Readings

variable (library) (w : Surroundings) (directory : Path) (environment : Option String) (macroFiles : List Path)
  (overrides : NamedData)

/-- A broker is needed. -/
def requireBroker (settings : Settings) : Loading Unit :=
  if (settings.broker.getD "").isEmpty then throw .noBroker else pure ()

namespace Reading

/-- One reading; nothing is checked where the contents cannot be read. -/
def run : Reading → Loading Unit
  | general path => do let _ ← mappingAt w.files path library
  | .environment => do let _ ← environmentMapping w.files directory environment library
  | check =>
    match Contents.read library w directory environment overrides with
    | .ok c => ofNamed w c.data library >>= requireBroker
    | .error _ => pure ()
  | macros path => do let _ ← readMacros w.files path library

/-- What makes a reading derail. -/
def Fails : Reading → Prop
  | general path | macros path => FailsAt library w.files path.text
  | .environment => ∃ name, environment.filter (!·.isEmpty) = some name ∧
      FirstFails library w.files (suffixes.map fun s => directory.child (name ++ s))
  | check => ∃ c, Contents.read library w directory environment overrides = .ok c ∧
      ∃ fault, library.gather w c.data = .error fault

end Reading

variable {library w directory environment macroFiles overrides}

end Readings

/-! ## Loading -/

end TopicShell.Settings
