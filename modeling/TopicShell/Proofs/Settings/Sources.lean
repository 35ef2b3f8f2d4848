import Mathlib.Data.List.Basic
import Mathlib.Tactic.SplitIfs
import TopicShell.Proofs.Entries
import TopicShell.Settings.Load

/-!
# What the sources give

`Contents` holds what has been read before the library is asked for a layer: four tables of named data, and what the
variables of the process and those of the file of variables give.  Loading is reading the contents, having them
gathered and checked, and completing the settings that come out (`load_eq`).  All of it is for any library.
-/

namespace TopicShell.Settings

open Files

/-! ## Tables of names -/

section Tables

variable {α : Type}

theorem lookup_cons_if (m : String) (v : α) (es : List (String × α)) (n : String) :
    ((m, v) :: es).lookup n = if n = m then some v else es.lookup n := by
  rw [List.lookup_cons]
  by_cases hn : n = m
  · rw [hn, beq_self_eq_true, if_pos rfl]
  · rw [beq_false_of_ne hn, if_neg hn]

theorem lookup_putNamed (name : String) (value : α) (es : List (String × α)) (n : String) :
    (putNamed name value es).lookup n = if n = name then some value else es.lookup n := by
  induction es with
  | nil => exact lookup_cons_if name value [] n
  | cons e es ih =>
    obtain ⟨m, v⟩ := e
    rw [putNamed, lookup_cons_if m v es n]
    by_cases hm : m = name
    · rw [if_pos hm, hm, lookup_cons_if]
      split_ifs <;> rfl
    · rw [if_neg hm, lookup_cons_if, ih]
      by_cases hn : n = m
      · rw [if_pos hn, if_neg (hn ▸ hm), if_pos hn]
      · rw [if_neg hn, if_neg hn]

/-- What was put in last counts. -/
theorem lookup_update (old new : List (String × α)) (n : String) :
    (update old new).lookup n = (new.reverse.lookup n).or (old.lookup n) := by
  induction new generalizing old with
  | nil => rfl
  | cons e new ih =>
    show (update (putNamed e.1 e.2 old) new).lookup n = _
    rw [ih, lookup_putNamed, List.reverse_cons, List.lookup_append, Option.or_assoc, lookup_cons_if]
    split_ifs <;> rfl

end Tables

/-! ## Reading and completing -/

theorem exists_of_bind_ok {α β : Type} {l : Loading α} {next : α → Loading β} {b : β} (h : l >>= next = .ok b) :
    ∃ a, l = .ok a ∧ next a = .ok b := by
  cases l with
  | error e => exact nomatch h
  | ok a => exact ⟨a, rfl, h⟩

/-- What the sources give before it is checked. -/
structure Contents where
  /-- The table of `.global.yaml`, empty if there is no such file; likewise `yml`. -/
  yaml : NamedData
  yml : NamedData
  environment : NamedData
  overrides : NamedData
  process : Field → Option Datum
  file : Field → Option Datum
  /-- The path of the history in the directory. -/
  history : String

/-- The directory that is given, or the one for settings. -/
def place (w : Surroundings) (directory? : Option Path) : Loading Path :=
  match directory? with
  | some d => pure d
  | none => directory w

namespace Contents

/-- Everything that is read before the library gathers it, in this order. -/
def read (library : Library) (w : Surroundings) (directory : Path) (environment : Option String)
    (overrides : NamedData) : Loading Contents := do
  let yaml ← mappingAt w.files (directory.child ".global.yaml") library
  let yml ← mappingAt w.files (directory.child ".global.yml") library
  let environment ← environmentMapping w.files directory environment library
  pure {
    yaml, yml, environment, overrides
    process := library.fromVariable? w .process
    file := library.fromVariable? w .file
    history := (directory.child ".history").text }

/-- The tables as one.  Some of what the caller gives does not count. -/
def tables (c : Contents) : NamedData :=
  update (update (update (update [] c.yaml) c.yml) c.environment) (c.overrides.filter fun e => isGiven e.2)

/-- What is given by name: the tables, with the path of the history put in where they have none. -/
def data (c : Contents) : NamedData :=
  if (c.tables.lookup Field.historyFile.name).isSome then c.tables
  else update c.tables [(Field.historyFile.name, .text c.history)]

end Contents

/-- What is left to do when the values have been checked. -/
def complete (library : Library) (w : Surroundings) (directory : Path) (macroFiles : List Path) (settings : Settings) :
    Loading Settings := do
  if (settings.broker.getD "").isEmpty then throw .noBroker
  let macros ← withMacros w.files settings.macros (directory.child ".macros.yml" :: macroFiles) library
  pure { settings with macros, prompt := ← readPrompt settings.prompt }

variable {library : Library} {w : Surroundings}

/-- Of the variables the contents hold what the library says. -/
theorem Contents.variables_of_read {directory : Path} {environment : Option String} {overrides : NamedData}
    {c : Contents} (h : Contents.read library w directory environment overrides = .ok c) :
    c.process = library.fromVariable? w .process ∧ c.file = library.fromVariable? w .file := by
  obtain ⟨yaml, -, h⟩ := exists_of_bind_ok h
  obtain ⟨yml, -, h⟩ := exists_of_bind_ok h
  obtain ⟨environment, -, h⟩ := exists_of_bind_ok h
  cases h
  exact ⟨rfl, rfl⟩

variable (library w)

/-- The tables are joined as they are read. -/
theorem namedData_eq (directory : Path) (environment : Option String) (overrides : NamedData) :
    namedData w directory environment overrides library
      = Contents.read library w directory environment overrides >>= fun c => pure c.data := by
  simp only [namedData, Contents.read, suffixes, List.map_cons, List.map_nil, List.foldlM_cons, List.foldlM_nil,
    bind_assoc, pure_bind]
  refine bind_congr fun yaml => bind_congr fun yml => bind_congr fun environment => ?_
  exact (apply_ite pure ..).symm

/-- Settings are loaded in four steps: the place is found, the sources are read, what they give is gathered and checked,
and the settings are completed. -/
theorem load_eq (directory? : Option Path) (environment : Option String) (macroFiles : List Path)
    (overrides : NamedData) :
    load w directory? environment macroFiles overrides library = (place w directory? >>= fun d =>
      (Contents.read library w d environment overrides >>= fun c => ofNamed w c.data library)
        >>= complete library w d macroFiles) := by
  unfold load complete
  simp only [namedData_eq, bind_assoc, pure_bind]
  cases directory? with
  | none => rfl
  | some d => rfl

end TopicShell.Settings
