import TopicShell.Proofs.Settings.Sources

/-!
# Which source a setting is from

A field has the datum of the highest source that gives one: the caller, the file of the environment, the two general
files, the variables of the process, those of the file of variables, the default (`Contents.highest?`).  The library is
taken to put what is given by name over the variables of the process, and those over the ones of the file
(`Library.Ranks`).  The rule fails in one case only: the path of the history in the directory is put among the named
data, so that it hides a variable (`Contents.Pinned`).
-/

namespace TopicShell.Settings

open Files

/-- What a table gives for a name: the last of its entries. -/
def latest? {α : Type} (table : List (String × α)) (name : String) : Option α :=
  table.reverse.lookup name

/-- What the library makes of named data is what they give, or else a variable of the process, or else one of the
file. -/
def Library.Ranks (library : Library) (w : Surroundings) (data : NamedData) (layer : Layer) : Prop :=
  ∀ f, layer.lookup f
    = (data.lookup f.name).or ((library.fromVariable? w .process f).or (library.fromVariable? w .file f))

/-! ## What the sources give for a field -/

namespace Contents

variable (c : Contents) (f : Field)

/-- What has been given by the name of the field. -/
def inTables? : Option Datum :=
  (latest? (c.overrides.filter fun e => isGiven e.2) f.name).or <| (latest? c.environment f.name).or <|
    (latest? c.yml f.name).or (latest? c.yaml f.name)

/-- What variables give. -/
def inVariables? : Option Datum :=
  (c.process f).or (c.file f)

/-- The default of a field that has one of its own in every directory; that of the others is constant. -/
def default? : Field → Option Datum
  | .historyFile => some (.text c.history)
  | _ => none

/-- What the highest source gives. -/
def highest? : Option Datum :=
  (c.inTables? f).or ((c.inVariables? f).or (c.default? f))

/-- The default of the field hides a variable. -/
def Pinned : Prop :=
  c.inTables? f = none ∧ ∃ value, c.default? f = some value ∧ ∃ d, c.inVariables? f = some d ∧ d ≠ value

variable {c f}

/-! ## What the named data have for a field -/

theorem lookup_tables (c : Contents) (f : Field) : c.tables.lookup f.name = c.inTables? f := by
  simp only [tables, lookup_update, inTables?, latest?, List.lookup_nil, Option.or_none]

theorem name_ne_history (hf : f ≠ .historyFile) : f.name ≠ Field.historyFile.name := by
  cases f with
  | historyFile => exact absurd rfl hf
  | _ => decide

theorem default?_of_ne (c : Contents) (hf : f ≠ .historyFile) : c.default? f = none := by
  cases f with
  | historyFile => exact absurd rfl hf
  | _ => rfl

/-- The default is put in under its own name, where the tables have nothing. -/
theorem lookup_data (c : Contents) (f : Field) : c.data.lookup f.name = (c.inTables? f).or (c.default? f) := by
  rw [← lookup_tables, data]
  by_cases hf : f = .historyFile
  · subst hf
    cases h : c.tables.lookup Field.historyFile.name with
    | some d =>
      rw [if_pos Option.isSome_some, h]
      rfl
    | none =>
      rw [if_neg (by simp), lookup_update, h]
      rfl
  · rw [default?_of_ne c hf, Option.or_none]
    split_ifs
    · rfl
    · exact (lookup_putNamed ..).trans (if_neg (name_ne_history hf))

/-! ## When it is from the highest source -/

/-- A default that comes before the variables matters where it hides one. -/
theorem or_or_eq_highest_iff (c : Contents) (f : Field) :
    ((c.inTables? f).or (c.default? f)).or (c.inVariables? f) = c.highest? f ↔ ¬ c.Pinned f := by
  rw [highest?, Pinned]
  cases c.inTables? f with
  | some d => simp
  | none =>
    cases c.default? f with
    | none => simp
    | some value =>
      cases c.inVariables? f with
      | none => simp
      | some d => simp [eq_comm]

end Contents

/-! ## Macros -/

theorem lookup_foldl_update {α : Type} (tables : List (List (String × α))) (old : List (String × α)) (n : String) :
    (tables.foldl update old).lookup n = (tables.reverse.findSome? (latest? · n)).or (old.lookup n) := by
  induction tables generalizing old with
  | nil => rfl
  | cons table tables ih =>
    rw [List.foldl_cons, ih, lookup_update, List.reverse_cons, List.findSome?_append, List.findSome?_singleton,
      Option.or_assoc]
    rfl

section Files

variable {library : Library} {files : Tree} {w : Surroundings}

theorem withMacros_eq (macros : List (String × Macro.Spec)) (paths : List Path) :
    withMacros files macros paths library
      = (paths.mapM (readMacros files · library)).map fun tables => tables.foldl update macros := by
  induction paths generalizing macros with
  | nil => rfl
  | cons p paths ih =>
    rw [withMacros, List.foldlM_cons, List.mapM_cons]
    cases readMacros files p library with
    | error e => rfl
    | ok table =>
      show withMacros files (update macros table) paths library = _
      rw [ih]
      cases paths.mapM (readMacros files · library) <;> rfl

/-- A file of macros that does not exist has none. -/
theorem readMacros_of_missing {path : Path} (h : isFile files path.text = .ok false) :
    readMacros files path library = .ok [] := by
  rw [readMacros, h]
  rfl

theorem complete_macros {d : Path} {macroFiles : List Path} {s t : Settings}
    (h : complete library w d macroFiles s = .ok t) :
    ∃ tables, (d.child ".macros.yml" :: macroFiles).mapM (readMacros w.files · library) = .ok tables ∧
      (∀ n, t.macros.lookup n = (tables.reverse.findSome? (latest? · n)).or (s.macros.lookup n)) ∧
      t = { s with macros := t.macros, prompt := t.prompt } := by
  rw [complete] at h
  split_ifs at h
  · exact nomatch h
  · obtain ⟨macros, hmacros, h⟩ := exists_of_bind_ok h
    obtain ⟨prompt, -, h⟩ := exists_of_bind_ok h
    cases h
    rw [withMacros_eq] at hmacros
    cases htables : (d.child ".macros.yml" :: macroFiles).mapM (readMacros w.files · library) with
    | error e =>
      rw [htables] at hmacros
      exact nomatch hmacros
    | ok tables =>
      rw [htables] at hmacros
      cases hmacros
      exact ⟨tables, rfl, lookup_foldl_update tables s.macros, rfl⟩

end Files

/-! ## Settings -/

/-- Every field is checked with the datum of the highest source that gives one, unless its default hides a variable.
The macros that come out of the check are then replaced, by name, by those of the files, the last of which counts. -/
theorem settings_from_highest_iff {library : Library} {w : Surroundings} {directory? : Option Path} {directory : Path}
    {environment : Option String} {overrides : NamedData} {c : Contents} {layer : Layer} (macroFiles : List Path)
    (hplace : place w directory? = .ok directory)
    (hread : Contents.read library w directory environment overrides = .ok c)
    (hgather : library.gather w c.data = .ok layer) (hranks : library.Ranks w c.data layer) :
    load w directory? environment macroFiles overrides library
      = (ofChecked (library.check layer) >>= complete library w directory macroFiles) ∧
    (∀ f, layer.lookup f = c.highest? f ↔ ¬ c.Pinned f) ∧
    (∀ s t, complete library w directory macroFiles s = .ok t →
      ∃ tables, (directory.child ".macros.yml" :: macroFiles).mapM (readMacros w.files · library) = .ok tables ∧
        (∀ n, t.macros.lookup n = (tables.reverse.findSome? (latest? · n)).or (s.macros.lookup n)) ∧
        t = { s with macros := t.macros, prompt := t.prompt }) ∧
    ∀ path, isFile w.files path.text = .ok false → readMacros w.files path library = .ok [] := by
  refine ⟨?_, fun f => ?_, fun s t => complete_macros, fun path => readMacros_of_missing⟩
  · rw [load_eq, hplace]
    show (Contents.read library w directory environment overrides >>= _) >>= _ = _
    rw [hread]
    show ofNamed w c.data library >>= _ = _
    rw [ofNamed, hgather]
  · obtain ⟨hprocess, hfile⟩ := Contents.variables_of_read hread
    rw [hranks f, Contents.lookup_data, ← hprocess, ← hfile]
    exact c.or_or_eq_highest_iff f

/-- The caller's broker is over that of a variable. -/
theorem caller_over_variable :
    ∃ c layer, Contents.read .standard ⟨{}, [("MQTT_SHELL_BROKER", "tcp://v")]⟩ (Path.parse "c") none
        [("broker", .text "tcp://b")] = .ok c ∧
      Library.standard.gather ⟨{}, [("MQTT_SHELL_BROKER", "tcp://v")]⟩ c.data = .ok layer ∧
      c.inVariables? .broker = some (.text "tcp://v") ∧ c.highest? .broker = some (.text "tcp://b") ∧
      layer.lookup .broker = c.highest? .broker := by
  obtain ⟨c, layer, hread, hgather, hranks, htable, hvariable⟩ :
      ∃ c layer, Contents.read .standard ⟨{}, [("MQTT_SHELL_BROKER", "tcp://v")]⟩ (Path.parse "c") none
          [("broker", .text "tcp://b")] = .ok c ∧
        Library.standard.gather ⟨{}, [("MQTT_SHELL_BROKER", "tcp://v")]⟩ c.data = .ok layer ∧
        Library.standard.Ranks ⟨{}, [("MQTT_SHELL_BROKER", "tcp://v")]⟩ c.data layer ∧
        c.inTables? .broker = some (.text "tcp://b") ∧ c.inVariables? .broker = some (.text "tcp://v") :=
    ⟨_, _, rfl, rfl, fun f => by cases f <;> rfl, rfl, rfl⟩
  have hplace : place ⟨{}, [("MQTT_SHELL_BROKER", "tcp://v")]⟩ (some (Path.parse "c")) = .ok (Path.parse "c") := rfl
  have hpinned : ¬ c.Pinned .broker := fun h => nomatch htable.symm.trans h.1
  refine ⟨c, layer, hread, hgather, hvariable, by rw [Contents.highest?, htable, Option.some_or], ?_⟩
  exact ((settings_from_highest_iff [] hplace hread hgather hranks).2.1 .broker).mpr hpinned

/-- A variable for the path of the history is lost. -/
theorem history_variable_lost :
    ∃ c layer, Contents.read .standard ⟨{}, [("MQTT_SHELL_HISTORY_FILE", "h")]⟩ (Path.parse "c") none
        [("broker", .text "tcp://b")] = .ok c ∧
      Library.standard.gather ⟨{}, [("MQTT_SHELL_HISTORY_FILE", "h")]⟩ c.data = .ok layer ∧
      Library.standard.Ranks ⟨{}, [("MQTT_SHELL_HISTORY_FILE", "h")]⟩ c.data layer ∧
      c.highest? .historyFile = some (.text "h") ∧ layer.lookup .historyFile = some (.text "c/.history") ∧
      (load ⟨{}, [("MQTT_SHELL_HISTORY_FILE", "h")]⟩ (some (Path.parse "c")) none []
        [("broker", .text "tcp://b")]).toOption.bind (·.historyFile) = some "c/.history" :=
  ⟨_, _, rfl, rfl, fun f => by cases f <;> rfl, rfl, rfl, by decide +kernel⟩

end TopicShell.Settings
