import TopicShell.Proofs.Text.Spelling
import TopicShell.Settings.Load

/-!
# Characters and escapes of a prompt

The prompt is read as a row of numbers of characters, since an escape may stand for a surrogate.  `prompt_read_iff`
tells which prompts are read as they should be: those without a character from U+0100 on behind an odd number of
backslashes.  Nothing is assumed of the names of characters but that they are made of letters, digits, spaces and
hyphens; the built-in ones are.
-/

namespace TopicShell.Settings

open Text Text.Escape

/-! ## Names -/

theorem letterAfter?_eq_some {start : String} {name : List Char} {c : Char} (h : letterAfter? start name = some c) :
    name = start.toList ++ [c] ∧ c.isUpper = true := by
  unfold letterAfter? at h
  split_ifs at h with hstart
  obtain ⟨rest, rfl⟩ := List.isPrefixOf_iff_prefix.mp hstart
  rw [← String.length_toList, List.drop_left] at h
  split at h
  · split_ifs at h with hupper
    cases h
    exact ⟨rfl, hupper⟩
  · nomatch h

theorem isNameChar_letterNamed? {name : String} {c : Char} (h : letterNamed? name = some c) :
    ∀ x ∈ name.toList, isNameChar x = true := by
  have hstart : ∃ start d, start.toList.all isNameChar = true ∧ letterAfter? start name.toList = some d := by
    unfold letterNamed? at h
    split at h
    next d hd => exact ⟨_, d, by decide, hd⟩
    · obtain ⟨d, hd, -⟩ := Option.map_eq_some_iff.mp h
      exact ⟨_, d, by decide, hd⟩
  obtain ⟨start, d, hall, hd⟩ := hstart
  obtain ⟨hname, hupper⟩ := letterAfter?_eq_some hd
  have hletter : isNameChar d = true := by simp [isNameChar, isAlphanum_iff, isAlpha_iff, hupper]
  rw [hname, List.forall_mem_append]
  exact ⟨List.all_eq_true.mp hall, List.forall_mem_singleton.mpr hletter⟩

theorem all_toList_ofList {cs : List Char} {p : Char → Bool} (h : cs.all p = true) :
    (String.ofList cs).toList.all p = true := by
  rwa [String.toList_ofList]

-- one name after the other, since the characters of a written text are slow to compute and quick to compare
theorem all_isNameChar_namedCharacters : ∀ e ∈ namedCharacters, e.2.toList.all isNameChar = true := by
  unfold namedCharacters
  repeat refine List.forall_mem_cons.mpr ⟨all_toList_ofList (by decide), ?_⟩
  exact fun _ h => absurd h List.not_mem_nil

theorem isNameChar_of_toUpper {c : Char} (h : isNameChar c.toUpper = true) : isNameChar c = true := by
  by_cases hc : c.isLower = true
  · simp [isNameChar, isAlphanum_iff, isAlpha_iff, hc]
  · rwa [toUpper_of_not_isLower hc] at h

/-- The names that are built in are like that. -/
theorem plainNames_named? : PlainNames named? := by
  intro name c h x hx
  have hupper : ∀ y ∈ name.map Char.toUpper, isNameChar y = true := by
    unfold named? at h
    dsimp only at h
    split at h
    next d hd =>
      have hletters := isNameChar_letterNamed? hd
      rwa [String.toList_ofList] at hletters
    · obtain ⟨e, he, -⟩ := Option.map_eq_some_iff.mp h
      have hname : e.2 = String.ofList (name.map Char.toUpper) := by simpa using List.find?_some he
      have hcharacters := all_isNameChar_namedCharacters e (List.mem_of_find?_eq_some he)
      rw [hname, String.toList_ofList] at hcharacters
      exact List.all_eq_true.mp hcharacters
  exact isNameChar_of_toUpper (hupper _ (List.mem_map_of_mem hx))

/-! ## Reading a prompt -/

variable {names : Names}

theorem promptNumbers_eq_ok_iff (s : String) (ns : List Nat) :
    promptNumbers names s = .ok ns ↔ Reads names (spellOut 0x100 s.toList) ns := by
  rw [← numbers_eq_ok_iff, promptNumbers]
  cases numbers names (spellOut 0x100 s.toList) with
  | error e => exact ⟨fun h => (nomatch h), fun h => (nomatch h)⟩
  | ok ns' => exact ⟨fun h => congrArg _ (Except.ok.inj h), fun h => congrArg _ (Except.ok.inj h)⟩

theorem readPrompt_eq_ok_iff (s t : String) :
    readPrompt s = .ok t ↔ ∃ ns, promptNumbers named? s = .ok ns ∧ String.ofList (ns.map Char.ofNat) = t :=
  map_eq_ok_iff

/-- A prompt is read from left to right, each escape as what it stands for and everything else as it is, unless a
character from U+0100 on stands behind an odd number of backslashes; then the result is never that. -/
theorem prompt_read_iff {names : Names} (hnames : PlainNames names) (s : String) (ns : List Nat) :
    (¬ Exposed s.toList → (promptNumbers names s = .ok ns ↔ Reads names s.toList ns)) ∧
      (Exposed s.toList → promptNumbers names s = .ok ns → ¬ Reads names s.toList ns) := by
  rw [promptNumbers_eq_ok_iff]
  exact ⟨fun hexposed => reads_spellOut_iff hnames hexposed,
    fun hexposed hwritten hread => not_reads_spellOut hnames hread hexposed hwritten⟩

/-- An escape next to an arrow is read, and so is the arrow; behind a backslash the arrow is lost. -/
theorem arrow_behind_escape_read :
    (PlainNames named? ∧ ¬ Exposed "\\033→".toList ∧ promptNumbers named? "\\033→" = .ok [0x1b, 0x2192]) ∧
      Exposed "\\→".toList ∧ ¬ Reads named? "\\→".toList ("\\u2192".toList.map Char.toNat) := by
  have hread : Reads named? "\\033→".toList [0x1b, 0x2192] :=
    .escape (e := ['0', '3', '3']) (.octal (by decide) ⟨List.all_eq_true.mp (by decide), by decide, .inl rfl⟩)
      (.plain (by decide) .nil)
  have hexposed : ¬ Exposed "\\033→".toList := by
    rw [show "\\033→".toList = ['\\', '0', '3', '3', '→'] from rfl, exposed_backslash_iff (by decide),
      exposed_plain_iff (by decide), exposed_plain_iff (by decide), exposed_plain_iff (by decide)]
    exact not_or.mpr ⟨by decide, not_exposed_nil⟩
  have hexposed' : Exposed "\\→".toList := ⟨[], 0, '→', [], rfl, by decide, by decide⟩
  exact ⟨⟨plainNames_named?, hexposed, ((prompt_read_iff plainNames_named? _ _).1 hexposed).mpr hread⟩, hexposed',
    (prompt_read_iff plainNames_named? "\\→" _).2 hexposed' rfl⟩

/-- An arrow behind a backslash should be kept with it, but becomes the letters and digits of an escape. -/
theorem arrow_behind_backslash_misread :
    Reads named? "\\→".toList ("\\→".toList.map Char.toNat) ∧
      ¬ Reads named? "\\→".toList ("\\u2192".toList.map Char.toNat) ∧
      promptNumbers named? "\\→" = .ok ("\\u2192".toList.map Char.toNat) ∧ readPrompt "\\→" = .ok "\\u2192" := by
  refine ⟨.kept (by decide) .nil, fun h => ?_, rfl, (readPrompt_eq_ok_iff _ _).mpr ⟨_, rfl, rfl⟩⟩
  obtain ⟨_, heq, -⟩ := (reads_kept_iff (by decide)).mp h
  exact absurd (List.cons.inj (List.cons.inj heq).2).1 (by decide)

end TopicShell.Settings
