import TopicShell.Pipeline.Execution
import Mathlib.Data.Nat.Find

/-!
# The processes of a pipeline

A run starts a process for each stage, in order, and it is over for a process when the run has awaited it.  This
may end in three ways: a stage cannot be started (`StopsAt`), a sink refuses what it is handed, or all output has been
handed over.  `events_of_stopsAt` and `events_of_none` say what happens to the processes in each of them;
they rest on what the starting itself leaves behind, by induction over the stages (`start_all`, `start_of_some`).

No process outlives its run (`Reaped`), except where a null character is the reason why a later stage cannot be
started (`reaped_iff`).
-/

namespace TopicShell.Pipeline

open Files Line
open scoped List

/-- The stage with a number is the first that cannot be started. -/
structure StopsAt (p : Pipeline) (b : Behaviour) (i : Nat) (e : FileError) : Prop where
  lt : i < p.stages.length
  refused : b.refusal i = some e
  first : ∀ j < i, b.refusal j = none

/-- Every process that has been started is awaited afterwards. -/
def Reaped (events : List ProcessEvent) : Prop :=
  ∀ i, .started i ∈ events → [.started i, .awaited i] <+ events

/-! ## Events for all numbers below a bound -/

section UpTo

variable {n i : Nat}

theorem mem_upTo {event : Nat → ProcessEvent} {x : ProcessEvent} : x ∈ upTo n event ↔ ∃ i < n, event i = x := by
  simp [upTo]

theorem singleton_sublist_upTo (event : Nat → ProcessEvent) (h : i < n) : [event i] <+ upTo n event :=
  List.singleton_sublist.mpr (mem_upTo.mpr ⟨i, h, rfl⟩)

theorem started_mem_upTo : .started i ∈ upTo n .started ↔ i < n := by
  simp [mem_upTo]

theorem started_not_mem_killed : .started i ∉ upTo n .killed := by
  simp [mem_upTo]

theorem started_not_mem_awaited : .started i ∉ upTo n .awaited := by
  simp [mem_upTo]

end UpTo

/-! ## Starting -/

section Start

variable {b : Behaviour}

theorem start_of_none {k : Nat} (stages : List Stage) (h : ∀ j < stages.length, b.refusal (k + j) = none) :
    start b k stages = ((List.range' k stages.length).map .started, none) := by
  induction stages generalizing k with
  | nil => rfl
  | cons s rest ih =>
    have hhere : b.refusal k = none := h 0 (Nat.succ_pos _)
    have hrest : ∀ j < rest.length, b.refusal (k + 1 + j) = none := by
      intro j hj
      rw [Nat.add_assoc, Nat.add_comm 1 j]
      exact h (j + 1) (Nat.succ_lt_succ hj)
    simp only [start, hhere, ih hrest]
    rfl

theorem start_all {stages : List Stage} (h : ∀ i < stages.length, b.refusal i = none) :
    start b 0 stages = (upTo stages.length .started, none) := by
  have h' : ∀ j < stages.length, b.refusal (0 + j) = none := by
    intro j hj
    rw [Nat.zero_add]
    exact h j hj
  rw [start_of_none stages h', ← List.range_eq_range']
  rfl

/-- What the first stage that cannot be started leads to. -/
theorem start_of_some {k i : Nat} {stages : List Stage} {s : Stage} {e : FileError} (hs : stages[i]? = some s)
    (he : b.refusal (k + i) = some e) (hfirst : ∀ j < i, b.refusal (k + j) = none) :
    start b k stages = ((List.range' k i).map .started ++
      (if e = .nullCharacter then [] else upTo (k + i) .killed ++ upTo (k + i) .awaited),
      some (Abort.ofFile (.start s.command.name) e)) := by
  induction i generalizing k stages with
  | zero =>
    cases stages with
    | nil => cases hs
    | cons s' rest =>
      cases hs
      rw [Nat.add_zero] at he
      simp only [start, he]
      rfl
  | succ i ih =>
    cases stages with
    | nil => cases hs
    | cons s' rest =>
      have hnumber : ∀ j, k + 1 + j = k + (j + 1) := fun j => by omega
      have hhere : b.refusal k = none := hfirst 0 (Nat.succ_pos _)
      have hrest := @ih (k + 1) rest hs (by rw [hnumber]; exact he)
        (fun j hj => by rw [hnumber]; exact hfirst (j + 1) (Nat.succ_lt_succ hj))
      simp only [start, hhere, hrest, hnumber]
      rfl

end Start

/-! ## Runs -/

section Runs

variable {p : Pipeline} {b : Behaviour}

theorem none_or_stopsAt (p : Pipeline) (b : Behaviour) :
    (∀ i < p.stages.length, b.refusal i = none) ∨ ∃ i e, StopsAt p b i e := by
  by_cases h : ∃ i, i < p.stages.length ∧ b.refusal i ≠ none
  · right
    classical
    obtain ⟨hlt, hne⟩ := Nat.find_spec h
    obtain ⟨e, he⟩ := Option.ne_none_iff_exists'.mp hne
    refine ⟨_, e, hlt, he, fun j hj => ?_⟩
    have hbefore := Nat.find_min h hj
    by_contra hj'
    exact hbefore ⟨Nat.lt_trans hj hlt, hj'⟩
  · left
    intro i hi
    by_contra hne
    exact h ⟨i, hi, hne⟩

theorem run_of_stages (h : p.stages ≠ []) : p.run b = p.runStages b := by
  rw [run, List.isEmpty_eq_false_iff.mpr h, if_neg Bool.false_ne_true]

theorem run_of_no_stages (h : p.stages = []) : p.run b = p.runCopy b.chunks := by
  rw [run, h, List.isEmpty_nil, if_pos rfl]

/-- A stage that cannot be started ends the run before anything is handed over, and the processes before it are
killed and awaited if anything happens to them. -/
theorem run_of_stopsAt {i : Nat} {e : FileError} (h : StopsAt p b i e) {s : Stage} (hs : p.stages[i]? = some s) :
    p.run b =
      { intakes := p.sinks.map fun sink => { sink }
        events := upTo i .started ++ if e = .nullCharacter then [] else upTo i .killed ++ upTo i .awaited
        abort := some (Abort.ofFile (.start s.command.name) e) } := by
  have hstart := start_of_some (b := b) (k := 0) hs (by rw [Nat.zero_add]; exact h.refused)
    (fun j hj => by rw [Nat.zero_add]; exact h.first j hj)
  rw [run_of_stages (List.ne_nil_of_length_pos (Nat.zero_lt_of_lt h.lt)), runStages, hstart, Nat.zero_add,
    ← List.range_eq_range']
  rfl

theorem events_of_stopsAt {i : Nat} {e : FileError} (h : StopsAt p b i e) :
    (p.run b).events = upTo i .started ++
      if e = .nullCharacter then [] else upTo i .killed ++ upTo i .awaited := by
  rw [run_of_stopsAt h (List.getElem?_eq_getElem h.lt)]

/-- Where all stages can be started, all processes are awaited, and killed before if a sink refuses. -/
theorem events_of_none (h : ∀ i < p.stages.length, b.refusal i = none) :
    ∃ killed, (killed = [] ∨ killed = upTo p.stages.length .killed) ∧
      (p.run b).events = upTo p.stages.length .started ++ killed ++ upTo p.stages.length .awaited := by
  by_cases hne : p.stages = []
  · refine ⟨[], .inl rfl, ?_⟩
    rw [run_of_no_stages hne, hne, runCopy]
    cases p.source <;> rfl
  · rw [run_of_stages hne, runStages, start_all h]
    simp only
    cases hcopy : copy b.chunks (p.sinks.map fun sink => { sink }) with
    | mk intakes refusal =>
      cases refusal with
      | none => exact ⟨[], .inl rfl, by rw [List.append_nil]⟩
      | some message => exact ⟨_, .inr rfl, rfl⟩

theorem reaped_of_none (h : ∀ i < p.stages.length, b.refusal i = none) : Reaped (p.run b).events := by
  obtain ⟨killed, hkilled, hevents⟩ := events_of_none h
  intro i hi
  have hlt : i < p.stages.length := by
    rw [hevents, List.mem_append, List.mem_append] at hi
    rcases hi with (hi | hi) | hi
    · exact started_mem_upTo.mp hi
    · rcases hkilled with rfl | rfl
      · exact absurd hi List.not_mem_nil
      · exact absurd hi started_not_mem_killed
    · exact absurd hi started_not_mem_awaited
  rw [hevents, List.append_assoc]
  exact (singleton_sublist_upTo .started hlt).append
    ((singleton_sublist_upTo .awaited hlt).trans (List.sublist_append_right _ _))

section Stops

variable {i : Nat} {e : FileError}

theorem StopsAt.started_iff (h : StopsAt p b i e) (j : Nat) : .started j ∈ (p.run b).events ↔ j < i := by
  rw [events_of_stopsAt h, List.mem_append, started_mem_upTo, or_iff_left]
  split_ifs
  · exact List.not_mem_nil
  · rw [List.mem_append, not_or]
    exact ⟨started_not_mem_killed, started_not_mem_awaited⟩

theorem StopsAt.killed (h : StopsAt p b i e) (he : e ≠ .nullCharacter) {j : Nat} (hj : j < i) :
    [.started j, .killed j, .awaited j] <+ (p.run b).events := by
  rw [events_of_stopsAt h, if_neg he]
  exact (singleton_sublist_upTo .started hj).append
    ((singleton_sublist_upTo .killed hj).append (singleton_sublist_upTo .awaited hj))

theorem StopsAt.reaped (h : StopsAt p b i e) (he : e ≠ .nullCharacter) : Reaped (p.run b).events := by
  intro j hj
  refine List.Sublist.trans ?_ (h.killed he ((h.started_iff j).mp hj))
  exact .cons_cons _ (.cons _ (List.Sublist.refl _))

/-- Nothing more happens to the processes that have been started before a null character. -/
theorem StopsAt.not_reaped (h : StopsAt p b i .nullCharacter) (hi : 0 < i) : ¬ Reaped (p.run b).events := by
  intro hreaped
  have hawaited := (hreaped 0 ((h.started_iff 0).mpr hi)).subset (List.mem_cons_of_mem _ List.mem_cons_self)
  rw [events_of_stopsAt h, if_pos rfl, List.append_nil, mem_upTo] at hawaited
  obtain ⟨_, _, hevent⟩ := hawaited
  cases hevent

end Stops

/-- **When no process outlives its run.**  Every process that is started is awaited, exactly when no stage
behind the first one is kept from starting by a null character.  If a stage cannot be started, those
before it and no others are started; for any other reason than a null character, they are killed and then
awaited. -/
theorem reaped_iff (p : Pipeline) (b : Behaviour) :
    (Reaped (p.run b).events ↔ ¬ ∃ i, 0 < i ∧ StopsAt p b i .nullCharacter) ∧
    ∀ i e, StopsAt p b i e → (∀ j, .started j ∈ (p.run b).events ↔ j < i) ∧
      (e ≠ .nullCharacter → ∀ j < i, [.started j, .killed j, .awaited j] <+ (p.run b).events) := by
  refine ⟨⟨?_, ?_⟩, fun i e h => ⟨h.started_iff, fun he j hj => h.killed he hj⟩⟩
  · rintro hreaped ⟨i, hi, h⟩
    exact h.not_reaped hi hreaped
  · intro hnone
    rcases none_or_stopsAt p b with h | ⟨i, e, h⟩
    · exact reaped_of_none h
    · by_cases he : e = .nullCharacter
      · subst he
        intro j hj
        exact absurd ⟨i, Nat.zero_lt_of_lt ((h.started_iff j).mp hj), h⟩ hnone
      · exact h.reaped he

end Runs

/-! ## Programs -/

open Program

/-- The first program that cannot be found is the one that cannot be started. -/
theorem findParts_of_error {files : Tree} {k : Nat} {found rest : List Part} {part : Part} {e : FileError}
    (hfound : ∀ q ∈ found, ∃ tool, findPart files q = .ok tool) (he : findPart files part = .error e) :
    findParts files k (found ++ part :: rest) = .error (k + found.length, e) := by
  induction found generalizing k with
  | nil =>
    rw [List.nil_append, findParts, he]
    rfl
  | cons q found ih =>
    obtain ⟨tool, htool⟩ := hfound q List.mem_cons_self
    rw [List.cons_append, findParts, htool, ih fun q hq => hfound q (List.mem_cons_of_mem _ hq)]
    simp only [Except.map, List.length_cons, Nat.add_assoc, Nat.add_comm 1]

theorem close_report (target : Option Target) (report : Report) (files : Tree) :
    (close target report files).report = report := by
  cases target <;> rfl

theorem execute_report (built : Built) (environment : List (String × String)) (machine : Machine)
    (h : built.pipeline.stages ≠ []) :
    (built.execute environment machine).report =
      built.pipeline.run (behaviourOf (machine.launch (built.pipeline.stages.map part)
        (jobOf { files := built.files, environment } (inputOf built.pipeline.source) true))) := by
  rw [Built.execute, List.isEmpty_eq_false_iff.mpr h, run_of_stages h]
  exact close_report _ _ _

/-- The stage with the first program that cannot be found ends the run. -/
theorem stopsAt_of_error (found rest : List Stage) {p : Pipeline} {s : Stage} {j : Job} {e : FileError}
    (hp : p.stages = found ++ s :: rest) (hfound : ∀ q ∈ found, ∃ tool, findPart j.files (part q) = .ok tool)
    (he : findPart j.files (part s) = .error e) :
    StopsAt p (behaviourOf (launch (p.stages.map part) j)) found.length e := by
  have hrefusal : (launch (p.stages.map part) j).refusal = some (found.length, e) := by
    have hfind : findParts j.files 0 (p.stages.map part) = .error (found.length, e) := by
      rw [hp, List.map_append, List.map_cons, findParts_of_error (by simpa using hfound) he, List.length_map,
        Nat.zero_add]
    rw [launch, hfind]
  refine ⟨?_, ?_, ?_⟩
  · rw [hp, List.length_append, List.length_cons]
    omega
  · simp only [behaviourOf, hrefusal, if_true]
  · intro i hi
    simp only [behaviourOf, hrefusal, if_neg (Nat.ne_of_lt hi)]

theorem find_sh (files : Tree) : find nesting files "sh" = .ok (shell (find 7)) := by
  have hlookup : starters.lookup "sh" = some shell := rfl
  rw [nesting, find, if_neg (by decide +kernel), if_neg (by decide +kernel), if_neg (by decide +kernel),
    if_pos (by decide +kernel), find.known, hlookup]

/-- A program goes on without anybody waiting for it, as a word of the next stage has a null character. -/
theorem left_to_itself : ∃ c built,
    interpret "sub t | sh -c 'sleep 0.5; echo alive > f' | cat '\x00'" = .ok c ∧
      ofChain c (.octets [120]) [.taking] {} 1 false = .ok built ∧
      built.pipeline.stages = [⟨⟨"sh", ["-c", "sleep 0.5; echo alive > f"]⟩, false⟩, ⟨⟨"cat", ["\x00"]⟩, false⟩] ∧
      .started 0 ∈ (built.execute []).report.events ∧ ¬ Reaped (built.execute []).report.events := by
  have hc : interpret "sub t | sh -c 'sleep 0.5; echo alive > f' | cat '\x00'" = .ok
      ⟨[⟨"sub", ["t"]⟩, ⟨"sh", ["-c", "sleep 0.5; echo alive > f"]⟩, ⟨"cat", ["\x00"]⟩], [.pipe, .pipe],
        ["sub", "t", "|", "sh", "-c", "sleep 0.5; echo alive > f", "|", "cat", "\x00"], false⟩ := by
    decide +kernel
  have hfound : findPart {} ⟨["sh", "-c", "sleep 0.5; echo alive > f"], false⟩ = .ok (shell (find 7)) := by
    have hplain : ["sh", "-c", "sleep 0.5; echo alive > f"].any (·.toList.contains '\x00') = false := by
      decide +kernel
    rw [findPart, hplain, if_neg Bool.false_ne_true]
    exact find_sh _
  have hnull : findPart {} ⟨["cat", "\x00"], false⟩ = .error .nullCharacter := by
    have hword : ["cat", "\x00"].any (·.toList.contains '\x00') = true := by decide +kernel
    rw [findPart, hword, if_pos rfl]
  refine ⟨_, _, hc, rfl, rfl, ?_⟩
  rw [execute_report _ _ _ (List.cons_ne_nil _ _)]
  have hstop := stopsAt_of_error [⟨⟨"sh", ["-c", "sleep 0.5; echo alive > f"]⟩, false⟩] []
    (s := ⟨⟨"cat", ["\x00"]⟩, false⟩) (j := jobOf {} [120] true)
    (p := ⟨[⟨⟨"sh", ["-c", "sleep 0.5; echo alive > f"]⟩, false⟩, ⟨⟨"cat", ["\x00"]⟩, false⟩], .octets [120],
      [.taking]⟩)
    rfl (by simpa using ⟨_, hfound⟩) hnull
  exact ⟨(hstop.started_iff 0).mpr Nat.one_pos, hstop.not_reaped Nat.one_pos⟩

end TopicShell.Pipeline
