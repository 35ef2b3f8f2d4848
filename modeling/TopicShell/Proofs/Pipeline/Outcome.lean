import TopicShell.Proofs.Pipeline.Sinks

/-!
# How a run ends

Three things can make a run with stages fail: a stage that cannot be started, a sink that refuses, and the status of a
stage.  `Outcome` says which of them counts, whatever else goes wrong: the first stage that cannot be started before
all sinks, the first refusal of a sink before all statuses, and the first status that is an error otherwise
(`FailsAt`).  `abort_eq_iff_outcome` says that a run ends just so.
-/

namespace TopicShell.Pipeline

open Files Line

/-- The status of a stage is no error: it is zero, or that of a broken pipe before the last stage. -/
def Passes (stages : List Stage) (status : Nat → Int) (i : Nat) : Prop :=
  status i = 0 ∨ i + 1 < stages.length ∧ status i = brokenPipe

/-- The stage with a number is the first whose status is an error. -/
structure FailsAt (stages : List Stage) (status : Nat → Int) (i : Nat) (s : Stage) : Prop where
  stage : stages[i]? = some s
  failed : ¬ Passes stages status i
  first : ∀ j < i, Passes stages status j

/-- How a run ends, if every stage is either started or refused by the system. -/
inductive Outcome (p : Pipeline) (b : Behaviour) : Option Abort → Prop where
  | unstarted {i : Nat} {s : Stage} {e : FileError} (hstops : StopsAt p b i e) (hstage : p.stages[i]? = some s) :
    Outcome p b (some (.failure (.start s.command.name e)))
  | refused {message : String} (hstart : ∀ i < p.stages.length, b.refusal i = none)
      (hrefuses : Refuses p.sinks b.chunks message) : Outcome p b (some (.failure (.sink p.text message)))
  | failed {i : Nat} {s : Stage} (hstart : ∀ i < p.stages.length, b.refusal i = none)
      (htaken : ∀ message, ¬ Refuses p.sinks b.chunks message) (hfails : FailsAt p.stages b.status i s) :
    Outcome p b (some (.failure (.exit s.command (b.status i))))
  | finished (hstart : ∀ i < p.stages.length, b.refusal i = none)
      (htaken : ∀ message, ¬ Refuses p.sinks b.chunks message)
      (hpasses : ∀ i < p.stages.length, Passes p.stages b.status i) : Outcome p b none

/-! ## Statuses -/

section Statuses

variable {stages : List Stage} {status : Nat → Int} {i : Nat} {s : Stage}

/-- What the check of one stage finds. -/
theorem check_eq_none_iff (hi : i < stages.length) (failure : Failure) :
    (if isFailure (stages.length - 1) i (status i) then some failure else none) = none ↔ Passes stages status i := by
  have hlast : i < stages.length - 1 ↔ i + 1 < stages.length := by omega
  by_cases hz : status i = 0 <;> by_cases hb : i + 1 < stages.length <;>
    simp [isFailure, Passes, hlast, hz, hb]

theorem firstFailure_eq_none_iff :
    firstFailure stages status = none ↔ ∀ i < stages.length, Passes stages status i := by
  rw [firstFailure, List.findSome?_eq_none_iff]
  constructor
  · intro h i hi
    have hmem : (stages[i], i) ∈ stages.zipIdx := List.mem_zipIdx_iff_getElem?.mpr (List.getElem?_eq_getElem hi)
    exact (check_eq_none_iff hi _).mp (h (stages[i], i) hmem)
  · rintro h ⟨s, i⟩ hmem
    obtain ⟨hi, _⟩ := List.getElem?_eq_some_iff.mp (List.mem_zipIdx_iff_getElem?.mp hmem)
    exact (check_eq_none_iff hi _).mpr (h i hi)

/-- In a numbered list, the numbers before a number are those of the elements before it. -/
theorem mem_of_zipIdx_eq_append {before after : List (Stage × Nat)} {x : Stage × Nat}
    (h : stages.zipIdx = before ++ x :: after) {j : Nat} (hj : j < x.2) : ∃ s, (s, j) ∈ before := by
  have hnumber : x.2 = before.length := by
    have hx : stages.zipIdx[before.length]? = some x := by simp [h]
    rw [List.getElem?_zipIdx, Option.map_eq_some_iff] at hx
    obtain ⟨s, _, rfl⟩ := hx
    exact Nat.zero_add _
  have hlt : j < before.length := hnumber ▸ hj
  have hentry : stages.zipIdx[j]? = some before[j] := by
    rw [h, List.getElem?_append_left hlt, List.getElem?_eq_getElem hlt]
  rw [List.getElem?_zipIdx, Option.map_eq_some_iff] at hentry
  obtain ⟨s, _, heq⟩ := hentry
  rw [Nat.zero_add] at heq
  exact ⟨s, heq ▸ List.getElem_mem hlt⟩

theorem failsAt_of_firstFailure {failure : Failure} (h : firstFailure stages status = some failure) :
    ∃ i s, FailsAt stages status i s ∧ failure = .exit s.command (status i) := by
  obtain ⟨before, ⟨s, i⟩, after, hsplit, hfailure, hbefore⟩ := List.findSome?_eq_some_iff.mp h
  have hstage : stages[i]? = some s :=
    List.mem_zipIdx_iff_getElem?.mp (hsplit ▸ List.mem_append_right _ List.mem_cons_self)
  have hi : i < stages.length := (List.getElem?_eq_some_iff.mp hstage).1
  simp only at hfailure
  have hfailed : ¬ Passes stages status i := by
    intro hpasses
    rw [(check_eq_none_iff hi _).mpr hpasses] at hfailure
    cases hfailure
  have hfirst : ∀ j < i, Passes stages status j := by
    intro j hj
    obtain ⟨s', hmem⟩ := mem_of_zipIdx_eq_append hsplit hj
    exact (check_eq_none_iff (Nat.lt_trans hj hi) _).mp (hbefore (s', j) hmem)
  refine ⟨i, s, ⟨hstage, hfailed, hfirst⟩, ?_⟩
  split_ifs at hfailure
  exact (Option.some.inj hfailure).symm

theorem FailsAt.eq (h : FailsAt stages status i s) {j : Nat} {s' : Stage} (h' : FailsAt stages status j s') :
    i = j ∧ s = s' := by
  have hij : i = j := by
    rcases Nat.lt_trichotomy i j with hlt | heq | hlt
    · exact absurd (h'.first i hlt) h.failed
    · exact heq
    · exact absurd (h.first j hlt) h'.failed
  subst hij
  exact ⟨rfl, Option.some.inj (h.stage.symm.trans h'.stage)⟩

theorem FailsAt.firstFailure (h : FailsAt stages status i s) :
    firstFailure stages status = some (.exit s.command (status i)) := by
  cases hf : Pipeline.firstFailure stages status with
  | none =>
    have hi : i < stages.length := (List.getElem?_eq_some_iff.mp h.stage).1
    exact absurd (firstFailure_eq_none_iff.mp hf i hi) h.failed
  | some failure =>
    obtain ⟨j, s', h', rfl⟩ := failsAt_of_firstFailure hf
    obtain ⟨rfl, rfl⟩ := h.eq h'
    rfl

end Statuses

/-! ## Runs -/

/-- What the system refuses is a failure of the pipeline. -/
theorem Abort.ofFile_of_ne {e : FileError} (h : e ≠ .nullCharacter) (fail : FileError → Failure) :
    Abort.ofFile fail e = .failure (fail e) := by
  cases e with
  | nullCharacter => exact absurd rfl h
  | _ => rfl

section Ends

variable {p : Pipeline} {b : Behaviour}

/-- If all stages are started and all sinks take everything, the statuses are left. -/
theorem abort_of_taken (hstages : p.stages ≠ []) (hstart : ∀ i < p.stages.length, b.refusal i = none)
    (htaken : ∀ message, ¬ Refuses p.sinks b.chunks message) :
    (p.run b).abort = (firstFailure p.stages b.status).map .failure := by
  rw [run_of_stages hstages, runStages, start_all hstart]
  cases hc : copy b.chunks (p.sinks.map fun sink => { sink }) with
  | mk intakes refusal =>
    cases refusal with
    | none => rfl
    | some message => exact absurd (copy_refuses_iff.mp (by rw [hc])) (htaken message)

theorem exists_outcome (p : Pipeline) (b : Behaviour) : ∃ outcome, Outcome p b outcome := by
  rcases none_or_stopsAt p b with hstart | ⟨i, e, hstops⟩
  · by_cases hrefuses : ∃ message, Refuses p.sinks b.chunks message
    · obtain ⟨message, hrefuses⟩ := hrefuses
      exact ⟨_, .refused hstart hrefuses⟩
    · have htaken : ∀ message, ¬ Refuses p.sinks b.chunks message := fun message h => hrefuses ⟨message, h⟩
      cases hf : firstFailure p.stages b.status with
      | none => exact ⟨_, .finished hstart htaken (firstFailure_eq_none_iff.mp hf)⟩
      | some failure =>
        obtain ⟨i, s, hfails, _⟩ := failsAt_of_firstFailure hf
        exact ⟨_, .failed hstart htaken hfails⟩
  · exact ⟨_, .unstarted hstops (List.getElem?_eq_getElem hstops.lt)⟩

theorem abort_of_outcome (hstages : p.stages ≠ [])
    (hsystem : ∀ i < p.stages.length, b.refusal i ≠ some .nullCharacter) {outcome : Option Abort}
    (h : Outcome p b outcome) : (p.run b).abort = outcome := by
  cases h with
  | @unstarted i s e hstops hstage =>
    have he : e ≠ .nullCharacter := fun he => hsystem i hstops.lt (he ▸ hstops.refused)
    rw [run_of_stopsAt hstops hstage, Abort.ofFile_of_ne he]
  | refused hstart hrefuses => rw [abort_of_refuses (.output hstages hstart) hrefuses, if_neg hstages]
  | failed hstart htaken hfails =>
    rw [abort_of_taken hstages hstart htaken, hfails.firstFailure]
    rfl
  | finished hstart htaken hpasses =>
    rw [abort_of_taken hstages hstart htaken, firstFailure_eq_none_iff.mpr hpasses]
    rfl

/-- **How a run with stages ends.**  Let every stage be either started or refused by the system.  Then a run ends in
exactly one way.  If a stage cannot be started, it fails naming the program of the first such stage, and nothing
reaches the sinks; otherwise, if a sink refuses, it fails with the message of the sink, whatever the statuses are;
otherwise it ends well exactly if the last status is zero and each other one is zero or that of a broken pipe, and
else fails naming the first stage, in order, for which this does not hold, with its status. -/
theorem abort_eq_iff_outcome (hstages : p.stages ≠ [])
    (hsystem : ∀ i < p.stages.length, b.refusal i ≠ some .nullCharacter) :
    (∀ outcome, (p.run b).abort = outcome ↔ Outcome p b outcome) ∧
    ∀ i e, StopsAt p b i e → ∀ intake ∈ (p.run b).intakes, intake.taken = [] := by
  constructor
  · intro outcome
    constructor
    · rintro rfl
      obtain ⟨outcome, h⟩ := exists_outcome p b
      rw [abort_of_outcome hstages hsystem h]
      exact h
    · exact abort_of_outcome hstages hsystem
  · intro i e hstops intake hmem
    rw [run_of_stopsAt hstops (List.getElem?_eq_getElem hstops.lt), List.mem_map] at hmem
    obtain ⟨sink, _, rfl⟩ := hmem
    rfl

end Ends

/-- A writer whose reader has gone, two stages that fail, and a sink that refuses although both fail. -/
theorem yes_into_head_ends :
    let stages : List Stage := [⟨⟨"yes", []⟩, false⟩, ⟨⟨"head", ["-n", "1"]⟩, false⟩]
    let behaviour : Int → Int → Behaviour := fun first last =>
      ⟨fun _ => none, [[121, 10]], fun i => if i = 0 then first else last⟩
    ((⟨stages, .nothing, [.taking]⟩ : Pipeline).run (behaviour (-13) 0)).abort = none ∧
    ((⟨stages, .nothing, [.taking]⟩ : Pipeline).run (behaviour 2 (-13))).abort
      = some (.failure (.exit ⟨"yes", []⟩ 2)) ∧
    ((⟨stages, .nothing, [.taking, .refusing "boom"]⟩ : Pipeline).run (behaviour 2 (-13))).abort
      = some (.failure (.sink "yes | head -n 1" "boom")) := by
  intro stages behaviour
  have hstages : stages ≠ [] := List.cons_ne_nil _ _
  have hsystem : ∀ first last, ∀ i < stages.length, (behaviour first last).refusal i ≠ some .nullCharacter :=
    fun _ _ _ _ => (Option.some_ne_none _).symm
  have htaken : ∀ message, ¬ Refuses [.taking] [[121, 10]] message := by
    intro message h
    cases copy_refuses_iff.mpr h
  have hrefuses : Refuses [.taking, .refusing "boom"] [[121, 10]] "boom" := copy_refuses_iff.mp rfl
  have hpasses : ∀ i < stages.length, Passes stages (behaviour (-13) 0).status i := by
    intro i hi
    rcases Nat.le_one_iff_eq_zero_or_eq_one.mp (Nat.le_of_lt_succ hi) with rfl | rfl
    · exact .inr ⟨by decide, rfl⟩
    · exact .inl rfl
  have hfails : FailsAt stages (behaviour 2 (-13)).status 0 ⟨⟨"yes", []⟩, false⟩ := by
    refine ⟨rfl, ?_, fun j hj => absurd hj (Nat.not_lt_zero j)⟩
    rintro (h | ⟨_, h⟩) <;> cases h
  refine ⟨?_, ?_, ?_⟩
  · exact ((abort_eq_iff_outcome hstages (hsystem _ _)).1 _).mpr (.finished (fun _ _ => rfl) htaken hpasses)
  · exact ((abort_eq_iff_outcome hstages (hsystem _ _)).1 _).mpr
      (@Outcome.failed _ (behaviour 2 (-13)) 0 ⟨⟨"yes", []⟩, false⟩ (fun _ _ => rfl) htaken hfails)
  · exact ((abort_eq_iff_outcome hstages (hsystem _ _)).1 _).mpr (.refused (fun _ _ => rfl) hrefuses)

end TopicShell.Pipeline
