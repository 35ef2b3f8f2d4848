import TopicShell.Logging
import Mathlib.Data.List.Induction

/-!
# Levels in force

The level that is remembered and the sinks are two things, and a demand for a level that there is not changes only
the second.  What a row of demands leaves of both can be told from the row alone: `Remembers` says which level is
remembered, and `Emptied` that its sink is gone (`Traced.run`, by induction over the row with the last demand set
apart).  A demand for the remembered level is then taken for granted although nothing is written any more.
-/

namespace TopicShell

theorem LogLevel.name_of_ofName? {name : String} {k : LogLevel} (h : ofName? name = some k) : k.name = name := by
  simpa using List.find?_some h

theorem LogLevel.name_injective : Function.Injective LogLevel.name := by
  intro j k h
  have hj := ofName?_name j
  rw [h, ofName?_name k] at hj
  exact (Option.some.inj hj).symm

namespace Logging

/-! ## Demands -/

/-- One call that asks for a level: the level that is given, and the setting of the environment at that time. -/
structure Demand where
  given : Option String := none
  setting : Option String := none
  deriving DecidableEq

/-- The level asked for. -/
def Demand.level (d : Demand) : String :=
  wanted d.given d.setting

/-- There is such a level. -/
def Demand.Known (d : Demand) : Prop :=
  ∃ k : LogLevel, k.name = d.level

def meet (l : Logging) (d : Demand) : Except UnknownLevel Unit × Logging :=
  l.configure d.given d.setting

def run (ds : List Demand) : Logging :=
  ds.foldl (fun l d => (l.meet d).2) {}

/-- There is one sink, and it is at the level asked for. -/
def Serves (l : Logging) (d : Demand) : Prop :=
  ∃ k : LogLevel, l.sinks = [k] ∧ k.name = d.level

theorem run_concat (ds : List Demand) (d : Demand) : run (ds ++ [d]) = ((run ds).meet d).2 :=
  List.foldl_append

theorem Demand.known_iff (d : Demand) : d.Known ↔ ∃ k, LogLevel.ofName? d.level = some k := by
  constructor
  · rintro ⟨k, hk⟩
    exact ⟨k, hk ▸ LogLevel.ofName?_name k⟩
  · rintro ⟨k, hk⟩
    exact ⟨k, LogLevel.name_of_ofName? hk⟩

/-- A demand for the remembered level changes nothing, one for another level puts it in force, and one for a level
that there is not takes all sinks away. -/
theorem meet_cases (l : Logging) (d : Demand) :
    (l.remembered = some d.level ∧ l.meet d = (.ok (), l)) ∨
    (l.remembered ≠ some d.level ∧ ∃ k : LogLevel, k.name = d.level ∧
      l.meet d = (.ok (), { remembered := some d.level, sinks := [k] })) ∨
    (l.remembered ≠ some d.level ∧ ¬ d.Known ∧ l.meet d = (.error ⟨d.level⟩, { l with sinks := [] })) := by
  by_cases hsame : l.remembered = some d.level
  · exact .inl ⟨hsame, if_pos hsame⟩
  · cases hlevel : LogLevel.ofName? d.level with
    | some k =>
      have hmeet : l.meet d = (.ok (), { remembered := some d.level, sinks := [k] }) := by
        rw [Demand.level] at hsame hlevel
        rw [meet, configure, if_neg hsame, hlevel, Demand.level]
      exact .inr (.inl ⟨hsame, k, LogLevel.name_of_ofName? hlevel, hmeet⟩)
    | none =>
      have hmeet : l.meet d = (.error ⟨d.level⟩, { l with sinks := [] }) := by
        rw [Demand.level] at hsame hlevel
        rw [meet, configure, if_neg hsame, hlevel, Demand.level]
      refine .inr (.inr ⟨hsame, ?_, hmeet⟩)
      rw [d.known_iff, hlevel]
      rintro ⟨k, hk⟩
      cases hk

/-! ## What a row of demands leaves -/

/-- A level has been asked for, and no other one that there is since then. -/
def Remembers (ds : List Demand) (name : String) : Prop :=
  ∃ before d since, ds = before ++ d :: since ∧ d.level = name ∧ ∀ x ∈ since, x.Known → x.level = name

/-- A level has been asked for, and no other one that there is since then, but one that there is not. -/
def Emptied (ds : List Demand) (name : String) : Prop :=
  ∃ before d since, ds = before ++ d :: since ∧ d.level = name ∧ (∀ x ∈ since, x.Known → x.level = name) ∧
    ∃ x ∈ since, ¬ x.Known

theorem Emptied.remembers {ds : List Demand} {name : String} (h : Emptied ds name) : Remembers ds name := by
  obtain ⟨before, d, since, hds, hd, hsince, _⟩ := h
  exact ⟨before, d, since, hds, hd, hsince⟩

theorem remembers_concat_iff (ds : List Demand) (d : Demand) (name : String) :
    Remembers (ds ++ [d]) name ↔ d.level = name ∨ ¬ d.Known ∧ Remembers ds name := by
  constructor
  · rintro ⟨before, e, since, hds, he, hsince⟩
    rcases List.eq_nil_or_concat since with rfl | ⟨since, x, rfl⟩
    · obtain ⟨rfl, hd⟩ := List.append_inj' hds rfl
      cases hd
      exact .inl he
    · rw [List.concat_eq_append, ← List.cons_append, ← List.append_assoc] at hds
      obtain ⟨rfl, hd⟩ := List.append_inj' hds rfl
      cases hd
      rw [List.concat_eq_append] at hsince
      obtain ⟨hbefore, hlast⟩ := List.forall_mem_append.mp hsince
      by_cases hknown : d.Known
      · exact .inl (hlast d List.mem_cons_self hknown)
      · exact .inr ⟨hknown, before, e, since, rfl, he, hbefore⟩
  · rintro (hd | ⟨hunknown, before, e, since, rfl, he, hsince⟩)
    · exact ⟨ds, d, [], rfl, hd, fun x hx => absurd hx List.not_mem_nil⟩
    · have hlast : ∀ x ∈ [d], x.Known → x.level = name :=
        List.forall_mem_singleton.mpr fun hknown => absurd hknown hunknown
      exact ⟨before, e, since ++ [d], by simp, he, List.forall_mem_append.mpr ⟨hsince, hlast⟩⟩

theorem emptied_concat_iff (ds : List Demand) (d : Demand) (name : String) :
    Emptied (ds ++ [d]) name ↔ ¬ d.Known ∧ Remembers ds name ∨ d.level = name ∧ Emptied ds name := by
  constructor
  · rintro ⟨before, e, since, hds, he, hsince, x, hx, hunknown⟩
    rcases List.eq_nil_or_concat since with rfl | ⟨since, y, rfl⟩
    · exact absurd hx List.not_mem_nil
    · rw [List.concat_eq_append, ← List.cons_append, ← List.append_assoc] at hds
      rw [List.concat_eq_append] at hsince hx
      obtain ⟨rfl, hd⟩ := List.append_inj' hds rfl
      cases hd
      obtain ⟨hbefore, hlast⟩ := List.forall_mem_append.mp hsince
      by_cases hknown : d.Known
      · rcases List.mem_append.mp hx with hx | hx
        · exact .inr ⟨hlast d List.mem_cons_self hknown, before, e, since, rfl, he, hbefore, x, hx, hunknown⟩
        · exact absurd (List.mem_singleton.mp hx ▸ hknown) hunknown
      · exact .inl ⟨hknown, before, e, since, rfl, he, hbefore⟩
  · rintro (⟨hunknown, before, e, since, rfl, he, hsince⟩ | ⟨hd, before, e, since, rfl, he, hsince, x, hx, hunknown⟩)
    · have hlast : ∀ x ∈ [d], x.Known → x.level = name :=
        List.forall_mem_singleton.mpr fun hknown => absurd hknown hunknown
      exact ⟨before, e, since ++ [d], by simp, he, List.forall_mem_append.mpr ⟨hsince, hlast⟩, d, by simp, hunknown⟩
    · have hlast : ∀ x ∈ [d], x.Known → x.level = name := List.forall_mem_singleton.mpr fun _ => hd
      exact ⟨before, e, since ++ [d], by simp, he, List.forall_mem_append.mpr ⟨hsince, hlast⟩, x, by simp [hx],
        hunknown⟩

/-- The remembered level and the sinks are those that a row of demands leaves. -/
structure Traced (ds : List Demand) (l : Logging) : Prop where
  isLevel : ∀ name, l.remembered = some name → ∃ k : LogLevel, k.name = name
  remembered : ∀ k : LogLevel, l.remembered = some k.name ↔ Remembers ds k.name
  gone : ∀ k : LogLevel, Emptied ds k.name → l.sinks = []
  inForce : ∀ k : LogLevel, l.remembered = some k.name → ¬ Emptied ds k.name → l.sinks = [k]

theorem Traced.start : Traced [] {} where
  isLevel := nofun
  remembered k := by
    refine iff_of_false nofun ?_
    rintro ⟨before, d, since, h, _⟩
    cases before <;> cases h
  gone k := by
    rintro ⟨before, d, since, h, _⟩
    cases before <;> cases h
  inForce := nofun

theorem Traced.meet {ds : List Demand} {l : Logging} (h : Traced ds l) (d : Demand) :
    Traced (ds ++ [d]) (l.meet d).2 := by
  rcases l.meet_cases d with ⟨hsame, hmeet⟩ | ⟨hother, k₀, hk₀, hmeet⟩ | ⟨hother, hunknown, hmeet⟩
  · have hknown : d.Known := h.isLevel d.level hsame
    have hempty : ∀ k : LogLevel, Emptied (ds ++ [d]) k.name ↔ d.level = k.name ∧ Emptied ds k.name := by
      intro k
      rw [emptied_concat_iff, iff_false_intro (not_not_intro hknown), false_and, false_or]
    rw [hmeet]
    refine ⟨h.isLevel, fun k => ?_, fun k hk => h.gone k ((hempty k).mp hk).2, fun k hk hnot => ?_⟩
    · rw [remembers_concat_iff, iff_false_intro (not_not_intro hknown), false_and, or_false]
      show l.remembered = some k.name ↔ _
      rw [hsame, Option.some.injEq]
    · have hlevel : d.level = k.name := Option.some.inj (hsame.symm.trans hk)
      exact h.inForce k hk fun he => hnot ((hempty k).mpr ⟨hlevel, he⟩)
  · have hknown : d.Known := ⟨k₀, hk₀⟩
    -- a level with another one asked for since is not the remembered one
    have hfull : ∀ k : LogLevel, ¬ Emptied (ds ++ [d]) k.name := by
      intro k
      rw [emptied_concat_iff]
      rintro (⟨hnot, _⟩ | ⟨hlevel, hempty⟩)
      · exact hnot hknown
      · exact hother (hlevel ▸ (h.remembered k).mpr hempty.remembers)
    rw [hmeet]
    refine ⟨?_, fun k => ?_, fun k hk => absurd hk (hfull k), fun k hk _ => ?_⟩
    · rintro name hname
      exact ⟨k₀, hk₀.trans (Option.some.inj hname)⟩
    · rw [remembers_concat_iff, iff_false_intro (not_not_intro hknown), false_and, or_false]
      show some d.level = some k.name ↔ _
      rw [Option.some.injEq]
    · have hlevel : k₀.name = k.name := hk₀.trans (Option.some.inj hk)
      rw [LogLevel.name_injective hlevel]
  · have hne : ∀ k : LogLevel, d.level ≠ k.name := fun k hk => hunknown ⟨k, hk.symm⟩
    rw [hmeet]
    refine ⟨h.isLevel, fun k => ?_, fun _ _ => rfl, fun k hk hnot => ?_⟩
    · rw [remembers_concat_iff, iff_false_intro (hne k), false_or, and_iff_right hunknown]
      exact h.remembered k
    · refine absurd ?_ hnot
      rw [emptied_concat_iff]
      exact .inl ⟨hunknown, (h.remembered k).mp hk⟩

theorem Traced.run (ds : List Demand) : Traced ds (run ds) := by
  induction ds using List.reverseRecOn with
  | nil => exact .start
  | append_singleton ds d ih =>
    rw [run_concat]
    exact ih.meet d

/-! ## Which demands are served -/

/-- **Which demands leave a sink at their level.**  A demand succeeds exactly if there is a level of its name, in
upper case.  There is then one sink, at that level, unless the level has been asked for before, and since then one
that there is not, but no other one that there is: then there is no sink at all. -/
theorem demand_served_iff (ds : List Demand) (d : Demand) :
    let (outcome, l) := (run ds).meet d
    (outcome = .ok () ↔ d.Known) ∧
    (outcome = .ok () → (l.Serves d ↔ ¬ Emptied ds d.level) ∧ (Emptied ds d.level → l.sinks = [])) := by
  have h := Traced.run ds
  show (((run ds).meet d).1 = .ok () ↔ d.Known) ∧ (((run ds).meet d).1 = .ok () →
    (((run ds).meet d).2.Serves d ↔ ¬ Emptied ds d.level) ∧ (Emptied ds d.level → ((run ds).meet d).2.sinks = []))
  rcases (run ds).meet_cases d with ⟨hsame, hmeet⟩ | ⟨hother, k, hk, hmeet⟩ | ⟨_, hunknown, hmeet⟩
  · rw [hmeet]
    obtain ⟨k, hk⟩ := h.isLevel d.level hsame
    rw [← hk] at hsame ⊢
    refine ⟨iff_of_true rfl ⟨k, hk⟩, fun _ => ⟨⟨?_, fun hnot => ⟨k, h.inForce k hsame hnot, hk⟩⟩, h.gone k⟩⟩
    rintro ⟨j, hj, _⟩ hempty
    rw [h.gone k hempty] at hj
    cases hj
  · rw [hmeet]
    have hfull : ¬ Emptied ds d.level := fun he => hother (hk ▸ (h.remembered k).mpr (hk ▸ he.remembers))
    exact ⟨iff_of_true rfl ⟨k, hk⟩, fun _ => ⟨iff_of_true ⟨k, rfl, hk⟩ hfull, fun he => absurd he hfull⟩⟩
  · rw [hmeet]
    exact ⟨iff_of_false nofun hunknown, nofun⟩

/-- After a level that there is not, the level in force before is asked for in vain: the demand succeeds, but no
sink is left. -/
theorem info_not_served_again :
    let l := run [{ given := some "info" }, { given := some "bogus" }]
    l.meet { given := some "info" } = (.ok (), l) ∧ l.sinks = [] ∧ ¬ l.Serves { given := some "info" } := by
  intro l
  have hsinks : l.sinks = [] := by decide +kernel
  refine ⟨by decide +kernel, hsinks, ?_⟩
  rintro ⟨k, hk, _⟩
  rw [hsinks] at hk
  cases hk

end Logging

end TopicShell
