import TopicShell.Proofs.Broker.Traffic

/-!
# Acknowledgements find their requests

Each event of a run keeps the table of waits in step with the history (`Matched`), and keeps what has arrived
(`Kept`).  So a call ends by the first acknowledgement with its own number, or by the time that is up
(`ends_by_own_acknowledgement`).
-/

namespace TopicShell.Broker.Traffic

/-! ## The table of waits is what the history says -/

/-- A wait, by what it has been told. -/
def waitOf : Option (List ReasonCode) → Wait
  | none => .waiting
  | some codes => .answered (failureText codes)

theorem outcome_of_waitOf {w : Waits} {position : Nat} {answer : Option (List ReasonCode)}
    (h : w.all[position]? = some (waitOf answer)) (action : String) :
    w.outcome position action = conclusion action answer := by
  cases answer with
  | none => exact Waits.outcome_of_waiting h action
  | some codes => exact Waits.outcome_of_answered h action

/-- The state after a history: a number is waited for by the call that has it and has no answer, an answer is
in hand until the call is told, and each wait holds what its call has been told. -/
structure Matched (es : List Event) (s : Traffic) : Prop where
  calls : accepts es = s.calls ++ s.sending.toList
  length : s.waits.all.length = s.calls.length
  /-- Nothing is taken in while a call holds the lock. -/
  unanswered : answerTo s.calls.length es = none
  renews : ∀ c, s.sending = some c → ∀ (position : Nat) (earlier : Call),
    s.calls[position]? = some earlier → earlier.number = c.number → answerTo position es ≠ none
  pending : ∀ number position : Nat, s.waits.pending.lookup number = some position ↔
    (s.calls[position]?).map (·.number) = some number ∧ answerTo position es = none
  found : ∀ (position : Nat) (codes : List ReasonCode), s.found.lookup position = some codes ↔
    answerTo position es = some codes ∧ .answered position ∉ es
  all : ∀ position : Nat, position < s.calls.length →
    s.waits.all[position]? = some (waitOf (told position es))
  answered : ∀ position : Nat, .answered position ∈ es → answerTo position es ≠ none

section Matched

variable {es : List Event} {s : Traffic}

theorem Matched.empty : Matched [] {} where
  calls := rfl
  length := rfl
  unanswered := rfl
  renews := nofun
  pending := fun _ _ => ⟨nofun, nofun⟩
  found := fun _ _ => ⟨nofun, nofun⟩
  all := nofun
  answered := nofun

theorem Matched.call (hs : Matched es s) {position : Nat} {c : Call} (h : s.calls[position]? = some c) :
    (accepts es)[position]? = some c := by
  rw [hs.calls, List.getElem?_append_left (List.getElem?_eq_some_iff.mp h).1, h]

/-- While no call holds the lock, the waits of all calls are registered. -/
theorem Matched.calls_of_free (hs : Matched es s) (hsend : s.sending = none) : accepts es = s.calls := by
  rw [hs.calls, hsend]
  exact List.append_nil _

theorem Matched.calls_concat (hs : Matched es s) {e : Event} (he : accepts [e] = []) :
    accepts (es ++ [e]) = s.calls ++ s.sending.toList := by
  rw [accepts_concat, he, List.append_nil, hs.calls]

/-- A call without an answer has none in hand. -/
theorem Matched.lookup_found_of_none (hs : Matched es s) {position : Nat}
    (h : answerTo position es = none) : s.found.lookup position = none := by
  refine Option.eq_none_iff_forall_ne_some.mpr fun codes hfound => ?_
  rw [((hs.found position codes).mp hfound).1] at h
  cases h

/-- What is neither taken in nor told changes nothing in the table and in hand. -/
theorem Matched.quiet (hs : Matched es s) {e : Event} {s' : Traffic}
    (hcodes : ∀ number, e.codesFor number = none) (hne : ∀ position, .answered position ≠ e)
    (hw : s'.waits = s.waits) (hf : s'.found = s.found) (hc : s'.calls = s.calls)
    (hcalls : accepts (es ++ [e]) = s.calls ++ s'.sending.toList)
    (hrenews : ∀ c, s'.sending = some c → ∀ (position : Nat) (earlier : Call),
      s.calls[position]? = some earlier → earlier.number = c.number →
      answerTo position es ≠ none) : Matched (es ++ [e]) s' := by
  refine ⟨by rw [hc, hcalls], by rw [hw, hc, hs.length], ?_, ?_, ?_, ?_, ?_, ?_⟩
  · rw [hc, answerTo_concat_of_none hcodes]
    exact hs.unanswered
  · intro c hsend position earlier hearlier hn
    rw [answerTo_concat_of_none hcodes]
    exact hrenews c hsend position earlier (hc ▸ hearlier) hn
  · intro number position
    rw [hw, hc, answerTo_concat_of_none hcodes]
    exact hs.pending number position
  · intro position codes
    rw [hf, answerTo_concat_of_none hcodes, mem_concat_iff (hne position)]
    exact hs.found position codes
  · intro position hlt
    rw [hc] at hlt
    rw [hw, told_concat (hs.answered position) (hne position)]
    exact hs.all position hlt
  · intro position h
    rw [answerTo_concat_of_none hcodes]
    exact hs.answered position ((mem_concat_iff (hne position)).mp h)

theorem Matched.accepted (hs : Matched es s) {c : Call} (hsend : s.sending = none)
    (hfresh : Renews es (.accepted c)) : Matched (es ++ [.accepted c]) (s.accepting c) := by
  have hcalls := hs.calls_of_free hsend
  refine hs.quiet (fun _ => rfl) (fun _ => nofun) rfl rfl rfl ?_ ?_
  · rw [accepts_concat, hcalls]
    rfl
  · intro c' hc' position earlier hearlier hn
    cases hc'
    exact hfresh position earlier (by rw [hcalls, hearlier]) hn

/-- A number that is registered stands for the new wait alone: the calls that had it before have their answers. -/
theorem Matched.pending_registered (hs : Matched es s) {c : Call} (hsend : s.sending = some c)
    (number position : Nat) :
    (s.waits.register c.number).2.pending.lookup number = some position ↔
      ((s.calls ++ [c])[position]?).map (·.number) = some number ∧ answerTo position es = none := by
  by_cases hn : number = c.number
  · subst hn
    rw [Waits.lookup_register_self, hs.length]
    constructor
    · rintro ⟨⟩
      rw [List.getElem?_concat_length]
      exact ⟨rfl, hs.unanswered⟩
    · rintro ⟨hnum, hnone⟩
      by_cases hp : position = s.calls.length
      · rw [hp]
      · rw [getElem?_concat_of_ne hp] at hnum
        obtain ⟨earlier, hearlier, hsame⟩ := Option.map_eq_some_iff.mp hnum
        exact absurd hnone (hs.renews c hsend position earlier hearlier hsame)
  · rw [Waits.lookup_register_of_ne _ hn, hs.pending]
    by_cases hp : position = s.calls.length
    · subst hp
      rw [List.getElem?_concat_length, List.getElem?_eq_none (Nat.le_refl _)]
      exact iff_of_false nofun fun h => hn (Option.some.inj h.1).symm
    · rw [getElem?_concat_of_ne hp]

theorem Matched.registered (hs : Matched es s) {c : Call} (hsend : s.sending = some c) :
    Matched (es ++ [.registered]) (s.registering c) := by
  have hcodes : ∀ number, Event.registered.codesFor number = none := fun _ => rfl
  have hne : ∀ position, Event.answered position ≠ .registered := fun _ => nofun
  have hacc : accepts (es ++ [.registered]) = s.calls ++ [c] := by
    rw [hs.calls_concat rfl, hsend]
    rfl
  refine ⟨hacc.trans (List.append_nil _).symm, ?_, ?_, nofun, ?_, ?_, ?_, ?_⟩
  · show (s.waits.all ++ [Wait.waiting]).length = (s.calls ++ [c]).length
    rw [List.length_append, List.length_append, hs.length]
    rfl
  · show answerTo (s.calls ++ [c]).length _ = none
    rw [answerTo, hacc, List.getElem?_eq_none (Nat.le_refl _), Option.bind_none]
  · intro number position
    rw [answerTo_concat_of_none hcodes]
    exact hs.pending_registered hsend number position
  · intro position codes
    rw [answerTo_concat_of_none hcodes, mem_concat_iff (hne position)]
    exact hs.found position codes
  · intro position hlt
    rw [told_concat (hs.answered position) (hne position)]
    show (s.waits.all ++ [Wait.waiting])[position]? = _
    by_cases hp : position = s.calls.length
    · rw [hp, ← hs.length, List.getElem?_concat_length, hs.length, told, hs.unanswered, ite_self]
      rfl
    · rw [getElem?_concat_of_ne (hs.length ▸ hp)]
      have hle : position < (s.calls ++ [c]).length := hlt
      rw [List.length_append, List.length_singleton] at hle
      exact hs.all position (Nat.lt_of_le_of_ne (Nat.le_of_lt_succ hle) hp)
  · intro position h
    rw [answerTo_concat_of_none hcodes]
    exact hs.answered position ((mem_concat_iff (hne position)).mp h)

/-- An acknowledgement that is taken in is the answer to the call that waits for its number. -/
theorem Matched.answerTo_admitted (hs : Matched es s) (hsend : s.sending = none) (a : Acknowledgement)
    (position : Nat) : answerTo position (es ++ [.admitted a]) =
      if s.waits.pending.lookup a.number = some position then some a.codes
      else answerTo position es := by
  rw [answerTo_concat, hs.calls_of_free hsend]
  by_cases h : s.waits.pending.lookup a.number = some position
  · obtain ⟨hnum, hnone⟩ := (hs.pending a.number position).mp h
    obtain ⟨c, hc, hn⟩ := Option.map_eq_some_iff.mp hnum
    rw [hnone, hc, if_pos h]
    exact if_pos hn.symm
  · rw [if_neg h]
    cases hans : answerTo position es with
    | some codes => rfl
    | none =>
      cases hc : s.calls[position]? with
      | none => rfl
      | some c =>
        refine if_neg fun hn => h ((hs.pending a.number position).mpr ⟨?_, hans⟩)
        rw [hc, hn]
        rfl

theorem Matched.pending_admitted (hs : Matched es s) (hsend : s.sending = none) (a : Acknowledgement)
    (number position : Nat) :
    (s.waits.without a.number).pending.lookup number = some position ↔
      (s.calls[position]?).map (·.number) = some number ∧
        answerTo position (es ++ [.admitted a]) = none := by
  rw [hs.answerTo_admitted hsend]
  by_cases hn : number = a.number
  · subst hn
    rw [Waits.lookup_without_self]
    refine iff_of_false nofun ?_
    rintro ⟨hnum, hnone⟩
    split at hnone
    · cases hnone
    · rename_i h
      exact h ((hs.pending a.number position).mpr ⟨hnum, hnone⟩)
  · rw [Waits.lookup_without_of_ne _ hn, hs.pending]
    split
    · -- the call that waits for the number that is taken out waits for no other
      rename_i h
      have hnum := ((hs.pending a.number position).mp h).1
      have hother : (s.calls[position]?).map (·.number) ≠ some number := by
        rw [hnum]
        exact fun h => hn (Option.some.inj h).symm
      exact iff_of_false (fun h => hother h.1) fun h => hother h.1
    · exact Iff.rfl

theorem Matched.found_admitted (hs : Matched es s) (hsend : s.sending = none) (a : Acknowledgement)
    (position : Nat) (codes : List ReasonCode) :
    (s.admitting a).found.lookup position = some codes ↔
      answerTo position (es ++ [.admitted a]) = some codes ∧ .answered position ∉ es := by
  rw [hs.answerTo_admitted hsend]
  cases hl : s.waits.pending.lookup a.number with
  | none =>
    rw [found_admitting_of_none hl]
    exact hs.found position codes
  | some q =>
    obtain ⟨_, hnone⟩ := (hs.pending a.number q).mp hl
    rw [found_admitting_of_some hl, List.lookup_append]
    by_cases hq : q = position
    · subst hq
      have hfound := hs.lookup_found_of_none hnone
      have hnot : .answered q ∉ es := fun h => hs.answered q h hnone
      rw [hfound, Option.none_or, if_pos rfl, and_iff_left hnot, List.lookup_cons, beq_self_eq_true]
    · rw [if_neg fun h => hq (Option.some.inj h), List.lookup_cons, beq_false_of_ne (Ne.symm hq),
        List.lookup_nil, Option.or_none]
      exact hs.found position codes

theorem Matched.admitted (hs : Matched es s) (hsend : s.sending = none) (a : Acknowledgement) :
    Matched (es ++ [.admitted a]) (s.admitting a) := by
  have hne : ∀ position, Event.answered position ≠ .admitted a := fun _ => nofun
  refine ⟨hs.calls_concat rfl, hs.length, ?_, ?_, hs.pending_admitted hsend a, ?_, ?_, ?_⟩
  · show answerTo s.calls.length _ = none
    rw [hs.answerTo_admitted hsend, if_neg, hs.unanswered]
    rw [hs.pending, List.getElem?_eq_none (Nat.le_refl _)]
    exact nofun
  · intro c hc
    rw [show (s.admitting a).sending = none from hsend] at hc
    cases hc
  · intro position codes
    rw [mem_concat_iff (hne position)]
    exact hs.found_admitted hsend a position codes
  · intro position hlt
    rw [told_concat (hs.answered position) (hne position)]
    exact hs.all position hlt
  · intro position h
    have hsome := hs.answered position ((mem_concat_iff (hne position)).mp h)
    obtain ⟨codes, hc⟩ := Option.ne_none_iff_exists'.mp hsome
    rw [answerTo_concat_of_some hc]
    exact nofun

theorem Matched.told (hs : Matched es s) {position : Nat} {codes : List ReasonCode}
    (h : s.found.lookup position = some codes) :
    Matched (es ++ [.answered position]) (s.answering position codes) := by
  have hcodes : ∀ number, (Event.answered position).codesFor number = none := fun _ => rfl
  have hne : ∀ other, other ≠ position → Event.answered other ≠ .answered position :=
    fun _ ho he => ho (Event.answered.inj he)
  have hself : Event.answered position ∈ es ++ [.answered position] :=
    List.mem_append_right es List.mem_cons_self
  obtain ⟨hans, _⟩ := (hs.found position codes).mp h
  refine ⟨hs.calls_concat rfl, List.length_set.trans hs.length, ?_, ?_, ?_, ?_, ?_, ?_⟩
  · rw [answerTo_concat_of_none hcodes]
    exact hs.unanswered
  · intro c hc other earlier hearlier hn
    rw [answerTo_concat_of_none hcodes]
    exact hs.renews c hc other earlier hearlier hn
  · intro number other
    rw [answerTo_concat_of_none hcodes]
    exact hs.pending number other
  · intro other codes'
    show (s.found.filter (·.1 != position)).lookup other = some codes' ↔ _
    rw [answerTo_concat_of_none hcodes]
    by_cases ho : other = position
    · subst ho
      rw [lookup_filter_ne]
      exact iff_of_false nofun fun h => h.2 hself
    · rw [lookup_filter_of_ne ho, mem_concat_iff (hne other ho)]
      exact hs.found other codes'
  · intro other hlt
    show (s.waits.all.set position _)[other]? = _
    by_cases ho : other = position
    · subst ho
      rw [List.getElem?_set_self (hs.length ▸ hlt), Traffic.told, if_pos hself,
        answerTo_concat_of_none hcodes, hans]
      rfl
    · rw [List.getElem?_set_ne (Ne.symm ho), told_concat (hs.answered other) (hne other ho)]
      exact hs.all other hlt
  · intro other h
    rw [answerTo_concat_of_none hcodes]
    by_cases ho : other = position
    · rw [ho, hans]
      exact nofun
    · exact hs.answered other ((mem_concat_iff (hne other ho)).mp h)

/-- **One event keeps the table in step with the history.** -/
theorem Matched.step {s' : Traffic} {e : Event} (hs : Matched es s) (hfresh : Renews es e)
    (h : step s e = some s') : Matched (es ++ [e]) s' := by
  cases e with
  | accepted c =>
    obtain ⟨hsend, rfl⟩ := step_accepted h
    exact hs.accepted hsend hfresh
  | registered =>
    obtain ⟨c, hsend, rfl⟩ := step_registered h
    exact hs.registered hsend
  | arrived a =>
    rw [step_arrived h]
    exact hs.quiet (fun _ => rfl) (fun _ => nofun) rfl rfl rfl (hs.calls_concat rfl) hs.renews
  | admitted a =>
    obtain ⟨hsend, _, rfl⟩ := step_admitted h
    exact hs.admitted hsend a
  | answered position =>
    obtain ⟨codes, hcodes, rfl⟩ := step_answered h
    exact hs.told hcodes
  | ended position =>
    obtain ⟨_, c, _, rfl⟩ := step_ended h
    exact hs.quiet (fun _ => rfl) (fun _ => nofun) rfl rfl rfl (hs.calls_concat rfl) hs.renews

theorem Matched.run (hfresh : Fresh es) (h : run es {} = some s) : Matched es s := by
  refine run_keeps (P := fun past s => Fresh past → Matched past s) ?_ [] (fun _ => .empty) h hfresh
  intro past s s' e hs hstep hpast
  obtain ⟨hbefore, hrenews, _⟩ := freshFrom_append.mp hpast
  exact (hs hbefore).step hrenews hstep

end Matched

/-! ## Nothing that has arrived gets lost -/

/-- An acknowledgement that has arrived since its call was accepted waits for the lock, or has been taken in. -/
def Kept (es : List Event) (s : Traffic) : Prop :=
  ∀ (position : Nat) (c : Call) (a : Acknowledgement), (accepts es)[position]? = some c →
    a.number = c.number → .arrived a ∈ since position es →
    a ∈ s.blocked ∨ answerTo position es ≠ none

theorem blocked_step {s s' : Traffic} {e : Event} (h : step s e = some s') {a : Acknowledgement}
    (ha : a ∈ s.blocked ∨ e = .arrived a) : a ∈ s'.blocked ∨ e = .admitted a := by
  cases e with
  | accepted c =>
    obtain ⟨_, rfl⟩ := step_accepted h
    exact .inl (ha.resolve_right nofun)
  | registered =>
    obtain ⟨c, _, rfl⟩ := step_registered h
    exact .inl (ha.resolve_right nofun)
  | arrived a' =>
    rw [step_arrived h]
    left
    rcases ha with ha | ha
    · exact List.mem_append_left [a'] ha
    · rw [← Event.arrived.inj ha]
      exact List.mem_append_right s.blocked List.mem_cons_self
  | admitted a' =>
    obtain ⟨_, _, rfl⟩ := step_admitted h
    by_cases haa : a = a'
    · exact .inr (by rw [haa])
    · exact .inl ((List.mem_erase_of_ne haa).mpr (ha.resolve_right nofun))
  | answered position =>
    obtain ⟨codes, _, rfl⟩ := step_answered h
    exact .inl (ha.resolve_right nofun)
  | ended position =>
    obtain ⟨_, c, _, rfl⟩ := step_ended h
    exact .inl (ha.resolve_right nofun)

theorem Kept.step {es : List Event} {s s' : Traffic} {e : Event} (hs : Kept es s)
    (h : step s e = some s') : Kept (es ++ [e]) s' := by
  intro position c a hc ha harr
  by_cases hlt : position < (accepts es).length
  · rw [accepts_concat, List.getElem?_append_left hlt] at hc
    rw [since_concat hlt, List.mem_append, List.mem_singleton] at harr
    have hcodes : (Event.admitted a).codesFor c.number = some a.codes := if_pos ha
    rw [answerTo_concat, hc, Option.bind_some, Ne, Option.or_eq_none_iff, Decidable.not_and_iff_or_not]
    have hmem : (a ∈ s.blocked ∨ e = .arrived a) ∨ answerTo position es ≠ none := by
      rcases harr with harr | he
      · exact (hs position c a hc ha harr).imp_left .inl
      · exact .inl (.inr he.symm)
    rcases hmem with hmem | hsome
    · refine (blocked_step h hmem).imp_right ?_
      rintro rfl
      rw [hcodes]
      exact .inr nofun
    · exact .inr (.inl hsome)
  · rw [since_concat_of_le (Nat.le_of_not_lt hlt)] at harr
    cases harr

/-! ## Nothing is taken in that has not arrived -/

/-- What waits for the lock has arrived, and so has what has been taken in. -/
structure Received (es : List Event) (s : Traffic) : Prop where
  blocked : ∀ a ∈ s.blocked, .arrived a ∈ es
  admitted : ∀ a : Acknowledgement, .admitted a ∈ es → .arrived a ∈ es

theorem Received.empty : Received [] {} where
  blocked := fun _ h => absurd h List.not_mem_nil
  admitted := fun _ h => absurd h List.not_mem_nil

/-- An event that takes nothing in adds at most what arrives with it. -/
theorem Received.aside {es : List Event} {s s' : Traffic} {e : Event} (hs : Received es s)
    (he : ∀ a, e ≠ .admitted a) (hblocked : ∀ a ∈ s'.blocked, a ∈ s.blocked ∨ e = .arrived a) :
    Received (es ++ [e]) s' := by
  refine ⟨fun a ha => ?_, fun a ha => ?_⟩
  · rcases hblocked a ha with h | rfl
    · exact List.mem_append_left _ (hs.blocked a h)
    · exact List.mem_append_right es List.mem_cons_self
  · exact List.mem_append_left _ (hs.admitted a ((mem_concat_iff (he a).symm).mp ha))

theorem Received.step {es : List Event} {s s' : Traffic} {e : Event} (hs : Received es s)
    (h : step s e = some s') : Received (es ++ [e]) s' := by
  cases e with
  | accepted c =>
    obtain ⟨_, rfl⟩ := step_accepted h
    exact hs.aside nofun fun a ha => .inl ha
  | registered =>
    obtain ⟨c, _, rfl⟩ := step_registered h
    exact hs.aside nofun fun a ha => .inl ha
  | arrived a =>
    rw [step_arrived h]
    refine hs.aside nofun fun a' ha' => ?_
    rcases List.mem_append.mp ha' with ha' | ha'
    · exact .inl ha'
    · exact .inr (by rw [List.mem_singleton.mp ha'])
  | admitted a =>
    obtain ⟨_, ha, rfl⟩ := step_admitted h
    refine ⟨fun a' ha' => ?_, fun a' ha' => ?_⟩
    · exact List.mem_append_left _ (hs.blocked a' (List.mem_of_mem_erase ha'))
    · rcases List.mem_append.mp ha' with ha' | ha'
      · exact List.mem_append_left _ (hs.admitted a' ha')
      · cases List.mem_singleton.mp ha'
        exact List.mem_append_left _ (hs.blocked a ha)
  | answered position =>
    obtain ⟨codes, _, rfl⟩ := step_answered h
    exact hs.aside nofun fun a ha => .inl ha
  | ended position =>
    obtain ⟨_, c, _, rfl⟩ := step_ended h
    exact hs.aside nofun fun a ha => .inl ha

theorem Received.run {es : List Event} {s : Traffic} (h : run es {} = some s) : Received es s :=
  run_keeps Received.step [] .empty h

/-! ## How calls end -/

theorem results_step {s s' : Traffic} {e : Event} (h : step s e = some s') : s.results <+: s'.results := by
  cases e with
  | accepted c =>
    obtain ⟨_, rfl⟩ := step_accepted h
    exact List.prefix_rfl
  | registered =>
    obtain ⟨c, _, rfl⟩ := step_registered h
    exact List.prefix_rfl
  | arrived a =>
    rw [step_arrived h]
    exact List.prefix_rfl
  | admitted a =>
    obtain ⟨_, _, rfl⟩ := step_admitted h
    exact List.prefix_rfl
  | answered position =>
    obtain ⟨codes, _, rfl⟩ := step_answered h
    exact List.prefix_rfl
  | ended position =>
    obtain ⟨_, c, _, rfl⟩ := step_ended h
    exact List.prefix_append _ _

theorem results_run {es : List Event} {s s' : Traffic} (h : run es s = some s') :
    s.results <+: s'.results :=
  run_keeps (P := fun _ t => s.results <+: t.results) (fun hs hstep => hs.trans (results_step hstep)) []
    List.prefix_rfl h

/-- A result stays what it is. -/
theorem lookup_results_run {s s' : Traffic} {es : List Event} {position : Nat} {r : Except String Unit}
    (h : run es s = some s') (hr : s.results.lookup position = some r) : s'.results.lookup position = some r := by
  obtain ⟨rest, hrest⟩ := results_run h
  rw [← hrest, List.lookup_append, hr, Option.some_or]

/-- What a call is told is what an acknowledgement with its number says, taken in since the call was accepted. -/
theorem exists_of_told {es : List Event} {position : Nat} {codes : List ReasonCode}
    (h : told position es = some codes) :
    ∃ c a, (accepts es)[position]? = some c ∧ .admitted a ∈ since position es ∧
      a.number = c.number ∧ a.codes = codes :=
  exists_of_answerTo (Option.ite_none_right_eq_some.mp h).2

/-- The acknowledgement reports no failure. -/
def Granted (answer : Option (List ReasonCode)) : Prop :=
  ∃ codes, answer = some codes ∧ ∀ code ∈ codes, code.isFailure = false

theorem failureText_eq_none_iff (codes : List ReasonCode) :
    failureText codes = none ↔ ∀ code ∈ codes, code.isFailure = false := by
  unfold failureText
  simp

/-- Each failure prints as a text, as every name of a reason code is one. -/
def Named (codes : List ReasonCode) : Prop :=
  ∀ code ∈ codes, code.isFailure = true → code.text ≠ ""

/-- Each failure that an acknowledgement reports prints as a text. -/
def NamesFailures (es : List Event) : Prop :=
  ∀ a : Acknowledgement, .arrived a ∈ es → Named a.codes

theorem intercalate_ne_empty (separator text : String) (texts : List String) (h : text ≠ "") :
    separator.intercalate (text :: texts) ≠ "" := by
  cases texts with
  | nil => simpa using h
  | cons text' texts =>
    rw [String.intercalate_cons_cons]
    simp [h]

/-- The texts of some failures are a text, too. -/
theorem Named.failureText_ne {codes : List ReasonCode} (h : Named codes) : failureText codes ≠ some "" := by
  unfold failureText
  cases hfailures : codes.filter (·.isFailure) with
  | nil => simp
  | cons code rest =>
    have hmem : code ∈ codes.filter (·.isFailure) := hfailures ▸ List.mem_cons_self
    obtain ⟨hcode, hfails⟩ := List.mem_filter.mp hmem
    simpa using intercalate_ne_empty ", " code.text (rest.map (·.text)) (h code hcode hfails)

theorem conclusion_ok_iff {answer : Option (List ReasonCode)} (h : ∀ codes, answer = some codes → Named codes)
    (action : String) : conclusion action answer = .ok () ↔ Granted answer := by
  cases answer with
  | none => exact iff_of_false nofun nofun
  | some codes =>
    have hne := (h codes rfl).failureText_ne
    simp only [Granted, Option.some.injEq, exists_eq_left', ← failureText_eq_none_iff, conclusion]
    cases htext : failureText codes with
    | none => simp
    | some text =>
      have htext' : text ≠ "" := fun he => hne (he ▸ htext)
      simp [htext']

/-- What a call is told has arrived before. -/
theorem NamesFailures.of_told {before after : List Event} (h : NamesFailures (before ++ after)) {s : Traffic}
    (hrun : run before {} = some s) {position : Nat} {codes : List ReasonCode}
    (htold : told position before = some codes) : Named codes := by
  obtain ⟨_, a, _, ha, _, rfl⟩ := exists_of_told htold
  have hadmitted : .admitted a ∈ before := (since_suffix position before).subset ha
  exact h a (List.mem_append_left _ ((Received.run hrun).admitted a hadmitted))

/-- **Each call ends by its own acknowledgement.**  In every run in which the client gives no number anew
whose acknowledgement is outstanding: a call that has come to its end has done so by what it had been told
until then, and it is done if and only if that was an acknowledgement without failures.  What a call is told has
been taken in since its acceptance with its own number.  Of the acknowledgements with this number none gets lost
that arrives since then, whether the wait is registered or not: at each moment it waits for the lock, or is in
hand, or the call has been told.  Each call that waits can end. -/
theorem ends_by_own_acknowledgement (es : List Event) (s : Traffic) (h : run es {} = some s)
    (hfresh : Fresh es) (hnames : NamesFailures es) :
    (∀ before position after, es = before ++ .ended position :: after →
      ∃ c r, (accepts before)[position]? = some c ∧ s.results.lookup position = some r ∧
        r = conclusion c.action (told position before) ∧
        (r = .ok () ↔ Granted (told position before))) ∧
    (∀ position codes, told position es = some codes →
      ∃ c a, (accepts es)[position]? = some c ∧ .admitted a ∈ since position es ∧
        a.number = c.number ∧ a.codes = codes) ∧
    (∀ position c a, (accepts es)[position]? = some c → a.number = c.number →
      .arrived a ∈ since position es →
        a ∈ s.blocked ∨ (s.found.lookup position).isSome ∨ (told position es).isSome) ∧
    ∀ position < s.calls.length, s.results.lookup position = none → (step s (.ended position)).isSome := by
  have hs : Matched es s := .run hfresh h
  refine ⟨?_, ?_, ?_, ?_⟩
  · rintro before position after rfl
    rw [run_append] at h
    obtain ⟨s₁, hbefore, hrest⟩ := Option.bind_eq_some_iff.mp h
    obtain ⟨s₂, hstep, hafter⟩ := Option.bind_eq_some_iff.mp hrest
    have hs₁ : Matched before s₁ := .run (freshFrom_append.mp hfresh).1 hbefore
    obtain ⟨hnone, c, hc, rfl⟩ := step_ended hstep
    have hout := outcome_of_waitOf (hs₁.all position (List.getElem?_eq_some_iff.mp hc).1) c.action
    refine ⟨c, s₁.waits.outcome position c.action, hs₁.call hc, ?_, hout, ?_⟩
    · refine lookup_results_run hafter ?_
      show (s₁.results ++ [_]).lookup position = _
      rw [List.lookup_append, hnone, Option.none_or, List.lookup_cons, beq_self_eq_true]
    · rw [hout]
      exact conclusion_ok_iff (fun codes htold => hnames.of_told hbefore htold) c.action
  · exact fun position codes htold => exists_of_told htold
  · intro position c a hc ha harr
    have hempty : Kept [] {} := nofun
    have hkept : Kept es s := run_keeps Kept.step [] hempty h
    refine (hkept position c a hc ha harr).imp_right fun hsome => ?_
    obtain ⟨codes, hcodes⟩ := Option.ne_none_iff_exists'.mp hsome
    by_cases hanswered : .answered position ∈ es
    · right
      rw [told, if_pos hanswered, hcodes]
      rfl
    · left
      rw [(hs.found position codes).mpr ⟨hcodes, hanswered⟩]
      rfl
  · intro position hlt hnone
    rw [step, if_pos hnone, List.getElem?_eq_getElem hlt]
    rfl

/-- Two calls; their acknowledgements come the other way round, one of them twice and before its wait is
registered.  The second call is done, since it has been told that it is granted. -/
theorem crossed_acknowledgements :
    let granted : Acknowledgement := ⟨2, [⟨false, "Granted QoS 0"⟩]⟩
    let refused : Acknowledgement := ⟨1, [⟨true, "Not authorized"⟩]⟩
    let before : List Event := [.accepted ⟨"subscribe", 1⟩, .registered, .accepted ⟨"unsubscribe", 2⟩,
      .arrived granted, .arrived refused, .registered, .admitted granted, .arrived granted,
      .admitted refused, .answered 1, .admitted granted]
    let es := before ++ [.ended 1, .answered 0, .ended 0]
    (∃ s, run es {} = some s ∧ s.results = [(1, .ok ()), (0, .error "Not authorized")]) ∧ Fresh es ∧
      Granted (told 1 before) := by
  intro granted refused before es
  have hfresh : Fresh es := freshFrom_of_nodup (by decide)
  have hnames : NamesFailures es := by
    intro a ha
    have hcodes : a = granted ∨ a = refused := by simpa [es, before, or_comm] using ha
    rcases hcodes with rfl | rfl <;> simp [Named, granted, refused]
  refine ⟨⟨_, rfl, rfl⟩, hfresh, ?_⟩
  obtain ⟨c, r, _, hr, _, hiff⟩ :=
    (ends_by_own_acknowledgement es _ rfl hfresh hnames).1 before 1 [.answered 0, .ended 0] rfl
  exact hiff.mp (Option.some.inj hr).symm

end TopicShell.Broker.Traffic
