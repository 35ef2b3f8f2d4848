import TopicShell.Proofs.Session.Runs
import Mathlib.Data.List.Nodup

/-!
# Every writer is accounted for

The input of a background pipeline is opened once.  As long as it is open, the pipeline is the one that
`longTerm` has for its topic, and it has never been closed; when `longTerm` has it no longer, its input has
been closed, exactly once.  `Accounted` says so of one session.  Each change keeps it
(`Change.accounted`), and so does a move and a run; closing a session leaves no input open
(`close_shuts`).
-/

namespace TopicShell.Session

/-- How often an input must have been closed: never while it is open, and never before it exists. -/
def closings : Option (String × Bool) → Nat
  | some (_, false) => 1
  | _ => 0

/-- Records of background pipelines, their inputs and the log agree. -/
structure Accounted (s : Session) : Prop where
  nodup : (s.longTerm.map Prod.fst).Nodup
  current : ∀ topic n, (topic, n) ∈ s.longTerm ↔ s.handles[n]? = some (topic, true)
  opened : ∀ n, s.log.count (.opened n) = if n < s.handles.length then 1 else 0
  shut : ∀ n, s.log.count (.shut n) = closings s.handles[n]?

/-! ## Entries -/

theorem Accounted.lookup_iff {s : Session} (hs : s.Accounted) {topic : String} {n : Nat} :
    s.longTerm.lookup topic = some n ↔ s.handles[n]? = some (topic, true) := by
  rw [← hs.current]
  exact ⟨mem_of_lookup, lookup_of_mem hs.nodup⟩

/-! ## One change -/

/-- Events that neither open nor close an input do not count. -/
theorem Accounted.of_log {s s' : Session} (hs : s.Accounted) (hl : s'.longTerm = s.longTerm)
    (hh : s'.handles = s.handles) {events : List Event} (hlog : s'.log = s.log ++ events)
    (he : ∀ e ∈ events, ∀ n, e ≠ .opened n ∧ e ≠ .shut n) : s'.Accounted := by
  have ho : ∀ n, events.count (.opened n) = 0 := by
    intro n
    rw [List.count_eq_zero]
    intro hmem
    exact (he _ hmem n).1 rfl
  have hc : ∀ n, events.count (.shut n) = 0 := by
    intro n
    rw [List.count_eq_zero]
    intro hmem
    exact (he _ hmem n).2 rfl
  refine ⟨?_, ?_, ?_, ?_⟩
  · rw [hl]
    exact hs.nodup
  · intro topic n
    rw [hl, hh]
    exact hs.current topic n
  · intro n
    rw [hlog, List.count_append, ho, hh]
    exact hs.opened n
  · intro n
    rw [hlog, List.count_append, hc, hh]
    exact hs.shut n

/-- The background pipeline that is taken out keeps its topic and loses its input. -/
theorem handles_discarded {topic : String} {s : Session} {n : Nat}
    (h : s.longTerm.lookup topic = some n) :
    (s.discarded topic).handles = s.handles.modify n fun handle => (handle.1, false) := by
  rw [discarded_of_some h]
  exact handles_modify n _ _ (fun _ => rfl) s

theorem Accounted.discarded {s : Session} (hs : s.Accounted) (topic : String) :
    (s.discarded topic).Accounted := by
  cases hl : s.longTerm.lookup topic with
  | none =>
    rw [discarded_of_none hl]
    exact hs
  | some n =>
    have hn : s.handles[n]? = some (topic, true) := hs.lookup_iff.mp hl
    have hh := handles_discarded hl
    have hlong : (s.discarded topic).longTerm = s.longTerm.filter (·.1 != topic) := by
      rw [discarded_of_some hl]
    have hlog : (s.discarded topic).log = s.log ++ [.shut n] := by
      rw [discarded_of_some hl]
    refine ⟨?_, ?_, ?_, ?_⟩
    · rw [hlong]
      exact hs.nodup.sublist (List.filter_sublist.map Prod.fst)
    · intro t m
      rw [hlong, hh, List.mem_filter, hs.current, bne_iff_ne]
      by_cases hm : n = m
      · -- the pipeline that is taken out
        subst hm
        rw [List.getElem?_modify_eq, hn]
        constructor
        · rintro ⟨h, hne⟩
          cases h
          exact absurd rfl hne
        · intro h
          cases h
      · rw [List.getElem?_modify_ne _ _ hm]
        constructor
        · exact And.left
        · intro h
          refine ⟨h, ?_⟩
          rintro rfl
          rw [← hs.lookup_iff, hl] at h
          exact hm (Option.some.inj h)
    · intro m
      rw [hlog, hh, List.length_modify, List.count_append, List.count_singleton]
      exact hs.opened m
    · intro m
      rw [hlog, hh, List.count_append, hs.shut, List.count_singleton]
      by_cases hm : n = m
      · subst hm
        rw [List.getElem?_modify_eq, hn, beq_self_eq_true]
        rfl
      · rw [List.getElem?_modify_ne _ _ hm, beq_false_of_ne (fun h => hm (Event.shut.inj h))]
        rfl

theorem Accounted.opened_background {s : Session} (hs : s.Accounted) {topic : String}
    (b : Pipeline.Built) (hl : s.longTerm.lookup topic = none) : (s.opened topic b).Accounted := by
  have hlen : s.backgrounds.length = s.handles.length := (List.length_map _).symm
  have hh : (s.opened topic b).handles = s.handles ++ [(topic, true)] := List.map_append
  have hlog : (s.opened topic b).log = s.log ++ [.opened s.handles.length] := by
    rw [← hlen]
    rfl
  have hlong : (s.opened topic b).longTerm = s.longTerm ++ [(topic, s.handles.length)] := by
    rw [← hlen]
    rfl
  refine ⟨?_, ?_, ?_, ?_⟩
  · rw [hlong, List.map_append]
    refine List.nodup_append.mpr ⟨hs.nodup, List.nodup_singleton _, ?_⟩
    rintro t ht t' ht' rfl
    rw [List.map_singleton, List.mem_singleton] at ht'
    subst ht'
    obtain ⟨⟨t, n⟩, hmem, rfl⟩ := List.mem_map.mp ht
    rw [lookup_of_mem hs.nodup hmem] at hl
    cases hl
  · intro t n
    rw [hlong, hh, List.mem_append, hs.current, List.mem_singleton, Prod.mk.injEq]
    by_cases hn : n = s.handles.length
    · subst hn
      rw [List.getElem?_concat_length, List.getElem?_eq_none (Nat.le_refl _)]
      simp [eq_comm]
    · rw [getElem?_concat_of_ne hn]
      simp [hn]
  · intro n
    rw [hlog, hh, List.count_append, hs.opened, List.count_singleton, List.length_append,
      List.length_singleton]
    by_cases hn : n = s.handles.length
    · subst hn
      simp
    · have hlt : n < s.handles.length + 1 ↔ n < s.handles.length := by omega
      rw [beq_false_of_ne fun h => hn (Event.opened.inj h).symm]
      simp [hlt]
  · intro n
    rw [hlog, hh, List.count_append, hs.shut, List.count_singleton]
    by_cases hn : n = s.handles.length
    · subst hn
      rw [List.getElem?_concat_length, List.getElem?_eq_none (Nat.le_refl _)]
      simp [closings]
    · rw [getElem?_concat_of_ne hn]
      simp

/-- **Each change keeps the accounts.** -/
theorem Change.accounted {opens : Bool} {s s' : Session} (h : Change opens s s') (hs : s.Accounted) :
    s'.Accounted := by
  cases h with
  | quiet h =>
    obtain ⟨texts, ht⟩ := h.log
    refine hs.of_log h.longTerm h.handles ht ?_
    intro e he n
    obtain ⟨text, _, rfl⟩ := List.mem_map.mp he
    exact ⟨nofun, nofun⟩
  | asked h =>
    refine hs.of_log rfl rfl rfl ?_
    intro e he n
    rw [List.mem_singleton.mp he]
    exact ⟨nofun, nofun⟩
  | discarded topic => exact hs.discarded topic
  | recorded hq hh => exact ⟨hs.nodup, hs.current, hs.opened, hs.shut⟩
  | reinstalled h => exact ⟨hs.nodup, hs.current, hs.opened, hs.shut⟩
  | forgotten h => exact ⟨hs.nodup, hs.current, hs.opened, hs.shut⟩
  | opened b h => exact hs.opened_background b h

/-! ## Runs -/

theorem Beginning.accounted (b : Beginning) : b.session.Accounted :=
  ⟨List.nodup_nil, fun _ _ => ⟨nofun, nofun⟩, fun _ => rfl, fun _ => rfl⟩

theorem Accounted.apply {s : Session} (hs : s.Accounted) (m : Move) : (m.apply s).Accounted :=
  (apply_changes m hs.nodup).keep (fun _ _ h => h.accounted) hs

theorem Accounted.run {s : Session} (hs : s.Accounted) (ms : List Move) : (run ms s).Accounted := by
  induction ms generalizing s with
  | nil => exact hs
  | cons m ms ih => exact ih (hs.apply m)

/-- A run is one long row of changes. -/
theorem run_changes {s : Session} (hs : s.Accounted) (ms : List Move) : Changes true s (run ms s) := by
  induction ms generalizing s with
  | nil => exact .refl
  | cons m ms ih => exact (apply_changes m hs.nodup).trans (ih (hs.apply m))

/-! ## The end of a session -/

theorem forM_shut_longTerm (entries : List (String × Nat)) (s : Session) :
    ∃ s', (entries.forM fun h => shutBackground h.2).run s = (.ok (), s') ∧ s'.longTerm = s.longTerm := by
  induction entries generalizing s with
  | nil => exact ⟨s, rfl, rfl⟩
  | cons e entries ih =>
    rw [run_forM_cons, shutBackground_run]
    exact ih _

theorem close_longTerm (s : Session) : (close.run s).2.longTerm = [] := by
  obtain ⟨s', hrun, hs'⟩ := forM_shut_longTerm s.longTerm { s with longTerm := [] }
  simp only [close, run_bind, run_get, run_modify, hrun]
  exact s'.settle_quiet.longTerm.trans hs'

theorem Accounted.entry {s : Session} (hs : s.Accounted) {topic : String} {n : Nat} :
    (topic, n) ∈ s.longTerm ↔ ∃ w, s.backgrounds[n]? = some w ∧ w.topic = topic ∧ w.isOpen = true := by
  rw [hs.current]
  show (s.backgrounds.map _)[n]? = _ ↔ _
  rw [List.getElem?_map, Option.map_eq_some_iff]
  simp only [Prod.mk.injEq]

theorem Accounted.isOpen_iff {s : Session} (hs : s.Accounted) {n : Nat} {w : Background}
    (hw : s.backgrounds[n]? = some w) : w.isOpen = true ↔ s.longTerm.lookup w.topic = some n := by
  constructor
  · intro ho
    exact lookup_of_mem hs.nodup (hs.entry.mpr ⟨w, hw, rfl, ho⟩)
  · intro hl
    obtain ⟨w', hw', _, ho⟩ := hs.entry.mp (mem_of_lookup hl)
    rw [hw] at hw'
    cases hw'
    exact ho

theorem Accounted.count_shut {s : Session} (hs : s.Accounted) {n : Nat} {w : Background}
    (hw : s.backgrounds[n]? = some w) :
    s.log.count (.shut n) = if w.isOpen = true then 0 else 1 := by
  have hn : s.handles[n]? = some (w.topic, w.isOpen) := by
    show (s.backgrounds.map _)[n]? = _
    rw [List.getElem?_map, hw]
    rfl
  rw [hs.shut, hn]
  cases w.isOpen <;> rfl

/-- After the end of the session no input is open. -/
theorem close_shuts {s : Session} (hs : s.Accounted) :
    (Move.close.apply s).longTerm = [] ∧ ∀ w ∈ (Move.close.apply s).backgrounds, w.isOpen = false := by
  have hnone : (Move.close.apply s).longTerm = [] := close_longTerm s
  refine ⟨hnone, ?_⟩
  intro w hw
  obtain ⟨n, hn⟩ := List.mem_iff_getElem?.mp hw
  rw [← Bool.not_eq_true, (hs.apply .close).isOpen_iff hn, hnone]
  exact nofun

/-- A background pipeline is the one in use for its topic; its input is open and has never been closed. -/
def InUse (s : Session) (n : Nat) (w : Background) : Prop :=
  s.longTerm.lookup w.topic = some n ∧ w.isOpen = true ∧ s.log.count (.shut n) = 0

/-- A background pipeline is in use for no topic; its input has been closed exactly once. -/
def GivenUp (s : Session) (n : Nat) (w : Background) : Prop :=
  (∀ topic, (topic, n) ∉ s.longTerm) ∧ w.isOpen = false ∧ s.log.count (.shut n) = 1

theorem Accounted.inUse {s : Session} (hs : s.Accounted) {n : Nat} {w : Background}
    (hw : s.backgrounds[n]? = some w) (ho : w.isOpen = true) : s.InUse n w := by
  refine ⟨(hs.isOpen_iff hw).mp ho, ho, ?_⟩
  rw [hs.count_shut hw, if_pos ho]

theorem Accounted.givenUp {s : Session} (hs : s.Accounted) {n : Nat} {w : Background}
    (hw : s.backgrounds[n]? = some w) (ho : w.isOpen = false) : s.GivenUp n w := by
  refine ⟨?_, ho, ?_⟩
  · intro topic hmem
    obtain ⟨w', hw', _, ho'⟩ := hs.entry.mp hmem
    rw [hw] at hw'
    cases hw'
    rw [ho] at ho'
    cases ho'
  · rw [hs.count_shut hw, ho]
    rfl

/-- **No writer is lost or closed twice.**  Whatever a session goes through, each background pipeline ever
started was opened once, and is in use for its topic or has been closed exactly once; `longTerm` holds
nothing else.  So a topic has at most one open input, and the end of the session leaves none. -/
theorem writers_accounted (b : Beginning) (ms : List Move) :
    let s := run ms b.session
    (∀ (n : Nat) (w : Background), s.backgrounds[n]? = some w →
      s.log.count (.opened n) = 1 ∧ (s.InUse n w ∨ s.GivenUp n w)) ∧
    (∀ (topic : String) (n : Nat), (topic, n) ∈ s.longTerm →
      ∃ w, s.backgrounds[n]? = some w ∧ w.topic = topic ∧ s.InUse n w) ∧
    (∀ n, s.backgrounds.length ≤ n → s.log.count (.opened n) = 0 ∧ s.log.count (.shut n) = 0) ∧
    (∀ (n n' : Nat) (w w' : Background), s.backgrounds[n]? = some w → s.backgrounds[n']? = some w' →
      w.topic = w'.topic → w.isOpen = true → w'.isOpen = true → n = n') ∧
    (Move.close.apply s).longTerm = [] ∧ ∀ w ∈ (Move.close.apply s).backgrounds, w.isOpen = false := by
  intro s
  have hs : s.Accounted := b.accounted.run ms
  have hlen : s.handles.length = s.backgrounds.length := List.length_map _
  refine ⟨?_, ?_, ?_, ?_, close_shuts hs⟩
  · intro n w hw
    have hlt : n < s.handles.length := by
      rw [hlen]
      exact (List.getElem?_eq_some_iff.mp hw).1
    refine ⟨by rw [hs.opened, if_pos hlt], ?_⟩
    cases ho : w.isOpen with
    | true => exact .inl (hs.inUse hw ho)
    | false => exact .inr (hs.givenUp hw ho)
  · intro topic n hmem
    obtain ⟨w, hw, ht, ho⟩ := hs.entry.mp hmem
    exact ⟨w, hw, ht, hs.inUse hw ho⟩
  · intro n hn
    rw [← hlen] at hn
    rw [hs.opened, hs.shut, if_neg (Nat.not_lt.mpr hn), List.getElem?_eq_none hn]
    exact ⟨rfl, rfl⟩
  · intro n n' w w' hw hw' ht ho ho'
    have h := (hs.isOpen_iff hw).mp ho
    rw [ht, (hs.isOpen_iff hw').mp ho'] at h
    exact (Option.some.inj h).symm

end TopicShell.Session
