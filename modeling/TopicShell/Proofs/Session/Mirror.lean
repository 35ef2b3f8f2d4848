import TopicShell.Proofs.Session.Writers

/-!
# The broker and the records agree

For each topic the broker has the handler and the level of service that the session has on record, and for
no other topic has it any (`Mirrored`).  A call that is not done changes neither side, and one that is done is
recorded before the next call; so each change keeps the agreement (`Change.mirrored`), wherever a
line or a reconnection breaks off.  The levels of service that go to the broker are those that a line may
ask for, as long as the two defaults are (`Levelled`).
-/

namespace TopicShell

/-- What the broker has for a topic: the level of service and the handler. -/
def Registry.installed? (r : Registry) (topic : String) : Option (Int × Handler) :=
  (r.installed.find? (·.topic == topic)).map fun i => (i.qos, i.handler)

namespace Session

open Line

/-- What the session has on record for a topic. -/
def record? (s : Session) (topic : String) : Option Subscription :=
  s.subscriptions.find? (·.topic == topic)

theorem mem_of_record? {s : Session} {topic : String} {r : Subscription}
    (h : s.record? topic = some r) : r ∈ s.subscriptions ∧ r.topic = topic := by
  refine ⟨List.mem_of_find?_eq_some h, ?_⟩
  have ht : (r.topic == topic) = true := List.find?_some (p := fun r : Subscription => r.topic == topic) h
  exact beq_iff_eq.mp ht

/-! ## Tables with topics as keys -/

section Keys

variable {α : Type} {key : α → String}

theorem find?_filter_ne (topic : String) (xs : List α) :
    (xs.filter (key · != topic)).find? (key · == topic) = none := by
  rw [List.find?_eq_none]
  intro x hx
  rw [beq_iff_eq]
  exact bne_iff_ne.mp (List.mem_filter.mp hx).2

theorem find?_filter_of_ne {topic other : String} (h : other ≠ topic) (xs : List α) :
    (xs.filter (key · != topic)).find? (key · == other) = xs.find? (key · == other) := by
  rw [List.find?_filter]
  congr 1
  funext x
  by_cases hx : key x = other
  · simp [hx, h]
  · simp [hx]

theorem find?_of_mem {xs : List α} (hn : (xs.map key).Nodup) {x : α} (hx : x ∈ xs) :
    xs.find? (key · == key x) = some x := by
  induction xs with
  | nil => cases hx
  | cons y ys ih =>
    obtain ⟨hnot, hn'⟩ := List.nodup_cons.mp hn
    rcases List.mem_cons.mp hx with rfl | hmem
    · rw [List.find?_cons_of_pos (by simp)]
    · have hne : key y ≠ key x := fun he => hnot (List.mem_map.mpr ⟨x, hmem, he.symm⟩)
      rw [List.find?_cons_of_neg (by simpa using hne)]
      exact ih hn' hmem

theorem isSome_find?_iff {xs : List α} {topic : String} :
    (xs.find? (key · == topic)).isSome = true ↔ topic ∈ xs.map key := by
  rw [List.find?_isSome, List.mem_map]
  simp only [beq_iff_eq]

end Keys

/-! ## What the broker has -/

theorem installed?_install_self (r : Registry) (i : Installed) :
    (r.install i).installed? i.topic = some (i.qos, i.handler) := by
  show (List.find? _ (_ ++ [i])).map _ = _
  rw [List.find?_append, find?_filter_ne i.topic, Option.none_or,
    List.find?_cons_of_pos (by simp)]
  rfl

theorem installed?_install_of_ne {r : Registry} {i : Installed} {topic : String} (h : topic ≠ i.topic) :
    (r.install i).installed? topic = r.installed? topic := by
  show (List.find? _ (_ ++ [i])).map _ = _
  rw [List.find?_append, find?_filter_of_ne h, List.find?_cons_of_neg (by simpa using h.symm),
    List.find?_nil, Option.or_none]
  rfl

theorem installed?_forget_self (r : Registry) (topic : String) :
    (r.forget topic).installed? topic = none := by
  show (List.find? _ (List.filter _ _)).map _ = _
  rw [find?_filter_ne topic]
  rfl

theorem installed?_forget_of_ne {r : Registry} {topic other : String} (h : other ≠ topic) :
    (r.forget topic).installed? other = r.installed? other := by
  show (List.find? _ (List.filter _ _)).map _ = _
  rw [find?_filter_of_ne h]
  rfl

theorem install_nodup {r : Registry} (h : (r.installed.map (·.topic)).Nodup) (i : Installed) :
    ((r.install i).installed.map (·.topic)).Nodup := by
  show ((_ ++ [i]).map _).Nodup
  rw [List.map_append]
  refine List.nodup_append.mpr ⟨?_, List.nodup_singleton _, ?_⟩
  · exact h.sublist (List.filter_sublist.map _)
  · rintro t ht t' ht' rfl
    rw [List.map_singleton, List.mem_singleton] at ht'
    obtain ⟨j, hj, hjt⟩ := List.mem_map.mp ht
    exact bne_iff_ne.mp (List.mem_filter.mp hj).2 (hjt.trans ht')

theorem forget_nodup {r : Registry} (h : (r.installed.map (·.topic)).Nodup) (topic : String) :
    ((r.forget topic).installed.map (·.topic)).Nodup :=
  h.sublist (List.filter_sublist.map _)

/-! ## What is on record -/

theorem topic_put (sub old : Subscription) :
    (if old.topic == sub.topic then sub else old).topic = old.topic := by
  by_cases h : old.topic = sub.topic
  · simp [h]
  · simp [h]

theorem record?_recorded_self (sub : Subscription) (s : Session) :
    (s.recorded sub).record? sub.topic = some sub := by
  show (putSubscription sub s.subscriptions).find? _ = _
  unfold putSubscription
  by_cases h : s.subscriptions.any (·.topic == sub.topic) = true
  · rw [if_pos h, List.find?_map]
    obtain ⟨old, hold⟩ : ∃ old, s.subscriptions.find? (·.topic == sub.topic) = some old := by
      rw [← Option.isSome_iff_exists, List.find?_isSome]
      exact List.any_eq_true.mp h
    have ht : old.topic = sub.topic := by simpa using List.find?_some hold
    simp only [Function.comp_def, topic_put, hold, Option.map_some, ht, beq_self_eq_true, if_true]
  · rw [if_neg h, List.find?_append, List.find?_eq_none.mpr ?_, Option.none_or,
      List.find?_cons_of_pos (by simp)]
    intro old hold he
    exact h (List.any_eq_true.mpr ⟨old, hold, he⟩)

theorem record?_recorded_of_ne {sub : Subscription} {topic : String} (h : topic ≠ sub.topic)
    (s : Session) : (s.recorded sub).record? topic = s.record? topic := by
  show (putSubscription sub s.subscriptions).find? _ = s.subscriptions.find? _
  unfold putSubscription
  split
  · rw [List.find?_map]
    simp only [Function.comp_def, topic_put]
    cases hold : s.subscriptions.find? (·.topic == topic) with
    | none => rfl
    | some old =>
      have ht : old.topic = topic := by simpa using List.find?_some hold
      rw [Option.map_some, if_neg (by simpa [ht] using h)]
  · rw [List.find?_append, List.find?_cons_of_neg (by simpa using h.symm), List.find?_nil,
      Option.or_none]

theorem record?_forgotten_self (topic : String) (s : Session) :
    (s.forgotten topic).record? topic = none :=
  find?_filter_ne topic s.subscriptions

theorem record?_forgotten_of_ne {topic other : String} (h : other ≠ topic) (s : Session) :
    (s.forgotten topic).record? other = s.record? other :=
  find?_filter_of_ne h s.subscriptions

theorem put_nodup {subs : List Subscription} (h : (subs.map (·.topic)).Nodup) (sub : Subscription) :
    ((putSubscription sub subs).map (·.topic)).Nodup := by
  unfold putSubscription
  split
  · rw [List.map_map]
    simp only [Function.comp_def, topic_put]
    exact h
  · rename_i hnot
    rw [List.map_append]
    refine List.nodup_append.mpr ⟨h, List.nodup_singleton _, ?_⟩
    rintro t ht t' ht' rfl
    rw [List.map_singleton, List.mem_singleton] at ht'
    obtain ⟨old, hold, hot⟩ := List.mem_map.mp ht
    exact hnot (List.any_eq_true.mpr ⟨old, hold, beq_iff_eq.mpr (hot.trans ht')⟩)

theorem mem_putSubscription {sub r : Subscription} {subs : List Subscription}
    (h : r ∈ putSubscription sub subs) : r = sub ∨ r ∈ subs := by
  unfold putSubscription at h
  split at h
  · obtain ⟨old, hold, rfl⟩ := List.mem_map.mp h
    split
    · exact .inl rfl
    · exact .inr hold
  · rcases List.mem_append.mp h with h | h
    · exact .inr h
    · exact .inl (List.mem_singleton.mp h)

/-! ## The agreement -/

/-- The broker has for each topic what the session has on record. -/
structure Mirrored (s : Session) : Prop where
  records : (s.subscriptions.map (·.topic)).Nodup
  installed : (s.broker.installed.map (·.topic)).Nodup
  entries : ∀ topic, s.broker.installed? topic = (s.record? topic).map fun r => (r.qos, r.handler)

theorem Mirrored.of_eq {s s' : Session} (hs : s.Mirrored) (hsubs : s'.subscriptions = s.subscriptions)
    (hb : s'.broker.installed = s.broker.installed) : s'.Mirrored := by
  refine ⟨?_, ?_, ?_⟩
  · rw [hsubs]
    exact hs.records
  · rw [hb]
    exact hs.installed
  · intro topic
    rw [Registry.installed?, hb, record?, hsubs]
    exact hs.entries topic

/-- **Each change keeps the agreement.** -/
theorem Change.mirrored {opens : Bool} {s s' : Session} (h : Change opens s s') (hs : s.Mirrored) :
    s'.Mirrored := by
  cases h with
  | quiet h => exact hs.of_eq h.subscriptions (by rw [h.broker])
  | asked h => exact hs.of_eq rfl rfl
  | discarded topic =>
    exact hs.of_eq (discarded_subscriptions topic s) (by rw [discarded_broker])
  | opened b h => exact hs.of_eq rfl rfl
  | @recorded _ _ sub hq hh =>
    refine ⟨put_nodup hs.records sub, install_nodup hs.installed _, ?_⟩
    intro topic
    by_cases ht : topic = sub.topic
    · subst ht
      rw [record?_recorded_self]
      exact installed?_install_self s.broker ⟨sub.topic, sub.qos, sub.handler⟩
    · rw [record?_recorded_of_ne ht]
      exact (installed?_install_of_ne ht).trans (hs.entries topic)
  | @reinstalled _ _ sub hmem =>
    refine ⟨hs.records, install_nodup hs.installed _, ?_⟩
    intro topic
    by_cases ht : topic = sub.topic
    · -- the record that is replayed is the only one of its topic
      subst ht
      have hr : s.record? sub.topic = some sub := find?_of_mem hs.records hmem
      show _ = (s.record? sub.topic).map _
      rw [hr]
      exact installed?_install_self s.broker ⟨sub.topic, sub.qos, sub.handler⟩
    · exact (installed?_install_of_ne ht).trans (hs.entries topic)
  | @forgotten _ _ topic hl =>
    refine ⟨hs.records.sublist (List.filter_sublist.map _), forget_nodup hs.installed topic, ?_⟩
    intro other
    by_cases ht : other = topic
    · subst ht
      rw [record?_forgotten_self]
      exact installed?_forget_self s.broker other
    · rw [record?_forgotten_of_ne ht]
      exact (installed?_forget_of_ne ht).trans (hs.entries other)

theorem Beginning.mirrored (b : Beginning) : b.session.Mirrored :=
  ⟨List.nodup_nil, List.nodup_nil, fun _ => rfl⟩

theorem Mirrored.handler? {s : Session} (hs : s.Mirrored) (topic : String) :
    s.broker.handler? topic = (s.record? topic).map (·.handler) := by
  have h : s.broker.handler? topic = (s.broker.installed? topic).map Prod.snd := by
    simp only [Registry.handler?, Registry.installed?, Option.map_map]
    rfl
  rw [h, hs.entries, Option.map_map]
  rfl

theorem Mirrored.isSome_handler? {s : Session} (hs : s.Mirrored) {topic : String} :
    (s.broker.handler? topic).isSome = true ↔ topic ∈ s.subscriptions.map (·.topic) := by
  rw [hs.handler?, Option.isSome_map]
  exact isSome_find?_iff

/-! ## Views -/

theorem mem_topics {s : Session} {topic : String} :
    topic ∈ s.topics ↔ topic ∈ s.subscriptions.map (·.topic) :=
  List.mem_mergeSort

/-- Topics are reported in rising order, none twice. -/
theorem Mirrored.topics_rising {s : Session} (hs : s.Mirrored) : s.topics.Pairwise (· < ·) := by
  have hle : s.topics.Pairwise fun a b => (!decide (b < a)) = true := by
    refine List.pairwise_mergeSort ?_ ?_ _
    · intro a b c hab hbc
      simp only [Bool.not_eq_true', decide_eq_false_iff_not, String.not_lt] at hab hbc ⊢
      exact String.le_trans hab hbc
    · intro a b
      simp only [Bool.or_eq_true, Bool.not_eq_true', decide_eq_false_iff_not, String.not_lt]
      exact String.le_total a b
  have hnd : s.topics.Nodup := (List.mergeSort_perm _ _).nodup_iff.mpr hs.records
  refine (hle.and hnd).imp ?_
  rintro a b ⟨hab, hne⟩
  simp only [Bool.not_eq_true', decide_eq_false_iff_not, String.not_lt] at hab
  rcases Decidable.em (a < b) with h | h
  · exact h
  · exact absurd (String.le_antisymm hab (String.not_lt.mp h)) hne

theorem isActive_iff {s : Session} : s.isActive = true ↔ ∃ topic, topic ∈ s.subscriptions.map (·.topic) := by
  unfold isActive
  cases s.subscriptions with
  | nil => simp
  | cons r rs => simp

theorem sayAll_run {α : Type} (text : α → String) (xs : List α) (s : Session) :
    (xs.forM fun x => say (text x)).run s
      = (.ok (), { s with log := s.log ++ xs.map fun x => .wrote (text x) }) := by
  induction xs generalizing s with
  | nil =>
    rw [run_forM_nil, List.map_nil, List.append_nil]
  | cons x xs ih =>
    have hsay : (say (text x)).run s = (.ok (), s.noted (.wrote (text x))) := rfl
    rw [run_forM_cons, hsay]
    show (xs.forM fun x => say (text x)).run (s.noted (.wrote (text x))) = _
    rw [ih, noted, List.append_assoc, List.map_cons]
    rfl

/-- A line that asks for the topics writes them, and does nothing else. -/
theorem apply_line_list {line : String} {c : Chain} {first : Command} {rest : List Command} {s : Session}
    (hi : interpret line = .ok c) (hc : c.commands = first :: rest)
    (hl : Builtin.ofWord? first.name = some .list) :
    (Move.line line).apply s
      = { s with log := s.log ++ s.topics.map fun topic => .wrote (topic ++ "\n") } := by
  have hrun : (interpretAndHandle line).run s
      = (.ok (), { s with log := s.log ++ s.topics.map fun topic => .wrote (topic ++ "\n") }) := by
    simp only [interpretAndHandle, hi, handleChain, hc, hl, listTopics, run_bind, run_get]
    exact sayAll_run (· ++ "\n") s.topics s
  show ((handleLine line).run s).2 = _
  rw [handleLine_run, hrun]

/-! ## Levels of service -/

/-- Everything that has to do with levels of service keeps to those that a line may ask for. -/
structure Levelled (s : Session) : Prop where
  publishQos : isQos s.publishQos = true
  subscribeQos : isQos s.subscribeQos = true
  records : ∀ r ∈ s.subscriptions, isQos r.qos = true
  calls : ∀ c, Event.called c ∈ s.log → ∀ qos, c.qos? = some qos → isQos qos = true

theorem Levelled.vouches {s : Session} (hs : s.Levelled) {c : Call} (h : s.Vouches c) {qos : Int}
    (hq : c.qos? = some qos) : isQos qos = true := by
  rcases h qos hq with h | h | h | ⟨r, hr, h⟩
  · rw [h]
    exact hs.publishQos
  · rw [h]
    exact hs.subscribeQos
  · exact h
  · rw [← h]
    exact hs.records r hr

theorem mem_discarded_log {s : Session} {topic : String} {c : Call}
    (h : Event.called c ∈ (s.discarded topic).log) : Event.called c ∈ s.log := by
  unfold discarded at h
  split at h
  · exact h
  · rcases List.mem_append.mp h with h | h
    · exact h
    · cases List.mem_singleton.mp h

theorem Change.levelled {opens : Bool} {s s' : Session} (h : Change opens s s') (hs : s.Levelled) :
    s'.Levelled := by
  cases h with
  | quiet h =>
    obtain ⟨texts, ht⟩ := h.log
    refine ⟨h.publishQos ▸ hs.publishQos, h.subscribeQos ▸ hs.subscribeQos,
      h.subscriptions ▸ hs.records, ?_⟩
    intro c hc
    rw [ht] at hc
    rcases List.mem_append.mp hc with hc | hc
    · exact hs.calls c hc
    · obtain ⟨text, _, he⟩ := List.mem_map.mp hc
      cases he
  | asked h =>
    refine ⟨hs.publishQos, hs.subscribeQos, hs.records, ?_⟩
    intro c' hc qos hq
    rcases List.mem_append.mp hc with hc | hc
    · exact hs.calls c' hc qos hq
    · cases List.mem_singleton.mp hc
      exact hs.vouches h hq
  | discarded topic =>
    refine ⟨?_, ?_, ?_, ?_⟩
    · rw [discarded_publishQos]
      exact hs.publishQos
    · rw [discarded_subscribeQos]
      exact hs.subscribeQos
    · rw [discarded_subscriptions]
      exact hs.records
    · intro c hc
      exact hs.calls c (mem_discarded_log hc)
  | @recorded _ _ sub hq hh =>
    refine ⟨hs.publishQos, hs.subscribeQos, ?_, hs.calls⟩
    intro r hr
    rcases mem_putSubscription hr with rfl | hr
    · rcases hq with hq | hq
      · rw [hq]
        exact hs.subscribeQos
      · exact hq
    · exact hs.records r hr
  | reinstalled h => exact ⟨hs.publishQos, hs.subscribeQos, hs.records, hs.calls⟩
  | forgotten h =>
    refine ⟨hs.publishQos, hs.subscribeQos, ?_, hs.calls⟩
    intro r hr
    exact hs.records r (mem_dropSubscription.mp hr).1
  | opened b h =>
    refine ⟨hs.publishQos, hs.subscribeQos, hs.records, ?_⟩
    intro c hc
    rcases List.mem_append.mp hc with hc | hc
    · exact hs.calls c hc
    · cases List.mem_singleton.mp hc

/-- **The broker has what is on record, and nothing else.**  Whatever a session goes through and however its
calls end, each topic has the same level of service and the same handler on both sides; so the topics that
are reported, by a line or otherwise, are those with a handler in place.  With defaults that a line could
ask for, no other level of service ever goes to the broker. -/
theorem broker_mirrors_records (b : Beginning) (ms : List Move) :
    let s := run ms b.session
    (s.subscriptions.map (·.topic)).Nodup ∧ (s.broker.installed.map (·.topic)).Nodup ∧
    (∀ topic, s.broker.installed? topic = (s.record? topic).map fun r => (r.qos, r.handler)) ∧
    (s.topics.Pairwise (· < ·) ∧
      ∀ topic, topic ∈ s.topics ↔ (s.broker.handler? topic).isSome = true) ∧
    (s.isActive = true ↔ ∃ topic, (s.broker.handler? topic).isSome = true) ∧
    (∀ (line : String) (c : Chain) (first : Command) (rest : List Command), interpret line = .ok c →
      c.commands = first :: rest → Builtin.ofWord? first.name = some .list →
      (Move.line line).apply s
        = { s with log := s.log ++ s.topics.map fun topic => .wrote (topic ++ "\n") }) ∧
    (isQos b.publishQos = true → isQos b.subscribeQos = true →
      ∀ c, Event.called c ∈ s.log → ∀ qos, c.qos? = some qos → qos = 0 ∨ qos = 1 ∨ qos = 2) := by
  intro s
  have hrun : Changes true b.session s := run_changes b.accounted ms
  have hs : s.Mirrored := hrun.keep (fun _ _ h => h.mirrored) b.mirrored
  refine ⟨hs.records, hs.installed, hs.entries, ⟨hs.topics_rising, ?_⟩, ?_, ?_, ?_⟩
  · intro topic
    rw [mem_topics, hs.isSome_handler?]
  · rw [isActive_iff]
    simp only [hs.isSome_handler?]
  · intro line c first rest hi hc hl
    exact apply_line_list hi hc hl
  · intro hp hq c hc qos hcq
    have hb : b.session.Levelled := ⟨hp, hq, nofun, nofun⟩
    have hl : s.Levelled := hrun.keep (fun _ _ h => h.levelled) hb
    have h := hl.calls c hc qos hcq
    simpa [isQos, or_assoc] using h

end Session

end TopicShell
