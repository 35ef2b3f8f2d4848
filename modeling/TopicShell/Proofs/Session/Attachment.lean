import TopicShell.Proofs.Session.Mirror

/-!
# Background pipelines and their records

A background pipeline in use should be fed by the record of its topic (`Attached`).  All changes keep to that
but one: a pipeline that has just been opened has no record yet.  It gets one when the broker takes the
subscription, and is taken out again when the broker refuses; a call that fails in a way nobody
expects does neither (`Strays`).  So the runs that keep every pipeline attached are exactly those without such
a line (`attached_iff_no_stray`).
-/

namespace TopicShell.Session

open Files Line

/-! ## Records that feed -/

/-- The accounts are right, the broker has what is on record, and records feed pipelines of their own
topics. -/
structure Sound (s : Session) : Prop where
  accounted : s.Accounted
  mirrored : s.Mirrored
  feeds : ∀ r ∈ s.subscriptions, ∀ n, r.handler = .feed n →
    s.handles[n]?.map Prod.fst = some r.topic

theorem handles_discarded_topic (topic : String) (s : Session) (n : Nat) :
    (s.discarded topic).handles[n]?.map Prod.fst = s.handles[n]?.map Prod.fst := by
  cases hl : s.longTerm.lookup topic with
  | none => rw [discarded_of_none hl]
  | some number =>
    rw [handles_discarded hl]
    by_cases hn : number = n
    · subst hn
      rw [List.getElem?_modify_eq, Option.map_eq_map, Option.map_map]
      rfl
    · rw [List.getElem?_modify_ne _ _ hn]

theorem Change.sound {opens : Bool} {s s' : Session} (h : Change opens s s') (hs : s.Sound) :
    s'.Sound := by
  refine ⟨h.accounted hs.accounted, h.mirrored hs.mirrored, ?_⟩
  cases h with
  | quiet h =>
    rw [h.subscriptions, h.handles]
    exact hs.feeds
  | asked h => exact hs.feeds
  | discarded topic =>
    intro r hr n hn
    rw [discarded_subscriptions] at hr
    rw [handles_discarded_topic]
    exact hs.feeds r hr n hn
  | @recorded _ _ sub hq hh =>
    intro r hr n hn
    rcases mem_putSubscription hr with rfl | hr
    · have h := hs.accounted.lookup_iff.mp ((hh n).mpr hn)
      show s.handles[n]?.map Prod.fst = _
      rw [h]
      rfl
    · exact hs.feeds r hr n hn
  | reinstalled h => exact hs.feeds
  | forgotten h =>
    intro r hr
    exact hs.feeds r (mem_dropSubscription.mp hr).1
  | @opened _ topic b h =>
    intro r hr n hn
    have hf : s.handles[n]?.map Prod.fst = some r.topic := hs.feeds r hr n hn
    have hlt : n < s.handles.length := by
      obtain ⟨x, hx, _⟩ := Option.map_eq_some_iff.mp hf
      exact (List.getElem?_eq_some_iff.mp hx).1
    have hh : (s.opened topic b).handles = s.handles ++ [(topic, true)] := List.map_append
    rw [hh, List.getElem?_append_left hlt]
    exact hf

theorem Beginning.sound (b : Beginning) : b.session.Sound :=
  ⟨b.accounted, b.mirrored, nofun⟩

theorem Sound.apply {s : Session} (hs : s.Sound) (m : Move) : (m.apply s).Sound :=
  (apply_changes m hs.accounted.nodup).keep (fun _ _ h => h.sound) hs

theorem Sound.run {s : Session} (hs : s.Sound) (ms : List Move) : (run ms s).Sound :=
  (run_changes hs.accounted ms).keep (fun _ _ h => h.sound) hs

/-- The pipeline that a record feeds is one of those that have been started, for the same topic. -/
theorem Sound.fed {s : Session} (hs : s.Sound) {topic : String} {r : Subscription} {n : Nat}
    (hr : s.record? topic = some r) (hn : r.handler = .feed n) :
    ∃ w, s.backgrounds[n]? = some w ∧ w.topic = topic := by
  obtain ⟨hmem, ht⟩ := mem_of_record? hr
  have hf := hs.feeds r hmem n hn
  rw [handles, List.getElem?_map, Option.map_map, Option.map_eq_some_iff] at hf
  obtain ⟨w, hw, hwt⟩ := hf
  exact ⟨w, hw, hwt.trans ht⟩

/-! ## Pipelines that are attached -/

/-- Each pipeline in use is open and fed by the record of its topic, and none is open that no record
feeds. -/
structure Attached (s : Session) : Prop where
  entries : ∀ topic n, (topic, n) ∈ s.longTerm → ∃ w r, s.backgrounds[n]? = some w ∧ w.isOpen = true ∧
    s.record? topic = some r ∧ r.handler.mode = .longTerm ∧ r.handler = .feed n
  fed : ∀ (n : Nat) (w : Background), s.backgrounds[n]? = some w → w.isOpen = true →
    ∃ r ∈ s.subscriptions, r.handler = .feed n

/-- The record of a topic feeds the background pipeline of the topic, if there is one. -/
def Follows (s : Session) (topic : String) : Prop :=
  ∀ n, s.longTerm.lookup topic = some n → ∃ r, s.record? topic = some r ∧ r.handler = .feed n

theorem Sound.attached_iff {s : Session} (hs : s.Sound) :
    s.Attached ↔ ∀ topic, s.Follows topic := by
  constructor
  · intro ha topic n hl
    obtain ⟨w, r, _, _, hr, _, hn⟩ := ha.entries topic n (mem_of_lookup hl)
    exact ⟨r, hr, hn⟩
  · intro hf
    refine ⟨?_, ?_⟩
    · intro topic n hmem
      obtain ⟨w, hw, _, ho⟩ := hs.accounted.entry.mp hmem
      obtain ⟨r, hr, hn⟩ := hf topic n (lookup_of_mem hs.accounted.nodup hmem)
      exact ⟨w, r, hw, ho, hr, by rw [hn]; rfl, hn⟩
    · intro n w hw ho
      obtain ⟨r, hr, hn⟩ := hf w.topic n ((hs.accounted.isOpen_iff hw).mp ho)
      exact ⟨r, (mem_of_record? hr).1, hn⟩

theorem Follows.of_eq {s s' : Session} {topic : String} (h : s.Follows topic)
    (hl : s'.longTerm.lookup topic = s.longTerm.lookup topic)
    (hr : s'.record? topic = s.record? topic) : s'.Follows topic := by
  intro n hn
  rw [hr]
  exact h n (hl.symm.trans hn)

theorem Follows.of_none {s : Session} {topic : String} (h : s.longTerm.lookup topic = none) :
    s.Follows topic := by
  intro n hn
  rw [h] at hn
  cases hn

theorem record?_discarded (topic other : String) (s : Session) :
    (s.discarded topic).record? other = s.record? other := by
  rw [record?, discarded_subscriptions]
  rfl

theorem Follows.discarded {s : Session} {other : String} (h : s.Follows other) (topic : String) :
    (s.discarded topic).Follows other := by
  by_cases ht : other = topic
  · subst ht
    exact .of_none (s.lookup_discarded_self other)
  · exact h.of_eq (lookup_discarded_of_ne ht s) (record?_discarded topic other s)

/-- **All changes keep records and pipelines together** where none is opened. -/
theorem Change.follows {s s' : Session} (h : Change false s s') (hf : ∀ topic, s.Follows topic) :
    ∀ topic, s'.Follows topic := by
  intro topic
  cases h with
  | quiet h =>
    refine (hf topic).of_eq (by rw [h.longTerm]) ?_
    rw [record?, h.subscriptions]
    rfl
  | asked h => exact hf topic
  | discarded other => exact (hf topic).discarded other
  | @recorded _ _ sub hq hh =>
    by_cases ht : topic = sub.topic
    · subst ht
      intro n hn
      exact ⟨sub, record?_recorded_self sub _, (hh n).mp hn⟩
    · exact (hf topic).of_eq rfl (record?_recorded_of_ne ht _)
  | reinstalled h => exact hf topic
  | @forgotten _ _ other hl =>
    by_cases ht : topic = other
    · subst ht
      exact .of_none hl
    · exact (hf topic).of_eq rfl (record?_forgotten_of_ne ht s)

/-! ## Lines that subscribe in the background -/

theorem Follows.opened_of_ne {s : Session} {topic other : String} (h : s.Follows other)
    (hne : other ≠ topic) (b : Pipeline.Built) : (s.opened topic b).Follows other :=
  h.of_eq (lookup_opened_of_ne hne s b) rfl

/-- One topic: the new pipeline gets its record, or is taken out again, unless the broker fails in a way
nobody expects. -/
theorem subscribeTopic_follows {qos : Int} {c : Chain} (hc : c.isBackground = true) {topic : String}
    {s : Session} (hf : ∀ topic, s.Follows topic)
    (hr : ∀ text, ((subscribeTopic qos c topic).run s).1 ≠ .error (.unexpected text)) :
    ∀ other, ((subscribeTopic qos c topic).run s).2.Follows other := by
  rw [subscribeTopic_run, createHandler_run_of_background hc] at hr ⊢
  cases hb : Pipeline.ofChain c (.stream []) [] s.files 1 false with
  | error cause => exact fun other => (hf other).discarded topic
  | ok b =>
    rw [hb] at hr
    intro other
    have hother : other ≠ topic → ((s.discarded topic).opened topic b).Follows other :=
      fun hne => ((hf other).discarded topic).opened_of_ne hne b
    show (concluded _ _).2.Follows other
    have hr' : ∀ text, (concluded ⟨topic, qos, .feed (s.discarded topic).backgrounds.length⟩
        ((s.discarded topic).opened topic b)).1 ≠ .error (.unexpected text) := hr
    revert hr'
    unfold concluded
    split
    · -- refused
      intro _
      show (Session.discarded topic _).Follows other
      by_cases ht : other = topic
      · subst ht
        exact .of_none (lookup_discarded_self other _)
      · refine Follows.discarded ?_ topic
        exact (hother ht).of_eq rfl rfl
    · rename_i text _
      intro hr'
      exact absurd rfl (hr' text)
    · -- taken
      intro _
      by_cases ht : other = topic
      · subst ht
        intro n hn
        have hl := lookup_opened_self (s.lookup_discarded_self other) b
        exact ⟨_, record?_recorded_self ⟨other, qos, .feed (s.discarded other).backgrounds.length⟩ _,
          congrArg Handler.feed (Option.some.inj (hl.symm.trans hn))⟩
      · exact (hother ht).of_eq rfl (record?_recorded_of_ne ht _)

theorem subscribeTopics_follows {qos : Int} {c : Chain} (hc : c.isBackground = true)
    {topics : List String} {s : Session} (hf : ∀ topic, s.Follows topic)
    (hr : ∀ text, ((inTurn (subscribeTopic qos c) topics).run s).1 ≠ .error (.unexpected text)) :
    ∀ other, ((inTurn (subscribeTopic qos c) topics).run s).2.Follows other := by
  induction topics generalizing s with
  | nil => exact hf
  | cons topic rest ih =>
    have hstep : (∀ text, ((subscribeTopic qos c topic).run s).1 ≠ .error (.unexpected text)) →
        ∀ other, ((subscribeTopic qos c topic).run s).2.Follows other := subscribeTopic_follows hc hf
    cases rest with
    | nil =>
      rw [inTurn_run_singleton] at hr ⊢
      exact hstep hr
    | cons next rest =>
      rw [inTurn_run_cons_cons, followed_run] at hr ⊢
      cases h : (subscribeTopic qos c topic).run s with
      | mk r s₁ =>
        rw [h] at hr hstep
        cases r with
        | error e => exact hstep hr
        | ok u => exact ih (fun other => (hstep nofun other).of_eq rfl rfl) hr

/-- A line asks for background pipelines and ends with a failure nobody expects. -/
def Strays (s : Session) (m : Move) : Prop :=
  ∃ line c r text, m = .line line ∧ Subscribes line s c r ∧ c.isBackground = true ∧
    ((interpretAndHandle line).run s).1 = .error (.unexpected text)

theorem handleLine_follows {line : String} {s : Session} {topic : String}
    (h : ((interpretAndHandle line).run s).2.Follows topic) :
    ((handleLine line).run s).2.Follows topic := by
  rw [handleLine_run]
  cases hr : (interpretAndHandle line).run s with
  | mk r s₁ =>
    rw [hr] at h
    cases r <;> exact h

theorem apply_follows {m : Move} {s : Session} (hs : s.Sound) (hf : ∀ topic, s.Follows topic)
    (hm : ¬ s.Strays m) : ∀ topic, (m.apply s).Follows topic := by
  by_cases hline : ∃ line, m = .line line
  · obtain ⟨line, rfl⟩ := hline
    intro topic
    refine handleLine_follows ?_
    rcases subscribes_or_changes line s with ⟨c, r, h⟩ | h
    · cases hc : c.isBackground with
      | false =>
        have hch : Changes false s ((interpretAndHandle line).run s).2 := hc ▸ h.changes
        exact hch.keep (fun _ _ h => h.follows) hf topic
      | true =>
        rw [h.run]
        refine subscribeTopics_follows hc hf ?_ topic
        intro text hr
        exact hm ⟨line, c, r, text, rfl, h, hc, by rw [h.run]; exact hr⟩
    · exact h.keep (fun _ _ h => h.follows) hf topic
  · have hch : Changes false s (m.apply s) :=
      apply_changes_of_ne_line (fun line h => hline ⟨line, h⟩) hs.accounted.nodup
    exact hch.keep (fun _ _ h => h.follows) hf

/-! ## Lines that stray -/

/-- The topic at which a line strays: its pipeline has just been started, and has no record. -/
theorem unexpected_subscribeTopic {qos : Int} {c : Chain} (hc : c.isBackground = true) {topic text : String}
    {s s' : Session} (h : (subscribeTopic qos c topic).run s = (.error (.unexpected text), s')) :
    s'.longTerm.lookup topic = some s.handles.length ∧ s'.record? topic = s.record? topic := by
  rw [subscribeTopic_run, createHandler_run_of_background hc] at h
  cases hb : Pipeline.ofChain c (.stream []) [] s.files 1 false with
  | error cause =>
    rw [hb] at h
    cases cause <;> cases h
  | ok b =>
    have hlen : (s.discarded topic).backgrounds.length = s.handles.length := by
      rw [handles, List.length_map, length_discarded_backgrounds]
    rw [hb] at h
    change concluded _ _ = _ at h
    unfold concluded at h
    split at h
    · cases h
    · cases h
      rw [← hlen]
      exact ⟨lookup_opened_self (s.lookup_discarded_self topic) b, record?_discarded topic topic s⟩
    · cases h

theorem Strays.not_attached {s : Session} {m : Move} (hs : s.Sound) (h : s.Strays m) :
    ¬ (m.apply s).Attached := by
  intro ha
  obtain ⟨line, c, r, text, rfl, hsub, hc, hr⟩ := h
  obtain ⟨s', hrun⟩ : ∃ s', (interpretAndHandle line).run s = (.error (.unexpected text), s') :=
    ⟨_, Prod.ext hr rfl⟩
  have hline : (Move.line line).apply s = s'.noted (.wrote (text ++ "\n")) := by
    show ((handleLine line).run s).2 = _
    rw [handleLine_run, hrun]
    rfl
  rw [hsub.run] at hrun
  obtain ⟨before, topic, _, s₁, _, hbefore, hlast⟩ := exists_of_inTurn_error _ hrun
  -- where the line breaks off, no record can feed the pipeline that has just been given its number
  have hs₁ : s₁.Sound := by
    have hch := subscribeTopics_changes hsub.qos c before
    rw [hbefore] at hch
    exact hch.keep (fun _ _ h => h.sound) hs
  obtain ⟨hl, hrec⟩ := unexpected_subscribeTopic hc hlast
  have hmem : (topic, s₁.handles.length) ∈ ((Move.line line).apply s).longTerm := by
    rw [hline]
    exact mem_of_lookup hl
  obtain ⟨_, r', _, _, hr', _, hn⟩ := ha.entries topic _ hmem
  rw [hline] at hr'
  obtain ⟨w, hw, _⟩ := hs₁.fed (hrec.symm.trans hr') hn
  have hlt := (List.getElem?_eq_some_iff.mp hw).1
  rw [handles, List.length_map] at hlt
  exact absurd hlt (Nat.lt_irrefl _)

/-! ## Runs -/

theorem attached_apply_iff {s : Session} (hs : s.Sound) (ha : s.Attached) (m : Move) :
    (m.apply s).Attached ↔ ¬ s.Strays m := by
  constructor
  · intro h hm
    exact hm.not_attached hs h
  · intro hm
    rw [(hs.apply m).attached_iff]
    exact apply_follows hs (hs.attached_iff.mp ha) hm

theorem attached_run_iff {s : Session} (hs : s.Sound) (ha : s.Attached) (ms : List Move) :
    (∀ k ≤ ms.length, (run (ms.take k) s).Attached) ↔
      ∀ k m, ms[k]? = some m → ¬ (run (ms.take k) s).Strays m := by
  induction ms generalizing s with
  | nil =>
    constructor
    · intro _ k m hm
      cases hm
    · intro _ k _
      rw [List.take_nil]
      exact ha
  | cons m ms ih =>
    by_cases hm : s.Strays m
    · constructor
      · intro h
        exact absurd (h 1 (Nat.succ_le_succ (Nat.zero_le _))) (hm.not_attached hs)
      · intro h
        exact absurd hm (h 0 m rfl)
    · have hnext := ih (hs.apply m) ((attached_apply_iff hs ha m).mpr hm)
      constructor
      · intro h k m' hk
        cases k with
        | zero =>
          cases hk
          exact hm
        | succ k => exact hnext.mp (fun j hj => h (j + 1) (Nat.succ_le_succ hj)) k m' hk
      · intro h k hk
        cases k with
        | zero => exact ha
        | succ k => exact hnext.mpr (fun j m' hj => h (j + 1) m' hj) k (Nat.le_of_succ_le_succ hk)

/-- **Which runs leave no background pipeline astray.**  After every step each pipeline in use is fed by the
record of its topic, exactly when no line that asks for background pipelines ends with a
failure nobody expects. -/
theorem attached_iff_no_stray (b : Beginning) (ms : List Move) :
    (∀ k ≤ ms.length, (run (ms.take k) b.session).Attached) ↔
      ∀ k m, ms[k]? = some m → ¬ (run (ms.take k) b.session).Strays m :=
  attached_run_iff b.sound (b.sound.attached_iff.mpr fun _ => .of_none rfl) ms

/-- A broker that fails at every subscription, in a way nobody expects. -/
def failing : Beginning :=
  { answer := fun _ call => match call with
      | .subscribe _ _ => some (.unexpected "Invalid subscription filter.")
      | _ => none }

/-- The pipeline that was started for the failed subscription stays in use, without a record. -/
theorem stray_after_failure :
    ¬ (run [.line "sub a/#/b > out &"] failing.session).Attached := by
  have hrun : (run [.line "sub a/#/b > out &"] failing.session).longTerm = [("a/#/b", 0)] ∧
      (run [.line "sub a/#/b > out &"] failing.session).record? "a/#/b" = none := by
    decide +kernel
  intro ha
  have hmem : ("a/#/b", 0) ∈ (run [.line "sub a/#/b > out &"] failing.session).longTerm := by
    rw [hrun.1]
    exact List.mem_singleton_self _
  obtain ⟨_, r, _, _, hr, _⟩ := ha.entries "a/#/b" 0 hmem
  rw [hrun.2] at hr
  cases hr

end TopicShell.Session
