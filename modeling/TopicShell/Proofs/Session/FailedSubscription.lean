import TopicShell.Proofs.Session.Attachment

/-!
# Subscriptions that fail

A line can fail at one of its topics (`FailsAt`): the pipeline cannot be started, or the broker refuses.  What
the session had for the topic should go on as before (`Unharmed`): the record, the effects of all messages,
and the open input of a background pipeline.  It does, but for a line that asks for a background
pipeline where the topic has one with an open input: that one is taken out before anything can fail
(`failed_subscription_unharmed_iff`).
-/

namespace TopicShell.Session

open Files Line

/-! ## The step that fails -/

/-- The line subscribes, its topics before this one go well, which leads to `s₁` in the course of time, and there
the step for this topic fails: its pipeline cannot be started, or the broker refuses. -/
def FailsAt (line : String) (c : Chain) (topic : String) (s s₁ : Session) : Prop :=
  ∃ (r : Request) (before after : List String) (message : String),
    Subscribes line s c r ∧ r.topics = before ++ topic :: after ∧
    (before.forM (followed (subscribeTopic r.qos c))).run s = (.ok (), s₁) ∧
    ((subscribeTopic r.qos c topic).run s₁).1 = .error (.command (.failed message .sub))

theorem concluded_refused {sub : Subscription} {s s' : Session} {message : String}
    (h : s.concluded sub = (.error (.command (.failed message .sub)), s')) :
    s' = if sub.handler.mode = .longTerm then (s.asked (.subscribe sub.topic sub.qos)).discarded sub.topic
      else s.asked (.subscribe sub.topic sub.qos) := by
  unfold concluded at h
  split at h
  · cases h
    rfl
  · cases h
  · cases h

/-- What a failed step without a background pipeline leaves behind: a colour taken, and a call. -/
theorem failed_foreground {qos : Int} {c : Chain} (hc : c.isBackground = false) {topic message : String}
    {s s' : Session}
    (h : (subscribeTopic qos c topic).run s = (.error (.command (.failed message .sub)), s')) :
    s' = s.turned.asked (.subscribe topic qos) := by
  rw [subscribeTopic_run, createHandler_run_of_foreground hc] at h
  rw [concluded_refused h, if_neg (mode_foregroundHandler c _)]

/-- What a failed step with a background pipeline leaves behind: the old pipeline is taken out, and so is the
new one, if there was one. -/
theorem failed_background {qos : Int} {c : Chain} (hc : c.isBackground = true) {topic message : String}
    {s s' : Session}
    (h : (subscribeTopic qos c topic).run s = (.error (.command (.failed message .sub)), s')) :
    s' = s.discarded topic ∨ ∃ b,
      s' = (((s.discarded topic).opened topic b).asked (.subscribe topic qos)).discarded topic := by
  rw [subscribeTopic_run, createHandler_run_of_background hc] at h
  cases hb : Pipeline.ofChain c (.stream []) [] s.files 1 false with
  | error cause =>
    rw [hb] at h
    exact .inl (congrArg Prod.snd h).symm
  | ok b =>
    rw [hb] at h
    exact .inr ⟨b, concluded_refused h⟩

/-- The line ends where the step fails. -/
theorem FailsAt.outcome {line topic : String} {c : Chain} {s s₁ : Session}
    (h : FailsAt line c topic s s₁) (hs : s.Sound) :
    s₁.Sound ∧ ∃ (qos : Int) (message : String) (s₂ : Session) (text : String),
      (subscribeTopic qos c topic).run s₁ = (.error (.command (.failed message .sub)), s₂) ∧
      (Move.line line).apply s = s₂.noted (.wrote text) := by
  obtain ⟨r, before, after, message, hsub, htopics, hbefore, hfail⟩ := h
  obtain ⟨s₂, hrun⟩ : ∃ s₂, (subscribeTopic r.qos c topic).run s₁
      = (.error (.command (.failed message .sub)), s₂) := ⟨_, Prod.ext hfail rfl⟩
  have hline : (interpretAndHandle line).run s = (.error (.command (.failed message .sub)), s₂) := by
    rw [hsub.run, htopics, inTurn_run_append, hbefore]
    exact inTurn_run_of_error _ after hrun
  refine ⟨?_, r.qos, message, s₂, (Fault.command (.failed message .sub)).message ++ "\n", hrun, ?_⟩
  · have hch := subscribeTopics_changes hsub.qos c before
    rw [hbefore] at hch
    exact hch.keep (fun _ _ h => h.sound) hs
  · show ((handleLine line).run s).2 = _
    rw [handleLine_run, hline]

/-! ## Going on as before -/

/-- What the session has for a topic goes on: the record is the same, all messages on it have the effects they
would have had with the files as they are now, and a background pipeline with an open input is still in
use and is fed the next message. -/
structure Unharmed (topic : String) (s s' : Session) : Prop where
  record : s'.record? topic = s.record? topic
  messages : ∀ messages, effects topic messages s' = effects topic messages { s with files := s'.files }
  writer : ∀ (r : Subscription) (n : Nat) (w : Background), s.record? topic = some r →
    r.handler = .feed n → s.backgrounds[n]? = some w → w.isOpen = true →
    s'.longTerm.lookup topic = some n ∧ s'.backgrounds[n]? = some w ∧
    ∀ name payload, ((deliver topic name payload).run s').2.backgrounds[n]? = some (w.feed payload)

/-- The record of the topic feeds a background pipeline whose input is open. -/
def FeedsOpen (s : Session) (topic : String) : Prop :=
  ∃ (r : Subscription) (n : Nat) (w : Background), s.record? topic = some r ∧ r.handler = .feed n ∧
    s.backgrounds[n]? = some w ∧ w.isOpen = true

/-- The record feeds the pipeline in use for its topic, when the input of that one is open. -/
theorem Sound.lookup_of_open {s : Session} (hs : s.Sound) {topic : String} {r : Subscription} {n : Nat}
    {w : Background} (hr : s.record? topic = some r) (hn : r.handler = .feed n)
    (hw : s.backgrounds[n]? = some w) (ho : w.isOpen = true) : s.longTerm.lookup topic = some n := by
  obtain ⟨w', hw', ht⟩ := hs.fed hr hn
  rw [hw] at hw'
  cases hw'
  rw [← ht]
  exact (hs.accounted.isOpen_iff hw).mp ho

/-- What leaves alone the records, the pipelines in use and all that handlers look at does no harm. -/
theorem Unharmed.of_same {topic : String} {s s' : Session} (hs : s.Sound)
    (hrec : s'.subscriptions = s.subscriptions) (hb : s'.broker.installed = s.broker.installed)
    (henv : s'.environment = s.environment) (hmachine : s'.machine = s.machine) (hacc : s'.accepting = s.accepting)
    (hback : ∀ n, (s.record? topic).map (·.handler) = some (.feed n) →
      s'.backgrounds[n]? = s.backgrounds[n]?)
    (hlong : s.FeedsOpen topic → s'.longTerm = s.longTerm) : Unharmed topic s s' := by
  have hr : s'.record? topic = s.record? topic := by
    rw [record?, hrec]
    rfl
  have hh : s'.broker.handler? topic = s.broker.handler? topic := by
    rw [Registry.handler?, hb]
    rfl
  refine ⟨hr, ?_, ?_⟩
  · have halike : Alike topic { s with files := s'.files } s' := by
      refine ⟨hh, rfl, henv, hmachine, hacc, ?_⟩
      intro n hn
      refine hback n ?_
      rw [← hs.mirrored.handler?]
      exact hn
    exact effects_eq halike
  · intro r n w hrec' hn hw ho
    have hl : s'.longTerm.lookup topic = some n := by
      rw [hlong ⟨r, n, w, hrec', hn, hw, ho⟩]
      exact hs.lookup_of_open hrec' hn hw ho
    have hfeeds : (s.record? topic).map (·.handler) = some (.feed n) := by
      rw [hrec', Option.map_some, hn]
    have hw' : s'.backgrounds[n]? = some w := (hback n hfeeds).trans hw
    refine ⟨hl, hw', ?_⟩
    intro name payload
    have hrun : (deliver topic name payload).run s' = (.ok true, s'.fed n payload) := by
      rw [deliver_run, hh, hs.mirrored.handler?, hfeeds]
      rfl
    rw [hrun]
    show (s'.backgrounds.modify n _)[n]? = _
    rw [List.getElem?_modify_eq, hw']
    rfl

theorem unharmed_foreground {topic : String} {s : Session} (hs : s.Sound) (qos : Int) (text : String) :
    Unharmed topic s ((s.turned.asked (.subscribe topic qos)).noted (.wrote text)) :=
  .of_same hs rfl rfl rfl rfl rfl (fun _ _ => rfl) (fun _ => rfl)

/-- Two pipelines of the topic have come and gone: the old one, and perhaps a new one. -/
theorem unharmed_background {topic : String} {s s' : Session} (hs : s.Sound)
    (hopen : ¬ s.FeedsOpen topic) {qos : Int}
    (h : s' = s.discarded topic ∨ ∃ b,
      s' = (((s.discarded topic).opened topic b).asked (.subscribe topic qos)).discarded topic)
    (text : String) : Unharmed topic s (s'.noted (.wrote text)) := by
  -- a pipeline that the record feeds is closed already, so that none of this is about it
  have hfed : ∀ n, (s.record? topic).map (·.handler) = some (.feed n) →
      s.longTerm.lookup topic ≠ some n ∧ n < s.backgrounds.length := by
    intro n hn
    obtain ⟨r, hr, hrn⟩ := Option.map_eq_some_iff.mp hn
    obtain ⟨w, hw, ht⟩ := hs.fed hr hrn
    refine ⟨?_, (List.getElem?_eq_some_iff.mp hw).1⟩
    rw [← ht]
    intro hl
    exact hopen ⟨r, n, w, hr, hrn, hw, (hs.accounted.isOpen_iff hw).mpr hl⟩
  rcases h with rfl | ⟨b, rfl⟩
  · refine .of_same hs (discarded_subscriptions topic s) ?_ (discarded_environment topic s)
      (discarded_machine topic s) (discarded_accepting topic s) ?_ (fun h => absurd h hopen)
    · show (s.discarded topic).broker.installed = _
      rw [discarded_broker]
    · intro n hn
      exact backgrounds_discarded_of_ne (hfed n hn).1
  · refine .of_same hs ?_ ?_ ?_ ?_ ?_ ?_ (fun h => absurd h hopen)
    · exact (discarded_subscriptions topic _).trans (discarded_subscriptions topic s)
    · show (Session.discarded topic _).broker.installed = _
      rw [discarded_broker]
      show (s.discarded topic).broker.installed = _
      rw [discarded_broker]
    · exact (discarded_environment topic _).trans (discarded_environment topic s)
    · exact (discarded_machine topic _).trans (discarded_machine topic s)
    · exact (discarded_accepting topic _).trans (discarded_accepting topic s)
    · intro n hn
      obtain ⟨hne, hlt⟩ := hfed n hn
      have hlen : (s.discarded topic).backgrounds.length = s.backgrounds.length :=
        length_discarded_backgrounds topic s
      refine (backgrounds_discarded_of_ne ?_).trans ?_
      · show ((s.discarded topic).opened topic b).longTerm.lookup topic ≠ some n
        rw [lookup_opened_self (s.lookup_discarded_self topic), hlen]
        intro he
        exact absurd (Option.some.inj he) (Nat.ne_of_gt hlt)
      · show ((s.discarded topic).backgrounds ++ _)[n]? = _
        rw [List.getElem?_append_left (by rw [hlen]; exact hlt)]
        exact backgrounds_discarded_of_ne hne

/-- **Which subscriptions that fail do no harm.**  In every session that can come about, and whatever line
fails at a topic: what the session has for the topic goes on as before, exactly unless the line asks for a
background pipeline and the record of the topic feeds one whose input is open. -/
theorem failed_subscription_unharmed_iff (b : Beginning) (ms : List Move) {line topic : String} {c : Chain}
    {s₁ : Session} (h : FailsAt line c topic (run ms b.session) s₁) :
    Unharmed topic s₁ ((Move.line line).apply (run ms b.session)) ↔
      ¬ (c.isBackground = true ∧ s₁.FeedsOpen topic) := by
  obtain ⟨hs₁, qos, message, s₂, text, hstep, hline⟩ := h.outcome (b.sound.run ms)
  rw [hline]
  cases hc : c.isBackground with
  | false =>
    rw [failed_foreground hc hstep]
    constructor
    · intro _ hboth
      cases hboth.1
    · intro _
      exact unharmed_foreground hs₁ qos text
  | true =>
    have hs₂ := failed_background hc hstep
    constructor
    · rintro hu ⟨_, r, n, w, hr, hn, hw, ho⟩
      have hl : s₂.longTerm.lookup topic = some n := (hu.writer r n w hr hn hw ho).1
      have hnone : s₂.longTerm.lookup topic = none := by
        rcases hs₂ with rfl | ⟨b, rfl⟩
        · exact s₁.lookup_discarded_self topic
        · exact lookup_discarded_self topic _
      rw [hnone] at hl
      cases hl
    · intro hopen
      exact unharmed_background hs₁ (fun h => hopen ⟨rfl, h⟩) hs₂ text

/-! ## A target that cannot be opened -/

/-- A line that asks for a background pipeline, with a target in a directory that is not there. -/
def untargeted : String := "sub t > missing/x &"

def untargetedChain : Chain :=
  ⟨[⟨"sub", ["t"]⟩, ⟨"missing/x", []⟩], [.write], ["sub", "t", ">", "missing/x", "&"], false⟩

theorem untargeted_failsAt {s : Session} (hq : s.subscribeQos = 0)
    (hs : ((subscribeTopic 0 untargetedChain "t").run s).1
      = .error (.command (.failed "missing/x: No such file or directory" .sub))) :
    FailsAt untargeted untargetedChain "t" s s := by
  refine ⟨⟨["t"], 0⟩, [], [], _, ⟨by decide +kernel, ?_⟩, rfl, rfl, hs⟩
  refine ⟨⟨"sub", ["t"]⟩, [⟨"missing/x", []⟩], rfl, by decide +kernel, ?_⟩
  rw [hq]
  decide +kernel

/-- A topic whose messages the shell writes itself goes on as before. -/
theorem plain_unharmed :
    let s := run [.line "sub t"] ({} : Beginning).session
    FailsAt untargeted untargetedChain "t" s s ∧ s.record? "t" = some ⟨"t", 0, .plain none⟩ ∧
      Unharmed "t" s ((Move.line untargeted).apply s) := by
  intro s
  have hfails : FailsAt untargeted untargetedChain "t" s s :=
    untargeted_failsAt (by decide +kernel) (by decide +kernel)
  have hplain : s.record? "t" = some ⟨"t", 0, .plain none⟩ := by decide +kernel
  refine ⟨hfails, hplain, (failed_subscription_unharmed_iff {} [.line "sub t"] hfails).mpr ?_⟩
  rintro ⟨_, r, n, w, hr, hn, _⟩
  rw [hplain] at hr
  cases hr
  cases hn

/-- A topic with a background pipeline does not: the record stays, and the pipeline it feeds is lost. -/
theorem background_harmed :
    let s := run [.line "sub t > out &"] ({} : Beginning).session
    FailsAt untargeted untargetedChain "t" s s ∧
      ((Move.line untargeted).apply s).record? "t" = s.record? "t" ∧
      ¬ Unharmed "t" s ((Move.line untargeted).apply s) := by
  intro s
  have hrecord : s.record? "t" = some ⟨"t", 0, .feed 0⟩ := by decide +kernel
  have hrecord' : ((Move.line untargeted).apply s).record? "t" = some ⟨"t", 0, .feed 0⟩ := by
    decide +kernel
  have hopen : (s.backgrounds[0]?).map (·.isOpen) = some true := by decide +kernel
  have hlost : ((Move.line untargeted).apply s).longTerm.lookup "t" = none := by decide +kernel
  refine ⟨untargeted_failsAt (by decide +kernel) (by decide +kernel), hrecord'.trans hrecord.symm, ?_⟩
  intro h
  obtain ⟨w, hw, ho⟩ := Option.map_eq_some_iff.mp hopen
  have hl := (h.writer _ 0 w hrecord rfl hw ho).1
  rw [hlost] at hl
  cases hl

end TopicShell.Session
