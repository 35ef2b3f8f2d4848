import TopicShell.Proofs.Session.Attachment
import Mathlib.Data.List.Induction
import Mathlib.Logic.Function.Iterate

/-!
# Lines over several topics

A `sub` or `unsub` line goes through its topics one after the other (`TopicJob`).  What a step needs to know of the
session is its `Outlook`: the answers of the broker, the files and what others make of them meanwhile, and the number
and the colour for the next pipeline.  From it alone can be told whether a step fails (`TopicJob.failure?`) and what it
records (`TopicJob.record`).

`foreseen` says what one step leaves behind, and `forM_granted` what a row of steps does, by induction over the
topics.  So a line does what its steps before the first failure do, and nothing else (`topics_up_to_failure`).
-/

namespace TopicShell.Session

open Files Line

/-! ## What the steps of a line look at -/

/-- What a line asks for, topic by topic. -/
inductive TopicJob where
  | subscribe (qos : Int) (c : Chain)
  | unsubscribe

/-- What the steps of a line look at. -/
structure Outlook where
  answer : Nat → Call → Option Refusal
  /-- How many calls have been made. -/
  count : Nat
  files : Tree
  /-- What others make of the files between two topics. -/
  meanwhile : Nat → Tree → Tree
  /-- How many background pipelines have been started. -/
  started : Nat
  pool : Pool

def outlook (s : Session) : Outlook :=
  ⟨s.broker.answer, s.broker.count, s.files, s.machine.meanwhile, s.backgrounds.length, s.pool⟩

/-- The files are others after some time. -/
def Outlook.elapsed (o : Outlook) : Outlook :=
  { o with files := o.meanwhile o.count o.files }

namespace TopicJob

def call (topic : String) : TopicJob → Call
  | subscribe qos _ => .subscribe topic qos
  | unsubscribe => .unsubscribe topic

/-- The action on one topic. -/
def step (topic : String) : TopicJob → Act Unit
  | subscribe qos c => subscribeTopic qos c topic
  | unsubscribe => unsubscribeTopic topic

/-- The action on one topic with others behind it. -/
def pacedStep (topic : String) : TopicJob → Act Unit
  | subscribe qos c => followed (subscribeTopic qos c) topic
  | unsubscribe => unsubscribeTopic topic

/-- The action on all topics. -/
def steps (topics : List String) : TopicJob → Act Unit
  | subscribe qos c => inTurn (subscribeTopic qos c) topics
  | unsubscribe => topics.forM unsubscribeTopic

/-- Why the target of a background pipeline cannot be opened. -/
def blocked? (o : Outlook) : TopicJob → Option Pipeline.Abort
  | subscribe _ c =>
    if c.isBackground then
      match Pipeline.ofChain c (.stream []) [] o.files 1 false with
      | .error cause => some cause
      | .ok _ => none
    else none
  | unsubscribe => none

/-- The fault that a call ends with that is not done. -/
def fault (refusal : Refusal) : TopicJob → Fault
  | subscribe _ _ =>
    match refusal with
    | .refused m => .command (.failed m .sub)
    | .unexpected m => .unexpected m
  | unsubscribe => .ofRefusal refusal

/-- Why the step for a topic fails, if it does: its target cannot be opened, or the call is not done. -/
def failure? (o : Outlook) (topic : String) (job : TopicJob) : Option Fault :=
  match job.blocked? o with
  | some cause => some (startFault cause)
  | none => (o.answer o.count (job.call topic)).map job.fault

/-- The records after the step for a topic, if it does not fail. -/
def record (o : Outlook) (topic : String) : TopicJob → List Subscription → List Subscription
  | subscribe qos c =>
    putSubscription ⟨topic, qos, if c.isBackground then .feed o.started else foregroundHandler c o.pool.next.1⟩
  | unsubscribe => dropSubscription topic

/-- What is there to look at after a step that does not fail. -/
def next (o : Outlook) : TopicJob → Outlook
  | subscribe _ c =>
    if c.isBackground then
      match Pipeline.ofChain c (.stream []) [] o.files 1 false with
      | .error _ => o
      | .ok b => { o with count := o.count + 1, files := b.files, started := o.started + 1 }
    else { o with count := o.count + 1, pool := o.pool.next.2 }
  | unsubscribe => { o with count := o.count + 1 }

/-- What the next step looks at, if this one does not fail: the files of a `sub` line may be others by then. -/
def advance (job : TopicJob) (o : Outlook) : Outlook :=
  match job with
  | subscribe _ _ => (job.next o).elapsed
  | unsubscribe => job.next o

/-- What the step with a number looks at, if none before it fails. -/
def outlookAt (job : TopicJob) (k : Nat) (s : Session) : Outlook :=
  job.advance^[k] s.outlook

/-- The steps for some topics do not fail. -/
def Succeeds (job : TopicJob) (topics : List String) (s : Session) : Prop :=
  ∀ i topic, topics[i]? = some topic → job.failure? (job.outlookAt i s) topic = none

/-- The records after the steps for some topics, if none fails. -/
def records (job : TopicJob) : List String → Outlook → List Subscription → List Subscription
  | [], _, subs => subs
  | topic :: rest, o, subs => job.records rest (job.advance o) (job.record o topic subs)

end TopicJob

/-! ## One step -/

theorem outlook_discarded (topic : String) (s : Session) : (s.discarded topic).outlook = s.outlook := by
  rw [outlook, discarded_broker, discarded_files, discarded_machine, length_discarded_backgrounds, discarded_pool]
  rfl

theorem outlook_opened (topic : String) (b : Pipeline.Built) (s : Session) :
    (s.opened topic b).outlook = { s.outlook with files := b.files, started := s.outlook.started + 1 } := by
  have hlength : (s.opened topic b).backgrounds.length = s.backgrounds.length + 1 := List.length_append
  rw [outlook, hlength]
  rfl

/-- A step that does not fail makes its call, records what it leads to, writes nothing, and is followed by the next. -/
structure Granted (job : TopicJob) (topic : String) (s s' : Session) : Prop where
  calls : s'.calls = s.calls ++ [job.call topic]
  records : s'.subscriptions = job.record s.outlook topic s.subscriptions
  written : s'.written = s.written
  outlook : s'.outlook = job.next s.outlook

/-- A step that fails has made its call unless its target could not be opened; it records and writes nothing. -/
structure Failed (job : TopicJob) (topic : String) (s s' : Session) : Prop where
  calls : s'.calls = s.calls ++ if (job.blocked? s.outlook).isSome then [] else [job.call topic]
  records : s'.subscriptions = s.subscriptions
  written : s'.written = s.written

/-- What a subscription comes to when the broker agrees. -/
theorem concluded_of_none {sub : Subscription} {s : Session} (h : s.answerTo sub.call = none) :
    s.concluded sub = (.ok (), (if sub.handler.mode = .longTerm then (s.asked sub.call).installed sub
      else ((s.asked sub.call).installed sub).discarded sub.topic).recorded sub) := by
  rw [concluded, show s.answerTo (.subscribe sub.topic sub.qos) = none from h]
  rfl

/-- What a subscription comes to when the broker does not agree. -/
theorem concluded_of_some {sub : Subscription} {s : Session} {refusal : Refusal} (c : Chain)
    (h : s.answerTo sub.call = some refusal) :
    ∃ s', s.concluded sub = (.error (TopicJob.fault refusal (.subscribe sub.qos c)), s') ∧
      (s' = s.asked sub.call ∨ s' = (s.asked sub.call).discarded sub.topic) := by
  rw [concluded, show s.answerTo (.subscribe sub.topic sub.qos) = some refusal from h]
  cases refusal with
  | unexpected m => exact ⟨_, rfl, .inl rfl⟩
  | refused m =>
    refine ⟨_, rfl, ?_⟩
    split
    · exact .inr rfl
    · exact .inl rfl

/-- The step for a topic does what its outlook says: it goes well, or it fails with the fault foreseen. -/
def Foreseen (job : TopicJob) (topic : String) (s : Session) : Prop :=
  match job.failure? s.outlook topic with
  | none => ∃ s', (job.step topic).run s = (.ok (), s') ∧ Granted job topic s s'
  | some e => ∃ s', (job.step topic).run s = (.error e, s') ∧ Failed job topic s s'

section Subscribe

variable {qos : Int} {c : Chain} {topic : String} {handler : Handler} {s s₁ : Session}

/-- The handler of a topic is ready, and nothing else is different that matters to the step. -/
structure Prepared (qos : Int) (c : Chain) (topic : String) (handler : Handler) (s s₁ : Session) : Prop where
  run : (createHandler topic c).run s = (.ok handler, s₁)
  calls : s₁.calls = s.calls
  written : s₁.written = s.written
  records : s₁.subscriptions = s.subscriptions
  broker : s₁.broker = s.broker
  blocked : (TopicJob.subscribe qos c).blocked? s.outlook = none
  record : (TopicJob.subscribe qos c).record s.outlook topic = putSubscription ⟨topic, qos, handler⟩
  next : (TopicJob.subscribe qos c).next s.outlook = { s₁.outlook with count := s.broker.count + 1 }

theorem Prepared.granted (h : Prepared qos c topic handler s s₁) :
    Granted (.subscribe qos c) topic s ((if handler.mode = .longTerm then
        (s₁.asked (.subscribe topic qos)).installed ⟨topic, qos, handler⟩
      else ((s₁.asked (.subscribe topic qos)).installed ⟨topic, qos, handler⟩).discarded topic).recorded
        ⟨topic, qos, handler⟩) := by
  have hasked : (s₁.asked (.subscribe topic qos)).calls = s.calls ++ [.subscribe topic qos] := by
    rw [calls_asked, h.calls]
  have hwritten : (s₁.asked (.subscribe topic qos)).written = s.written := by
    rw [written_asked, h.written]
  have houtlook : ((s₁.asked (.subscribe topic qos)).installed ⟨topic, qos, handler⟩).outlook
      = (TopicJob.subscribe qos c).next s.outlook := by
    rw [h.next, ← h.broker]
    rfl
  -- whether the topic has an old background pipeline makes no difference to any of this
  split
  · refine ⟨hasked, ?_, hwritten, houtlook⟩
    rw [h.record, ← h.records]
    rfl
  · refine ⟨?_, ?_, ?_, ?_⟩
    · exact (calls_discarded _ topic).trans hasked
    · rw [h.record, ← h.records]
      exact congrArg (putSubscription _) (discarded_subscriptions topic _)
    · exact (written_discarded _ topic).trans hwritten
    · exact (outlook_discarded topic _).trans houtlook

theorem Prepared.failed (h : Prepared qos c topic handler s s₁) {s' : Session}
    (hs' : s' = s₁.asked (.subscribe topic qos) ∨ s' = (s₁.asked (.subscribe topic qos)).discarded topic) :
    Failed (.subscribe qos c) topic s s' := by
  have hcalls : s.calls ++ [.subscribe topic qos]
      = s.calls ++ if ((TopicJob.subscribe qos c).blocked? s.outlook).isSome then [] else [.subscribe topic qos] := by
    rw [h.blocked]
    rfl
  rcases hs' with rfl | rfl
  · refine ⟨?_, h.records, ?_⟩
    · rw [calls_asked, h.calls]
      exact hcalls
    · rw [written_asked, h.written]
  · refine ⟨?_, ?_, ?_⟩
    · rw [calls_discarded, calls_asked, h.calls]
      exact hcalls
    · rw [discarded_subscriptions]
      exact h.records
    · rw [written_discarded, written_asked, h.written]

theorem Prepared.foreseen (h : Prepared qos c topic handler s s₁) : Foreseen (.subscribe qos c) topic s := by
  have hanswer : s₁.answerTo (Subscription.call ⟨topic, qos, handler⟩) = s.answerTo (.subscribe topic qos) := by
    rw [answerTo, h.broker]
    rfl
  rw [Foreseen, TopicJob.failure?, h.blocked, TopicJob.step, subscribeTopic_run, h.run]
  show match (s.answerTo (.subscribe topic qos)).map _ with
    | none => ∃ s', s₁.concluded ⟨topic, qos, handler⟩ = (.ok (), s') ∧ _
    | some e => ∃ s', s₁.concluded ⟨topic, qos, handler⟩ = (.error e, s') ∧ _
  cases ha : s.answerTo (.subscribe topic qos) with
  | none => exact ⟨_, concluded_of_none (hanswer.trans ha), h.granted⟩
  | some refusal =>
    obtain ⟨s', hrun, hs'⟩ := concluded_of_some c (hanswer.trans ha)
    exact ⟨s', hrun, h.failed hs'⟩

theorem foreseen_background (hc : c.isBackground = true) (qos : Int) (topic : String) (s : Session) :
    Foreseen (.subscribe qos c) topic s := by
  have hrun := createHandler_run_of_background hc topic s
  cases hb : Pipeline.ofChain c (.stream []) [] s.files 1 false with
  | error cause =>
    have hblocked : (TopicJob.subscribe qos c).blocked? s.outlook = some cause := by
      simp only [TopicJob.blocked?, hc, if_true, outlook, hb]
    rw [hb] at hrun
    rw [Foreseen, TopicJob.failure?, hblocked, TopicJob.step, subscribeTopic_run, hrun]
    refine ⟨_, rfl, ?_, discarded_subscriptions topic s, written_discarded s topic⟩
    rw [hblocked, calls_discarded]
    exact (List.append_nil _).symm
  | ok b =>
    rw [hb] at hrun
    have hprepared : Prepared qos c topic (.feed (s.discarded topic).backgrounds.length) s
        ((s.discarded topic).opened topic b) := by
      refine ⟨hrun, ?_, ?_, discarded_subscriptions topic s, discarded_broker topic s, ?_, ?_, ?_⟩
      · rw [calls_opened, calls_discarded]
      · rw [written_opened, written_discarded]
      · simp only [TopicJob.blocked?, hc, if_true, outlook, hb]
      · simp only [TopicJob.record, hc, if_true, outlook, length_discarded_backgrounds]
      · rw [outlook_opened, outlook_discarded]
        simp only [TopicJob.next, hc, if_true, outlook, hb]
    exact hprepared.foreseen

theorem foreseen_foreground (hc : c.isBackground = false) (qos : Int) (topic : String) (s : Session) :
    Foreseen (.subscribe qos c) topic s := by
  have hprepared : Prepared qos c topic (foregroundHandler c s.pool.next.1) s s.turned := by
    refine ⟨createHandler_run_of_foreground hc topic s, rfl, rfl, rfl, rfl, ?_, ?_, ?_⟩
    · simp only [TopicJob.blocked?, hc, Bool.false_eq_true, if_false]
    · simp only [TopicJob.record, hc, Bool.false_eq_true, if_false]
      rfl
    · simp only [TopicJob.next, hc, Bool.false_eq_true, if_false]
      rfl
  exact hprepared.foreseen

end Subscribe

theorem foreseen_unsubscribe (topic : String) (s : Session) : Foreseen .unsubscribe topic s := by
  have hcalls : ((s.discarded topic).asked (.unsubscribe topic)).calls = s.calls ++ [.unsubscribe topic] := by
    rw [calls_asked, calls_discarded]
  have hwritten : ((s.discarded topic).asked (.unsubscribe topic)).written = s.written := by
    rw [written_asked, written_discarded]
  rw [Foreseen, TopicJob.step, unsubscribeTopic_run]
  show match (s.answerTo (.unsubscribe topic)).map Fault.ofRefusal with
    | none => ∃ s', _ = ((.ok () : Except Fault Unit), s') ∧ _
    | some e => ∃ s', _ = ((.error e : Except Fault Unit), s') ∧ _
  cases s.answerTo (.unsubscribe topic) with
  | none =>
    refine ⟨_, rfl, hcalls, ?_, hwritten, ?_⟩
    · exact congrArg (dropSubscription topic) (discarded_subscriptions topic s)
    · show { (s.discarded topic).outlook with count := (s.discarded topic).outlook.count + 1 } = _
      rw [outlook_discarded]
      rfl
  | some refusal => exact ⟨_, rfl, hcalls, discarded_subscriptions topic s, hwritten⟩

theorem foreseen (job : TopicJob) (topic : String) (s : Session) : Foreseen job topic s := by
  cases job with
  | unsubscribe => exact foreseen_unsubscribe topic s
  | subscribe qos c =>
    cases hc : c.isBackground with
    | true => exact foreseen_background hc qos topic s
    | false => exact foreseen_foreground hc qos topic s

/-! ## A row of steps -/

section Rows

variable {job : TopicJob} {s : Session}

theorem TopicJob.succeeds_cons {topic : String} {rest : List String} {s₁ : Session}
    (h : s₁.outlook = job.advance s.outlook) :
    job.Succeeds (topic :: rest) s ↔ job.failure? s.outlook topic = none ∧ job.Succeeds rest s₁ := by
  constructor
  · intro hall
    refine ⟨hall 0 topic rfl, fun i other hi => ?_⟩
    rw [TopicJob.outlookAt, h]
    exact hall (i + 1) other hi
  · rintro ⟨hfirst, hrest⟩ i other hi
    cases i with
    | zero =>
      cases hi
      exact hfirst
    | succ i =>
      have h' := hrest i other hi
      rwa [TopicJob.outlookAt, h] at h'

theorem TopicJob.succeeds_concat {topics : List String} {topic : String} :
    job.Succeeds (topics ++ [topic]) s ↔
      job.Succeeds topics s ∧ job.failure? (job.outlookAt topics.length s) topic = none := by
  constructor
  · intro h
    refine ⟨fun i other hi => h i other ?_, h topics.length topic ?_⟩
    · rw [List.getElem?_append_left (List.getElem?_eq_some_iff.mp hi).1, hi]
    · rw [List.getElem?_append_right (Nat.le_refl _), Nat.sub_self]
      rfl
  · rintro ⟨h, hlast⟩ i other hi
    rcases Nat.lt_or_ge i topics.length with hlt | hge
    · rw [List.getElem?_append_left hlt] at hi
      exact h i other hi
    · rw [List.getElem?_append_right hge] at hi
      obtain ⟨hzero, rfl⟩ : i - topics.length = 0 ∧ topic = other := by
        simpa [List.getElem?_singleton] using hi
      rwa [show i = topics.length by omega]

/-- All steps go well, or there is a first one that fails. -/
theorem succeeds_or_fails (job : TopicJob) (topics : List String) (s : Session) :
    job.Succeeds topics s ∨ ∃ before topic after e, topics = before ++ topic :: after ∧ job.Succeeds before s ∧
      job.failure? (job.outlookAt before.length s) topic = some e := by
  induction topics using List.reverseRecOn with
  | nil => exact .inl fun i topic hi => by cases hi
  | append_singleton topics topic ih =>
    rcases ih with hall | ⟨before, other, after, e, rfl, hbefore, he⟩
    · cases hlast : job.failure? (job.outlookAt topics.length s) topic with
      | none => exact .inl (TopicJob.succeeds_concat.mpr ⟨hall, hlast⟩)
      | some e => exact .inr ⟨topics, topic, [], e, rfl, hall, hlast⟩
    · exact .inr ⟨before, other, after ++ [topic], e, by simp, hbefore, he⟩

theorem TopicJob.records_append (xs ys : List String) (o : Outlook) (subs : List Subscription) :
    job.records (xs ++ ys) o subs = job.records ys (job.advance^[xs.length] o) (job.records xs o subs) := by
  induction xs generalizing o subs with
  | nil => rfl
  | cons x xs ih => exact ih (job.advance o) (job.record o x subs)

/-- What a row of steps leaves behind of which none fails. -/
structure Applied (job : TopicJob) (topics : List String) (s s' : Session) : Prop where
  calls : s'.calls = s.calls ++ topics.map (job.call ·)
  records : s'.subscriptions = job.records topics s.outlook s.subscriptions
  written : s'.written = s.written

theorem Applied.append {xs ys : List String} {s₁ s' : Session} (h : Applied job xs s s₁)
    (ho : s₁.outlook = job.outlookAt xs.length s) (h' : Applied job ys s₁ s') : Applied job (xs ++ ys) s s' := by
  refine ⟨?_, ?_, h'.written.trans h.written⟩
  · rw [h'.calls, h.calls, List.map_append, List.append_assoc]
  · rw [h'.records, ho, h.records, TopicJob.records_append]
    rfl

theorem Granted.applied {topic : String} {s' : Session} (h : Granted job topic s s') : Applied job [topic] s s' :=
  ⟨h.calls, h.records, h.written⟩

/-- After a step that does not fail time passes in a `sub` line, and this is all. -/
theorem pacedStep_granted {topic : String} (h : job.failure? s.outlook topic = none) :
    ∃ s', (job.pacedStep topic).run s = (.ok (), s') ∧ Applied job [topic] s s' ∧
      s'.outlook = job.advance s.outlook := by
  have hstep := foreseen job topic s
  rw [Foreseen, h] at hstep
  obtain ⟨s₁, hrun, hs₁⟩ := hstep
  cases job with
  | unsubscribe => exact ⟨s₁, hrun, hs₁.applied, hs₁.outlook⟩
  | subscribe qos c =>
    have happlied := hs₁.applied
    refine ⟨s₁.elapsed, ?_, ⟨happlied.calls, happlied.records, happlied.written⟩, ?_⟩
    · rw [TopicJob.pacedStep, followed_run, show (subscribeTopic qos c topic).run s = _ from hrun]
    · show s₁.outlook.elapsed = _
      rw [hs₁.outlook]
      rfl

/-- **Steps of which none fails** are all applied, one after the other. -/
theorem forM_granted {topics : List String} (h : job.Succeeds topics s) :
    ∃ s', (topics.forM (job.pacedStep ·)).run s = (.ok (), s') ∧ Applied job topics s s' ∧
      s'.outlook = job.outlookAt topics.length s := by
  induction topics generalizing s with
  | nil => exact ⟨s, rfl, ⟨(List.append_nil _).symm, rfl, rfl⟩, rfl⟩
  | cons topic rest ih =>
    obtain ⟨s₁, hrun, hs₁, ho⟩ := pacedStep_granted (h 0 topic rfl)
    obtain ⟨s', hrun', hs', houtlook⟩ := ih ((TopicJob.succeeds_cons ho).mp h).2
    refine ⟨s', ?_, hs₁.append ho hs', ?_⟩
    · rw [run_forM_cons, hrun]
      exact hrun'
    · rw [houtlook, TopicJob.outlookAt, ho]
      rfl

end Rows

/-! ## All steps -/

section Steps

variable {job : TopicJob} {s : Session}

theorem steps_run_append (before : List String) (topic : String) (after : List String) :
    (job.steps (before ++ topic :: after)).run s = match (before.forM (job.pacedStep ·)).run s with
      | (.ok _, s₁) => (job.steps (topic :: after)).run s₁
      | (.error e, s₁) => (.error e, s₁) := by
  cases job with
  | subscribe qos c => exact inTurn_run_append _ before topic after s
  | unsubscribe =>
    have hbefore : before.forM (TopicJob.unsubscribe.pacedStep ·) = before.forM unsubscribeTopic := rfl
    rw [TopicJob.steps, run_forM_append, hbefore]
    cases (before.forM unsubscribeTopic).run s with
    | mk r s₁ => cases r <;> rfl

theorem steps_run_of_ok {topic : String} {s' : Session} (h : (job.step topic).run s = (.ok (), s')) :
    (job.steps [topic]).run s = (.ok (), s') := by
  cases job with
  | subscribe qos c => exact (inTurn_run_singleton _ topic s).trans h
  | unsubscribe =>
    rw [TopicJob.steps, run_forM_cons, show (unsubscribeTopic topic).run s = _ from h]
    rfl

theorem steps_run_of_error {topic : String} {s' : Session} {e : Fault} (after : List String)
    (h : (job.step topic).run s = (.error e, s')) : (job.steps (topic :: after)).run s = (.error e, s') := by
  cases job with
  | subscribe qos c => exact inTurn_run_of_error _ after h
  | unsubscribe => rw [TopicJob.steps, run_forM_cons, show (unsubscribeTopic topic).run s = _ from h]

/-- What each step keeps, and time, all steps keep, however far they get. -/
theorem steps_keep {P : Session → Prop} {topics : List String}
    (hstep : ∀ topic ∈ topics, ∀ s, P s → P ((job.step topic).run s).2) (htime : ∀ s, P s → P s.elapsed)
    (hs : P s) : P ((job.steps topics).run s).2 := by
  cases job with
  | subscribe qos c => exact inTurn_keeps _ hstep htime hs
  | unsubscribe => exact run_forM_keeps hstep hs

/-- **All steps**, when none of them fails. -/
theorem steps_granted {topics : List String} (h : job.Succeeds topics s) :
    ∃ s', (job.steps topics).run s = (.ok (), s') ∧ Applied job topics s s' := by
  induction topics using List.reverseRecOn with
  | nil => cases job <;> exact ⟨s, rfl, (List.append_nil _).symm, rfl, rfl⟩
  | append_singleton before topic _ =>
    obtain ⟨hbefore, hlast⟩ := TopicJob.succeeds_concat.mp h
    obtain ⟨s₁, hrun₁, hs₁, houtlook⟩ := forM_granted hbefore
    have hstep := foreseen job topic s₁
    rw [Foreseen, houtlook, hlast] at hstep
    obtain ⟨s', hrun, hs'⟩ := hstep
    refine ⟨s', ?_, hs₁.append houtlook hs'.applied⟩
    rw [steps_run_append, hrun₁]
    exact steps_run_of_ok hrun

/-- What a row of steps leaves behind that is broken off: the steps before are applied, and the step that fails has
made its call, unless its target could not be opened. -/
structure BrokenOff (job : TopicJob) (before : List String) (topic : String) (s s' : Session) : Prop where
  calls : s'.calls = s.calls ++ before.map (job.call ·) ++
    if (job.blocked? (job.outlookAt before.length s)).isSome then [] else [job.call topic]
  records : s'.subscriptions = job.records before s.outlook s.subscriptions
  written : s'.written = s.written

/-- **The first step that fails** breaks the row off. -/
theorem steps_failed {before : List String} (after : List String) {topic : String} {e : Fault}
    (h : job.Succeeds before s) (he : job.failure? (job.outlookAt before.length s) topic = some e) :
    ∃ s', (job.steps (before ++ topic :: after)).run s = (.error e, s') ∧
      (job.steps (before ++ [topic])).run s = (.error e, s') ∧ BrokenOff job before topic s s' := by
  obtain ⟨s₁, hrun₁, hs₁, houtlook⟩ := forM_granted h
  have hstep := foreseen job topic s₁
  rw [Foreseen, houtlook, he] at hstep
  obtain ⟨s', hrun, hs'⟩ := hstep
  refine ⟨s', ?_, ?_, ?_, ?_, ?_⟩
  · rw [steps_run_append, hrun₁]
    exact steps_run_of_error after hrun
  · rw [steps_run_append, hrun₁]
    exact steps_run_of_error [] hrun
  · rw [hs'.calls, hs₁.calls, houtlook]
  · rw [hs'.records, hs₁.records]
  · rw [hs'.written, hs₁.written]

end Steps

/-! ## Other topics -/

/-- Nothing of a topic is touched: its record, its handler at the broker, and its background pipeline. -/
structure Untouched (other : String) (s s' : Session) : Prop where
  record : s'.record? other = s.record? other
  installed : s'.broker.installed? other = s.broker.installed? other
  lookup : s'.longTerm.lookup other = s.longTerm.lookup other
  background : ∀ n, s.longTerm.lookup other = some n → s'.backgrounds[n]? = s.backgrounds[n]?

section Untouched

variable {other topic : String} {s s' : Session}

theorem Untouched.refl (other : String) (s : Session) : Untouched other s s :=
  ⟨rfl, rfl, rfl, fun _ _ => rfl⟩

theorem Untouched.trans {s'' : Session} (h : Untouched other s s') (h' : Untouched other s' s'') :
    Untouched other s s'' := by
  refine ⟨h'.record.trans h.record, h'.installed.trans h.installed, h'.lookup.trans h.lookup, ?_⟩
  intro n hn
  rw [h'.background n (h.lookup.trans hn), h.background n hn]

theorem Accounted.number_apart (hs : s.Accounted) (h : other ≠ topic) {n : Nat}
    (hn : s.longTerm.lookup other = some n) : s.longTerm.lookup topic ≠ some n := by
  intro ht
  have hboth := (hs.lookup_iff.mp hn).symm.trans (hs.lookup_iff.mp ht)
  exact h (congrArg Prod.fst (Option.some.inj hboth))

theorem Accounted.untouched_discarded (hs : s.Accounted) (h : other ≠ topic) :
    Untouched other s (s.discarded topic) := by
  refine ⟨record?_discarded topic other s, by rw [discarded_broker], lookup_discarded_of_ne h s, ?_⟩
  intro n hn
  exact backgrounds_discarded_of_ne (hs.number_apart h hn)

theorem Accounted.untouched_opened (hs : s.Accounted) (h : other ≠ topic) (b : Pipeline.Built) :
    Untouched other s (s.opened topic b) := by
  refine ⟨rfl, rfl, lookup_opened_of_ne h s b, ?_⟩
  intro n hn
  obtain ⟨w, hw, _, _⟩ := hs.entry.mp (mem_of_lookup hn)
  exact List.getElem?_append_left (List.getElem?_eq_some_iff.mp hw).1

theorem untouched_recorded {sub : Subscription} (h : other ≠ sub.topic) (s : Session) :
    Untouched other s ((s.installed sub).recorded sub) :=
  ⟨record?_recorded_of_ne h _, installed?_install_of_ne h, rfl, fun _ _ => rfl⟩

theorem untouched_forgotten (h : other ≠ topic) (s : Session) : Untouched other s (s.forgotten topic) :=
  ⟨record?_forgotten_of_ne h s, installed?_forget_of_ne h, rfl, fun _ _ => rfl⟩

theorem Accounted.asked (hs : s.Accounted) (c : Call) : (s.asked c).Accounted := by
  refine hs.of_log rfl rfl rfl fun e he n => ?_
  rw [List.mem_singleton.mp he]
  exact ⟨nofun, nofun⟩

theorem Accounted.untouched_concluded {sub : Subscription} (hs : s.Accounted) (h : other ≠ sub.topic) :
    Untouched other s (s.concluded sub).2 := by
  have hasked : Untouched other s (s.asked sub.call) := ⟨rfl, rfl, rfl, fun _ _ => rfl⟩
  have hdiscarded : Untouched other s ((s.asked sub.call).discarded sub.topic) :=
    hasked.trans ((hs.asked sub.call).untouched_discarded h)
  cases ha : s.answerTo sub.call with
  | none =>
    rw [concluded_of_none ha]
    split
    · exact hasked.trans (untouched_recorded h _)
    · rw [installed_discarded]
      exact hdiscarded.trans (untouched_recorded h _)
  | some refusal =>
    obtain ⟨s', hrun, hs'⟩ := concluded_of_some ⟨[], [], [], false⟩ ha
    rw [hrun]
    rcases hs' with rfl | rfl
    · exact hasked
    · exact hdiscarded

theorem Accounted.untouched_subscribeTopic (hs : s.Accounted) (h : other ≠ topic) (qos : Int) (c : Chain) :
    Untouched other s ((subscribeTopic qos c topic).run s).2 := by
  rw [subscribeTopic_run]
  cases hc : c.isBackground with
  | false =>
    rw [createHandler_run_of_foreground hc]
    have hturned : Untouched other s s.turned := ⟨rfl, rfl, rfl, fun _ _ => rfl⟩
    have hs₁ : s.turned.Accounted := ⟨hs.nodup, hs.current, hs.opened, hs.shut⟩
    exact hturned.trans (hs₁.untouched_concluded h)
  | true =>
    rw [createHandler_run_of_background hc]
    cases Pipeline.ofChain c (.stream []) [] s.files 1 false with
    | error cause => exact hs.untouched_discarded h
    | ok b =>
      have hs₁ : ((s.discarded topic).opened topic b).Accounted :=
        (hs.discarded topic).opened_background b (s.lookup_discarded_self topic)
      exact ((hs.untouched_discarded h).trans ((hs.discarded topic).untouched_opened h b)).trans
        (hs₁.untouched_concluded h)

theorem Accounted.untouched_unsubscribeTopic (hs : s.Accounted) (h : other ≠ topic) :
    Untouched other s ((unsubscribeTopic topic).run s).2 := by
  have hasked : Untouched other s ((s.discarded topic).asked (.unsubscribe topic)) :=
    (hs.untouched_discarded h).trans ⟨rfl, rfl, rfl, fun _ _ => rfl⟩
  rw [unsubscribeTopic_run]
  cases s.answerTo (.unsubscribe topic) with
  | some refusal => exact hasked
  | none => exact hasked.trans (untouched_forgotten h _)

end Untouched

/-- The level of service that a line asks for is one that it may ask for. -/
def TopicJob.Fair (s : Session) : TopicJob → Prop
  | .subscribe qos _ => qos = s.subscribeQos ∨ isQos qos = true
  | .unsubscribe => True

/-- **One step** touches its own topic only. -/
theorem step_untouched {job : TopicJob} {topic other : String} {s : Session} (hs : s.Accounted) (h : other ≠ topic) :
    Untouched other s ((job.step topic).run s).2 := by
  cases job with
  | subscribe qos c => exact hs.untouched_subscribeTopic h qos c
  | unsubscribe => exact hs.untouched_unsubscribeTopic h

theorem step_changes {job : TopicJob} {s : Session} (h : job.Fair s) (topic : String) :
    Changes true s ((job.step topic).run s).2 := by
  cases job with
  | subscribe qos c => exact (subscribeTopic_changes h c topic).opening
  | unsubscribe => exact unsubscribeTopic_changes topic

theorem TopicJob.Fair.of_changes {job : TopicJob} {s s' : Session} (h : job.Fair s) (hch : Changes true s s') :
    job.Fair s' := by
  cases job with
  | subscribe qos c =>
    show _ ∨ _
    rw [hch.subscribeQos]
    exact h
  | unsubscribe => trivial

/-- The steps touch their own topics only, however far they get. -/
theorem steps_untouched {job : TopicJob} {topics : List String} {other : String} {s : Session} (hs : s.Accounted)
    (hfair : job.Fair s) (h : other ∉ topics) : Untouched other s ((job.steps topics).run s).2 := by
  refine (steps_keep (P := fun s' => s'.Accounted ∧ job.Fair s' ∧ Untouched other s s') ?_ ?_
    ⟨hs, hfair, .refl other s⟩).2.2
  · rintro topic htopic s' ⟨hs', hfair', hun⟩
    have hch := step_changes hfair' topic
    have hne : other ≠ topic := fun he => h (he ▸ htopic)
    exact ⟨hch.keep (fun _ _ h => h.accounted) hs', hfair'.of_changes hch, hun.trans (step_untouched hs' hne)⟩
  · rintro s' ⟨hs', hfair', hun⟩
    have hch : Changes true s' s'.elapsed := changes_of_quiet s'.elapsed_quiet
    exact ⟨hch.keep (fun _ _ h => h.accounted) hs', hfair'.of_changes hch, hun.trans ⟨rfl, rfl, rfl, fun _ _ => rfl⟩⟩

/-! ## Lines -/

/-- The line is read as a job over some topics, which it accepts. -/
inductive Asks (line : String) (s : Session) : TopicJob → List String → Prop where
  | subscribe {c : Chain} {r : Request} (h : Subscribes line s c r) : Asks line s (.subscribe r.qos c) r.topics
  | unsubscribe {c : Chain} {first : Command} {rest : List Command} (read : interpret line = .ok c)
      (commands : c.commands = first :: rest) (word : Builtin.ofWord? first.name = some .unsub)
      (topics : first.arguments ≠ []) : Asks line s .unsubscribe first.arguments

theorem Asks.run {line : String} {s : Session} {job : TopicJob} {topics : List String} (h : Asks line s job topics) :
    (interpretAndHandle line).run s = (job.steps topics).run s := by
  cases h with
  | subscribe h => exact h.run
  | @unsubscribe c first rest read commands word topics =>
    have hne : first.arguments.isEmpty = false := List.isEmpty_eq_false_iff.mpr topics
    simp only [interpretAndHandle, read, handleChain, commands, word, Session.unsubscribe, hne]
    rfl

theorem Asks.fair {line : String} {s : Session} {job : TopicJob} {topics : List String} (h : Asks line s job topics) :
    job.Fair s := by
  cases h with
  | subscribe h => exact h.qos
  | unsubscribe => trivial

/-- A line does all its steps: it makes all calls and leaves all records, reports nothing, and touches no other
topic. -/
structure Carried (job : TopicJob) (topics : List String) (s s' : Session) : Prop where
  applied : Applied job topics s s'
  others : ∀ other, other ∉ topics → Untouched other s s'

/-- A line does its steps before the one for a topic, which fails: of this one there is nothing but its call, and one
report; the topics behind it are not touched. -/
structure Stopped (job : TopicJob) (before : List String) (topic : String) (e : Fault) (s s' : Session) : Prop where
  calls : s'.calls = s.calls ++ before.map (job.call ·) ++
    if (job.blocked? (job.outlookAt before.length s)).isSome then [] else [job.call topic]
  records : s'.subscriptions = job.records before s.outlook s.subscriptions
  report : s'.written = s.written ++ [e.message ++ "\n"]
  others : ∀ other, other ∉ before ++ [topic] → Untouched other s s'

theorem Asks.carried {line : String} {s : Session} {job : TopicJob} {topics : List String}
    (h : Asks line s job topics) (hs : s.Accounted) (hall : job.Succeeds topics s) :
    Carried job topics s ((Move.line line).apply s) := by
  obtain ⟨s', hrun, hs'⟩ := steps_granted hall
  have hline : (Move.line line).apply s = s' := by
    show ((handleLine line).run s).2 = _
    rw [handleLine_run, h.run, hrun]
  rw [hline]
  refine ⟨hs', fun other hother => ?_⟩
  have hun := steps_untouched hs h.fair hother
  rwa [hrun] at hun

theorem Asks.stopped {line : String} {s : Session} {job : TopicJob} {before after : List String} {topic : String}
    {e : Fault} (h : Asks line s job (before ++ topic :: after)) (hs : s.Accounted) (hbefore : job.Succeeds before s)
    (he : job.failure? (job.outlookAt before.length s) topic = some e) :
    Stopped job before topic e s ((Move.line line).apply s) := by
  obtain ⟨s', hrun, hshort, hs'⟩ := steps_failed after hbefore he
  have hline : (Move.line line).apply s = s'.noted (.wrote (e.message ++ "\n")) := by
    show ((handleLine line).run s).2 = _
    rw [handleLine_run, h.run, hrun]
  rw [hline]
  refine ⟨?_, hs'.records, ?_, fun other hother => ?_⟩
  · rw [calls_noted_wrote, hs'.calls]
  · rw [written_noted_wrote, hs'.written]
  · have hun := steps_untouched hs h.fair hother
    rw [hshort] at hun
    exact hun.trans ⟨rfl, rfl, rfl, fun _ _ => rfl⟩

/-- **A line over several topics goes as far as its first failure, and no further.**  In every session that can come
about and for every `sub` or `unsub` line that is accepted, either no step fails, and the line does all of them
without a report; or there is a first step that fails, because its target cannot be opened or its call is not done
for whatever reason: then the line makes the calls up to this one, leaves the records of the steps before it, writes
one report, and touches no other topic. -/
theorem topics_up_to_failure (b : Beginning) (ms : List Move) {line : String} {job : TopicJob} {topics : List String}
    (h : Asks line (run ms b.session) job topics) :
    let s := run ms b.session
    let s' := (Move.line line).apply s
    (job.Succeeds topics s ∨ ∃ before topic after e, topics = before ++ topic :: after ∧ job.Succeeds before s ∧
      job.failure? (job.outlookAt before.length s) topic = some e) ∧
    (job.Succeeds topics s → Carried job topics s s') ∧
    ∀ before topic after e, topics = before ++ topic :: after → job.Succeeds before s →
      job.failure? (job.outlookAt before.length s) topic = some e → Stopped job before topic e s s' := by
  intro s s'
  have hs : s.Accounted := b.accounted.run ms
  refine ⟨succeeds_or_fails job topics s, h.carried hs, ?_⟩
  rintro before topic after e rfl hbefore he
  exact h.stopped hs hbefore he

/-- Somebody takes a directory away after the first topic. -/
def vanishing : Beginning :=
  { files := ⟨[(["d"], .directory)]⟩, machine := { meanwhile := fun _ _ => {} } }

/-- The target can be opened for the first topic, and not for the second. -/
example : ((Move.line "sub a b c > d/o &").apply vanishing.session).calls = [.subscribe "a" 0] ∧
    ((Move.line "sub a b c > d/o &").apply vanishing.session).subscriptions = [⟨"a", 0, .feed 0⟩] ∧
    ((Move.line "sub a b c > d/o &").apply vanishing.session).written =
      ["d/o: No such file or directory\nUsage: sub [-q 0|1|2] <topic> [...topicN]\n"] := by
  decide +kernel

/-- A broker that refuses the fourth call. -/
def refusingFourth : Beginning :=
  { answer := fun n _ => if n = 3 then some (.refused "not authorised") else none }

/-- The chain of `sub -q 1 a b a c > f &`. -/
def fourTopics : Chain :=
  ⟨[⟨"sub", ["-q", "1", "a", "b", "a", "c"]⟩, ⟨"f", []⟩], [.write],
    ["sub", "-q", "1", "a", "b", "a", "c", ">", "f", "&"], false⟩

/-- A topic that stands twice: at its second place the broker refuses, which leaves the record of the first. -/
theorem refused_at_repetition :
    let s := run [.line "sub a"] refusingFourth.session
    let s' := (Move.line "sub -q 1 a b a c > f &").apply s
    Asks "sub -q 1 a b a c > f &" s (.subscribe 1 fourTopics) ["a", "b", "a", "c"] ∧
    s'.calls = s.calls ++ [.subscribe "a" 1, .subscribe "b" 1, .subscribe "a" 1] ∧
    s'.subscriptions = [⟨"a", 1, .feed 0⟩, ⟨"b", 1, .feed 1⟩] ∧
    s'.written = s.written ++ ["not authorised\nUsage: sub [-q 0|1|2] <topic> [...topicN]\n"] ∧
    Untouched "c" s s' := by
  intro s s'
  have hasks : Asks "sub -q 1 a b a c > f &" s (.subscribe 1 fourTopics) ["a", "b", "a", "c"] := by
    have hqos : s.subscribeQos = 0 := by decide +kernel
    refine .subscribe (r := ⟨["a", "b", "a", "c"], 1⟩) ⟨by decide +kernel, _, _, rfl, by decide +kernel, ?_⟩
    rw [hqos]
    decide +kernel
  have hbefore : (TopicJob.subscribe 1 fourTopics).Succeeds ["a", "b"] s := by
    intro i topic hi
    match i with
    | 0 =>
      cases hi
      decide +kernel
    | 1 =>
      cases hi
      decide +kernel
    | i + 2 => cases hi
  have hstopped := (topics_up_to_failure refusingFourth [.line "sub a"] hasks).2.2 ["a", "b"] "a" ["c"]
    (.command (.failed "not authorised" .sub)) rfl hbefore (by decide +kernel)
  have hopens :
      (TopicJob.subscribe 1 fourTopics).blocked? ((TopicJob.subscribe 1 fourTopics).outlookAt 2 s) = none := by
    decide +kernel
  refine ⟨hasks, ?_, ?_, hstopped.report, hstopped.others "c" (by decide)⟩
  · have hcalls := hstopped.calls
    rw [show ["a", "b"].length = 2 from rfl, hopens, List.append_assoc] at hcalls
    exact hcalls
  · rw [hstopped.records]
    decide +kernel

end TopicShell.Session
