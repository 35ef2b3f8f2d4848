import TopicShell.Proofs.Running
import TopicShell.Session.Messages

/-!
# What the actions of a session do

An action hands on a session and may fail.  This file says for each action on subscriptions what it
leaves behind, as a function of the session it starts from: `discarded`, `opened`, `asked`,
`installed`, `recorded` and `forgotten` are the single changes, and the lemmas named `_run` put them
together (`subscribeTopic_run`, `unsubscribeTopic_run`, `reinstall_run`).  Proofs about sessions cite
these equations and do not open the actions again.
-/

namespace TopicShell

/-- The chain asks for a pipeline in the background. -/
def Line.Chain.isBackground (c : Line.Chain) : Bool :=
  c.commands.length ≠ 1 && (c.isLongTerm && c.stores)

/-- The call that asks for a subscription. -/
def Subscription.call (r : Subscription) : Call :=
  .subscribe r.topic r.qos

/-- The call that an event tells of. -/
def Event.call? : Event → Option Call
  | .called call => some call
  | _ => none

/-- The text that an event tells of. -/
def Event.text? : Event → Option String
  | .wrote text => some text
  | _ => none

namespace Session

open Files Line

/-! ## What the log tells -/

/-- All calls to the broker, in order. -/
def calls (s : Session) : List Call :=
  s.log.filterMap Event.call?

/-- All texts written to the terminal, in order. -/
def written (s : Session) : List String :=
  s.log.filterMap Event.text?

/-! ## Single changes -/

/-- The session after an event. -/
def noted (e : Event) (s : Session) : Session :=
  { s with log := s.log ++ [e] }

/-- What the broker answers to the next call. -/
def answerTo (c : Call) (s : Session) : Option Refusal :=
  s.broker.answer s.broker.count c

/-- The session after a call, apart from what the call does when it is done. -/
def asked (c : Call) (s : Session) : Session :=
  { s.noted (.called c) with broker := { s.broker with count := s.broker.count + 1 } }

/-- The handler of a subscription is in place at the broker. -/
def installed (sub : Subscription) (s : Session) : Session :=
  { s with broker := s.broker.install ⟨sub.topic, sub.qos, sub.handler⟩ }

/-- A subscription is written down. -/
def recorded (sub : Subscription) (s : Session) : Session :=
  { s with subscriptions := putSubscription sub s.subscriptions }

/-- A topic is given up: by the broker and in the records. -/
def forgotten (topic : String) (s : Session) : Session :=
  { s with
    broker := s.broker.forget topic
    subscriptions := dropSubscription topic s.subscriptions }

/-- The background pipeline of a topic, if there is one, has been taken out and its input closed. -/
def discarded (topic : String) (s : Session) : Session :=
  match s.longTerm.lookup topic with
  | none => s
  | some number =>
    { s with
      longTerm := s.longTerm.filter (·.1 != topic)
      backgrounds := s.backgrounds.modify number Background.shut
      log := s.log ++ [.shut number] }

/-- A pipeline that has been built runs in the background for a topic. -/
def opened (topic : String) (b : Pipeline.Built) (s : Session) : Session :=
  { s with
    files := b.files
    backgrounds := s.backgrounds ++ [{ topic, pipeline := b.pipeline, target := b.target }]
    longTerm := s.longTerm ++ [(topic, s.backgrounds.length)]
    log := s.log ++ [.opened s.backgrounds.length] }

/-- The files have changed as they do between two topics. -/
def elapsed (s : Session) : Session :=
  { s with files := s.machine.meanwhile s.broker.count s.files }

/-- The pool has handed out one decorator. -/
def turned (s : Session) : Session :=
  { s with pool := s.pool.next.2 }

/-! ## What single changes add to the log -/

section Log

variable (s : Session) (topic : String)

@[simp]
theorem calls_asked (c : Call) : (s.asked c).calls = s.calls ++ [c] :=
  List.filterMap_append

@[simp]
theorem written_asked (c : Call) : (s.asked c).written = s.written :=
  List.filterMap_append.trans (List.append_nil _)

@[simp]
theorem calls_noted_wrote (text : String) : (s.noted (.wrote text)).calls = s.calls :=
  List.filterMap_append.trans (List.append_nil _)

@[simp]
theorem written_noted_wrote (text : String) : (s.noted (.wrote text)).written = s.written ++ [text] :=
  List.filterMap_append

@[simp]
theorem calls_discarded : (s.discarded topic).calls = s.calls := by
  unfold discarded
  split
  · rfl
  · exact List.filterMap_append.trans (List.append_nil _)

@[simp]
theorem written_discarded : (s.discarded topic).written = s.written := by
  unfold discarded
  split
  · rfl
  · exact List.filterMap_append.trans (List.append_nil _)

@[simp]
theorem calls_opened (b : Pipeline.Built) : (s.opened topic b).calls = s.calls :=
  List.filterMap_append.trans (List.append_nil _)

@[simp]
theorem written_opened (b : Pipeline.Built) : (s.opened topic b).written = s.written :=
  List.filterMap_append.trans (List.append_nil _)

end Log

/-! ## What is left alone when a background pipeline is taken out -/

theorem discarded_of_none {topic : String} {s : Session} (h : s.longTerm.lookup topic = none) :
    s.discarded topic = s := by
  simp only [discarded, h]

theorem discarded_of_some {topic : String} {s : Session} {number : Nat}
    (h : s.longTerm.lookup topic = some number) :
    s.discarded topic = { s with
      longTerm := s.longTerm.filter (·.1 != topic)
      backgrounds := s.backgrounds.modify number Background.shut
      log := s.log ++ [.shut number] } := by
  simp only [discarded, h]

@[simp]
theorem discarded_subscriptions (topic : String) (s : Session) :
    (s.discarded topic).subscriptions = s.subscriptions := by
  unfold discarded
  split <;> rfl

@[simp]
theorem discarded_broker (topic : String) (s : Session) : (s.discarded topic).broker = s.broker := by
  unfold discarded
  split <;> rfl

@[simp]
theorem discarded_files (topic : String) (s : Session) : (s.discarded topic).files = s.files := by
  unfold discarded
  split <;> rfl

@[simp]
theorem discarded_publishQos (topic : String) (s : Session) :
    (s.discarded topic).publishQos = s.publishQos := by
  unfold discarded
  split <;> rfl

@[simp]
theorem discarded_subscribeQos (topic : String) (s : Session) :
    (s.discarded topic).subscribeQos = s.subscribeQos := by
  unfold discarded
  split <;> rfl

@[simp]
theorem discarded_environment (topic : String) (s : Session) :
    (s.discarded topic).environment = s.environment := by
  unfold discarded
  split <;> rfl

@[simp]
theorem discarded_machine (topic : String) (s : Session) : (s.discarded topic).machine = s.machine := by
  unfold discarded
  split <;> rfl

@[simp]
theorem discarded_accepting (topic : String) (s : Session) :
    (s.discarded topic).accepting = s.accepting := by
  unfold discarded
  split <;> rfl

@[simp]
theorem discarded_pool (topic : String) (s : Session) : (s.discarded topic).pool = s.pool := by
  unfold discarded
  split <;> rfl

@[simp]
theorem length_discarded_backgrounds (topic : String) (s : Session) :
    (s.discarded topic).backgrounds.length = s.backgrounds.length := by
  unfold discarded
  split
  · rfl
  · exact List.length_modify _ _ _

/-! ## The actions on subscriptions -/

theorem discardLongTerm_run (topic : String) (s : Session) :
    (discardLongTerm topic).run s = (.ok (), s.discarded topic) := by
  simp only [discardLongTerm, run_bind, run_get, discarded]
  cases s.longTerm.lookup topic <;> rfl

theorem callBroker_run (c : Call) (change : Registry → Registry) (s : Session) :
    (callBroker c change).run s = match s.answerTo c with
      | some r => (.error (.ofRefusal r), s.asked c)
      | none => (.ok (), { s.asked c with broker := change (s.asked c).broker }) := by
  have hnote : (note (.called c)).run s = (.ok (), s.noted (.called c)) := rfl
  simp only [callBroker, run_bind, run_get, run_modify, hnote]
  cases h : s.answerTo c with
  | some r =>
    have hc : (s.noted (.called c)).broker.call c change = (some r, (s.asked c).broker) := by
      simp only [Registry.call, asked, noted, show s.broker.answer s.broker.count c = some r from h]
    rw [hc]
    rfl
  | none =>
    have hc : (s.noted (.called c)).broker.call c change = (none, change (s.asked c).broker) := by
      simp only [Registry.call, asked, noted, show s.broker.answer s.broker.count c = none from h]
    rw [hc]
    rfl

theorem installHandler_run (sub : Subscription) (s : Session) :
    (installHandler sub).run s = match s.answerTo (.subscribe sub.topic sub.qos) with
      | some r => (.error (.ofRefusal r), s.asked (.subscribe sub.topic sub.qos))
      | none => (.ok (), (s.asked (.subscribe sub.topic sub.qos)).installed sub) :=
  callBroker_run _ _ s

theorem nextDecorator_run (s : Session) : nextDecorator.run s = (.ok s.pool.next.1, s.turned) :=
  rfl

theorem startBackground_run (topic : String) (c : Chain) (s : Session) :
    (startBackground topic c).run s =
      match Pipeline.ofChain c (.stream []) [] s.files 1 false with
      | .error cause => (.error (.pipeline cause), s.discarded topic)
      | .ok b =>
        (.ok (.feed (s.discarded topic).backgrounds.length), (s.discarded topic).opened topic b) := by
  simp only [startBackground, build, run_bind, run_get, discardLongTerm_run, discarded_files]
  cases Pipeline.ofChain c (.stream []) [] s.files 1 false <;> rfl

/-- What a subscription in the background fails with when its pipeline cannot be started. -/
def startFault : Pipeline.Abort → Fault
  | .failure cause => .command (.failed cause.message .sub)
  | .refusal message => .pipeline (.refusal message)
  | .nullCharacter => .pipeline .nullCharacter

theorem createHandler_run_of_background {c : Chain} (hc : c.isBackground = true) (topic : String)
    (s : Session) :
    (createHandler topic c).run s =
      match Pipeline.ofChain c (.stream []) [] s.files 1 false with
      | .error cause => (.error (startFault cause), s.discarded topic)
      | .ok b =>
        (.ok (.feed (s.discarded topic).backgrounds.length), (s.discarded topic).opened topic b) := by
  obtain ⟨h1, h2⟩ : c.commands.length ≠ 1 ∧ (c.isLongTerm && c.stores) = true := by
    simpa [Chain.isBackground] using hc
  rw [createHandler, if_neg h1, if_pos h2, run_tryCatch, startBackground_run]
  cases Pipeline.ofChain c (.stream []) [] s.files 1 false with
  | ok b => rfl
  | error cause => cases cause <;> rfl

/-- The handler of a subscription that needs no pipeline in the background. -/
def foregroundHandler (c : Chain) (d : Option Decorator) : Handler :=
  if c.commands.length = 1 then .plain d else .perMessage c d

theorem createHandler_run_of_foreground {c : Chain} (hc : c.isBackground = false) (topic : String)
    (s : Session) :
    (createHandler topic c).run s = (.ok (foregroundHandler c s.pool.next.1), s.turned) := by
  by_cases h1 : c.commands.length = 1
  · rw [createHandler, if_pos h1, run_bind, nextDecorator_run, foregroundHandler, if_pos h1]
    rfl
  · have h2 : ¬(c.isLongTerm && c.stores) = true := by
      simpa [Chain.isBackground, h1] using hc
    rw [createHandler, if_neg h1, if_neg h2, run_bind, nextDecorator_run, foregroundHandler, if_neg h1]
    rfl

theorem mode_foregroundHandler (c : Chain) (d : Option Decorator) :
    (foregroundHandler c d).mode ≠ .longTerm := by
  unfold foregroundHandler
  split <;> simp [Handler.mode]

/-- What comes of a subscription whose handler is ready: the answer of the broker decides. -/
def concluded (sub : Subscription) (s : Session) : Except Fault Unit × Session :=
  let a := s.asked (.subscribe sub.topic sub.qos)
  match s.answerTo (.subscribe sub.topic sub.qos) with
  | some (.refused m) =>
    (.error (.command (.failed m .sub)),
      if sub.handler.mode = .longTerm then a.discarded sub.topic else a)
  | some (.unexpected m) => (.error (.unexpected m), a)
  | none =>
    (.ok (), (if sub.handler.mode = .longTerm then a.installed sub
      else (a.installed sub).discarded sub.topic).recorded sub)

/-- **One topic of a `sub` line.**  The handler is made, then the answer of the broker decides. -/
theorem subscribeTopic_run (qos : Int) (c : Chain) (topic : String) (s : Session) :
    (subscribeTopic qos c topic).run s = match (createHandler topic c).run s with
      | (.ok handler, s₁) => s₁.concluded ⟨topic, qos, handler⟩
      | (.error e, s₁) => (.error e, s₁) := by
  rw [subscribeTopic, run_bind]
  cases (createHandler topic c).run s with
  | mk r s₁ =>
    cases r with
    | error e => rfl
    | ok handler =>
      simp only [run_bind, run_tryCatch, installHandler_run, concluded]
      cases s₁.answerTo (.subscribe topic qos) with
      | none =>
        by_cases hm : handler.mode = .longTerm
        · simp only [hm, ne_eq, not_true_eq_false, if_false, if_true]
          rfl
        · simp only [hm, ne_eq, not_false_eq_true, if_true, if_false, run_bind, discardLongTerm_run]
          rfl
      | some r =>
        cases r with
        | unexpected m => rfl
        | refused m =>
          by_cases hm : handler.mode = .longTerm
          · simp only [Fault.ofRefusal, hm, if_true, run_bind, discardLongTerm_run]
            rfl
          · simp only [Fault.ofRefusal, hm, if_false]
            rfl

/-- **One topic of an `unsub` line.**  The background pipeline is taken out whatever the broker answers. -/
theorem unsubscribeTopic_run (topic : String) (s : Session) :
    (unsubscribeTopic topic).run s = match s.answerTo (.unsubscribe topic) with
      | some r => (.error (.ofRefusal r), (s.discarded topic).asked (.unsubscribe topic))
      | none => (.ok (), ((s.discarded topic).asked (.unsubscribe topic)).forgotten topic) := by
  have ha : (s.discarded topic).answerTo (.unsubscribe topic) = s.answerTo (.unsubscribe topic) := by
    simp only [answerTo, discarded_broker]
  simp only [unsubscribeTopic, run_bind, discardLongTerm_run, callBroker_run, ha]
  cases s.answerTo (.unsubscribe topic) <;> rfl

/-! ## One topic after the other -/

section Topics

variable (act : String → Act Unit)

/-- Handles a topic that is not the last one. -/
def followed (topic : String) : Act Unit := do
  act topic
  elapse

theorem followed_run (topic : String) (s : Session) :
    (followed act topic).run s = match (act topic).run s with
      | (.ok _, s₁) => (.ok (), s₁.elapsed)
      | (.error e, s₁) => (.error e, s₁) := by
  rw [followed, run_bind]
  cases (act topic).run s with
  | mk r s₁ => cases r <;> rfl

theorem inTurn_run_singleton (topic : String) (s : Session) : (inTurn act [topic]).run s = (act topic).run s := by
  rw [inTurn, run_bind]
  cases (act topic).run s with
  | mk r s₁ => cases r <;> rfl

theorem inTurn_run_cons_cons (topic next : String) (rest : List String) (s : Session) :
    (inTurn act (topic :: next :: rest)).run s = match (followed act topic).run s with
      | (.ok _, s₁) => (inTurn act (next :: rest)).run s₁
      | (.error e, s₁) => (.error e, s₁) := by
  rw [inTurn, run_bind, followed_run]
  cases (act topic).run s with
  | mk r s₁ =>
    cases r with
    | error e => rfl
    | ok u =>
      have htime : (do elapse; act next : Act Unit).run s₁ = (act next).run s₁.elapsed := rfl
      simp only [run_forM_cons, htime, inTurn, run_bind]
      cases (act next).run s₁.elapsed with
      | mk r s₂ => cases r <;> rfl

/-- The last topics are come to when none before them fails. -/
theorem inTurn_run_append (before : List String) (topic : String) (after : List String) (s : Session) :
    (inTurn act (before ++ topic :: after)).run s = match (before.forM (followed act)).run s with
      | (.ok _, s₁) => (inTurn act (topic :: after)).run s₁
      | (.error e, s₁) => (.error e, s₁) := by
  induction before generalizing s with
  | nil => rfl
  | cons first before ih =>
    obtain ⟨next, rest, hrest⟩ : ∃ next rest, before ++ topic :: after = next :: rest := by
      cases before with
      | nil => exact ⟨topic, after, rfl⟩
      | cons next before => exact ⟨next, _, rfl⟩
    rw [List.cons_append, hrest, inTurn_run_cons_cons, run_forM_cons]
    cases (followed act first).run s with
    | mk r s₁ =>
      cases r with
      | error e => rfl
      | ok u => exact (hrest ▸ ih s₁ : _)

/-- A topic that fails is the last one that is come to. -/
theorem inTurn_run_of_error {topic : String} {s s' : Session} {e : Fault} (after : List String)
    (h : (act topic).run s = (.error e, s')) : (inTurn act (topic :: after)).run s = (.error e, s') := by
  rw [inTurn, run_bind, h]

/-- What the action on each topic keeps, and time, going through the topics keeps. -/
theorem inTurn_keeps {P : Session → Prop} {topics : List String} {s : Session}
    (hact : ∀ topic ∈ topics, ∀ s, P s → P ((act topic).run s).2) (htime : ∀ s, P s → P s.elapsed) (hs : P s) :
    P ((inTurn act topics).run s).2 := by
  cases topics with
  | nil => exact hs
  | cons topic rest =>
    have hfirst := hact topic List.mem_cons_self s hs
    rw [inTurn, run_bind]
    cases hr : (act topic).run s with
    | mk r s₁ =>
      rw [hr] at hfirst
      cases r with
      | error e => exact hfirst
      | ok u =>
        refine run_forM_keeps (fun next hnext s hs => ?_) hfirst
        exact hact next (List.mem_cons_of_mem topic hnext) s.elapsed (htime s hs)

/-- A topic fails in the row of topics as it does alone. -/
theorem followed_error {topic : String} {e : Fault} {s s' : Session}
    (h : (followed act topic).run s = (.error e, s')) : (act topic).run s = (.error e, s') := by
  rw [followed_run] at h
  cases hr : (act topic).run s with
  | mk r s₁ =>
    rw [hr] at h
    cases r <;> cases h
    rfl

/-- A fault that ends the way through topics comes from one of them; all before it went well. -/
theorem exists_of_inTurn_error {topics : List String} {e : Fault} {s s' : Session}
    (h : (inTurn act topics).run s = (.error e, s')) :
    ∃ before topic after s₁, topics = before ++ topic :: after ∧
      (before.forM (followed act)).run s = (.ok (), s₁) ∧ (act topic).run s₁ = (.error e, s') := by
  induction topics generalizing s with
  | nil => cases h
  | cons topic rest ih =>
    cases rest with
    | nil => exact ⟨[], topic, [], s, rfl, rfl, (inTurn_run_singleton act topic s).symm.trans h⟩
    | cons next rest =>
      rw [inTurn_run_cons_cons] at h
      cases hr : (followed act topic).run s with
      | mk r s₁ =>
        rw [hr] at h
        cases r with
        | error e' =>
          cases h
          exact ⟨[], topic, next :: rest, s, rfl, rfl, followed_error act hr⟩
        | ok u =>
          obtain ⟨before, other, after, s₂, hrest, hbefore, hother⟩ := ih h
          refine ⟨topic :: before, other, after, s₂, by rw [hrest, List.cons_append], ?_, hother⟩
          rw [run_forM_cons, hr]
          exact hbefore

end Topics

/-! ## The action on a record -/

/-- The report on a subscription that the broker does not renew. -/
def renewalReport (r : Subscription) (refusal : Refusal) : String :=
  "unable to re-subscribe " ++ r.topic ++ ": " ++ refusal.message ++ "\n"

/-- **One record of a reconnection.**  The handler is put in place again, or a refusal is reported. -/
theorem reinstall_run (r : Subscription) (s : Session) :
    (reinstall r).run s = match s.answerTo r.call with
      | none => (.ok (), (s.asked r.call).installed r)
      | some (.refused m) => (.ok (), (s.asked r.call).noted (.wrote (renewalReport r (.refused m))))
      | some (.unexpected m) => (.error (.unexpected m), s.asked r.call) := by
  simp only [reinstall, run_tryCatch, installHandler_run, Subscription.call]
  cases s.answerTo (.subscribe r.topic r.qos) with
  | none => rfl
  | some refusal => cases refusal <;> rfl

end Session

end TopicShell
