import TopicShell.Broker.Client
import TopicShell.Proofs.Entries
import TopicShell.Proofs.Running

/-!
# What the actions of a connection do

The actions of a connection change its workers, its table of deliveries and the callbacks of the client.  This
file names the single changes (`started`, `reworked`, `routed`, `dropped`) and says for each action what it
leaves behind, in the lemmas named `_run`; proofs about connections cite these and do not open the
actions again.  What the network does with a request comes down to `Exchange.result`, whatever other requests
are still waiting (`conclude_run`).
-/

namespace TopicShell.Broker

variable {η : Type}

/-! ## Workers -/

namespace Delivery

/-- The messages to come go to another handler. -/
def handing (handler : η) (d : Delivery η) : Delivery η :=
  { d with handler }

@[simp]
theorem topic_put (d : Delivery η) (m : Message) : (d.put m).topic = d.topic := rfl

@[simp]
theorem topic_stop (d : Delivery η) : d.stop.topic = d.topic := rfl

@[simp]
theorem topic_step (d : Delivery η) : d.step.topic = d.topic := by
  unfold step
  split
  · rfl
  · split <;> rfl

@[simp]
theorem stops_put (d : Delivery η) (m : Message) : (d.put m).stops = d.stops := by
  show (d.queue ++ [QueueItem.message m]).count QueueItem.stop + _ = _
  rw [List.count_append]
  rfl

@[simp]
theorem stops_stop (d : Delivery η) : d.stop.stops = d.stops + 1 := by
  show (d.queue ++ [QueueItem.stop]).count QueueItem.stop + (if d.ended then 1 else 0) = _
  rw [List.count_append, List.count_singleton_self, stops]
  omega

/-- A request to stop stays counted when the worker comes to it. -/
@[simp]
theorem stops_step (d : Delivery η) : d.step.stops = d.stops := by
  unfold step
  split
  · rfl
  · rename_i h
    split
    · rfl
    · rename_i rest hq
      simp [stops, hq, h]
    · rename_i m rest hq
      simp [stops, hq, h]

/-- Messages that are put in change neither the topic nor the requests to stop. -/
theorem putAll_keeps {β : Type} (view : Delivery η → β) (h : ∀ d m, view (d.put m) = view d)
    (messages : List Message) (d : Delivery η) : view (messages.foldl put d) = view d := by
  induction messages generalizing d with
  | nil => rfl
  | cons m messages ih => exact (ih (d.put m)).trans (h d m)

end Delivery

/-! ## Exchanges -/

/-- How the wait for an acknowledgement ends, given the one that came in time, if one did. -/
def conclusion (action : String) : Option (List ReasonCode) → Except String Unit
  | none => .error ("timeout while waiting for " ++ action ++ " acknowledgement")
  | some codes =>
    match failureText codes with
    | none => .ok ()
    | some text => if text.isEmpty then .ok () else .error text

theorem Waits.outcome_of_waiting {w : Waits} {position : Nat} (h : w.all[position]? = some .waiting)
    (action : String) : w.outcome position action = conclusion action none := by
  rw [Waits.outcome, h]
  rfl

theorem Waits.outcome_of_answered {w : Waits} {position : Nat} {codes : List ReasonCode}
    (h : w.all[position]? = some (.answered (failureText codes))) (action : String) :
    w.outcome position action = conclusion action (some codes) := by
  simp only [Waits.outcome, h, conclusion]
  cases failureText codes <;> rfl

namespace Exchange

/-- How a request ends for the one who makes it. -/
def result (action : String) (e : Exchange) : Except ConnectionError Unit :=
  match e.response with
  | .failed text => .error (.unexpected text)
  | .rejected code => .error (.refused (resultText code))
  | .accepted _ => (conclusion action e.acknowledgement).mapError .refused

/-- The waits of a connection after a request. -/
def waits (e : Exchange) (w : Waits) : Waits :=
  match e.response with
  | .accepted number =>
    match e.acknowledgement with
    | none => (w.register number).2
    | some codes => (w.register number).2.resolve number codes
  | _ => w

/-- A request that is not done is refused, unless the client fails. -/
theorem result_cases (action : String) (e : Exchange) :
    e.result action = .ok () ∨ (∃ text, e.result action = .error (.refused text)) ∨
      ∃ text, e.result action = .error (.unexpected text) ∧ e.response = .failed text := by
  unfold result
  cases e.response with
  | failed text => exact .inr (.inr ⟨text, rfl, rfl⟩)
  | rejected code => exact .inr (.inl ⟨_, rfl⟩)
  | accepted number =>
    cases conclusion action e.acknowledgement with
    | ok u => exact .inl rfl
    | error text => exact .inr (.inl ⟨text, rfl⟩)

end Exchange

namespace Connection

/-! ## Single changes -/

/-- The client has been called. -/
def called (c : ClientCall) (s : Connection η) : Connection η :=
  { s with calls := s.calls ++ [c] }

/-- The waits have changed. -/
def waited (w : Waits) (s : Connection η) : Connection η :=
  { s with waits := w }

/-- One worker has changed, at its place. -/
def reworked (position : Nat) (f : Delivery η → Delivery η) (s : Connection η) : Connection η :=
  { s with workers := s.workers.modify position f }

/-- A delivery has been started for a topic. -/
def started (topic : String) (handler : η) (s : Connection η) : Connection η :=
  { s with
    workers := s.workers ++ [{ topic, handler }]
    deliveries := s.deliveries ++ [(topic, s.workers.length)] }

/-- The callback of a topic leads to the worker at a position. -/
def routed (topic : String) (position : Nat) (s : Connection η) : Connection η :=
  { s with callbacks := (topic, position) :: s.callbacks.filter (·.1 != topic) }

/-- A topic has neither a delivery nor a callback any more. -/
def cleared (topic : String) (s : Connection η) : Connection η :=
  { s with
    callbacks := s.callbacks.filter (·.1 != topic)
    deliveries := s.deliveries.filter (·.1 != topic) }

/-- The delivery of a topic has been taken out and told to stop, if there was one. -/
def dropped (topic : String) (s : Connection η) : Connection η :=
  match s.deliveries.lookup topic with
  | some position => (s.cleared topic).reworked position .stop
  | none => s.cleared topic

/-- What `subscribe` has changed when the client is asked: the worker has the new handler, and the callback
leads to it. -/
def requested (topic : String) (qos : Int) (handler : η) (position : Nat) (s : Connection η) :
    Connection η :=
  (((s.reworked position (.handing handler)).called (.addCallback topic)).routed topic position).called
    (.subscribe topic qos)

/-! ## Actions -/

theorem dropDelivery_run (topic : String) (s : Connection η) :
    (dropDelivery topic).run s = (.ok (), (s.called (.removeCallback topic)).dropped topic) := by
  have hd : (s.called (.removeCallback topic)).deliveries = s.deliveries := rfl
  simp only [dropDelivery, call, run_bind, run_get, run_modify, dropped, hd]
  cases s.deliveries.lookup topic <;> rfl

theorem deliveryOf_run (topic : String) (handler : η) (s : Connection η) :
    (deliveryOf topic handler).run s = match s.deliveries.lookup topic with
      | some p => (.ok (p, true), s)
      | none => (.ok (s.workers.length, false), s.started topic handler) := by
  simp only [deliveryOf, run_bind, run_get]
  cases s.deliveries.lookup topic <;> rfl

/-- The wait that a request has begun ends by its own acknowledgement, or by the time that is up. -/
theorem outcome_waits {e : Exchange} {number : Nat} (h : e.response = .accepted number) (w : Waits)
    (action : String) :
    (e.waits w).outcome w.all.length action = conclusion action e.acknowledgement := by
  simp only [Exchange.waits, h]
  cases e.acknowledgement with
  | none => exact Waits.outcome_of_waiting List.getElem?_concat_length action
  | some codes =>
    refine Waits.outcome_of_answered ?_ action
    simp only [Waits.register, Waits.resolve, Waits.without, Waits.answer, List.lookup_cons, beq_self_eq_true,
      List.getElem?_set, List.length_append, List.length_singleton, Nat.lt_succ_self, if_true]

/-- **A request.**  How it ends depends on the client and on its own acknowledgement alone. -/
theorem conclude_run (action : String) (e : Exchange) (s : Connection η) :
    (conclude action e).run s = (e.result action, s.waited (e.waits s.waits)) := by
  cases h : e.response with
  | failed text =>
    simp only [conclude, Exchange.result, Exchange.waits, h]
    rfl
  | rejected code =>
    simp only [conclude, Exchange.result, Exchange.waits, h]
    rfl
  | accepted number =>
    have hrun : (conclude action e).run s =
        (((e.waits s.waits).outcome s.waits.all.length action).mapError .refused,
          s.waited (e.waits s.waits)) := by
      simp only [conclude, h, run_bind, run_get, run_modify, Exchange.waits]
      cases e.acknowledgement with
      | none =>
        dsimp only [Waits.register]
        cases Waits.outcome _ s.waits.all.length action <;> rfl
      | some codes =>
        dsimp only [Waits.register]
        cases Waits.outcome _ s.waits.all.length action <;> rfl
    rw [hrun, outcome_waits h, Exchange.result, h]

/-- **A subscription to a topic that has a delivery.**  When it is refused the old handler is back. -/
theorem subscribe_run_known {topic : String} {s : Connection η} {p : Nat}
    (h : s.deliveries.lookup topic = some p) (qos : Int) (handler : η) (e : Exchange) :
    (subscribe topic qos handler e).run s =
      let s' := (s.requested topic qos handler p).waited (e.waits s.waits)
      let previous := ((s.workers[p]?).map (·.handler)).getD handler
      match e.result "subscribe" with
      | .error (.refused text) => (.error (.refused text), s'.reworked p (.handing previous))
      | r => (r, s') := by
  simp only [subscribe, run_bind, deliveryOf_run, h, run_get, modifyWorker, call, run_modify,
    run_tryCatch, conclude_run]
  cases e.result "subscribe" with
  | ok u => rfl
  | error cause => cases cause <;> rfl

/-- **A subscription to a topic without a delivery.**  One is started; when the subscription is refused it is
dropped again. -/
theorem subscribe_run_new {topic : String} {s : Connection η} (h : s.deliveries.lookup topic = none)
    (qos : Int) (handler : η) (e : Exchange) :
    (subscribe topic qos handler e).run s =
      let s' := ((s.started topic handler).requested topic qos handler s.workers.length).waited
        (e.waits s.waits)
      match e.result "subscribe" with
      | .error (.refused text) =>
        (.error (.refused text), (s'.called (.removeCallback topic)).dropped topic)
      | r => (r, s') := by
  simp only [subscribe, run_bind, deliveryOf_run, h, run_get, modifyWorker, call, run_modify,
    run_tryCatch, conclude_run]
  cases e.result "subscribe" with
  | ok u => rfl
  | error cause =>
    cases cause with
    | refused text =>
      simp only [Bool.false_eq_true, if_false, run_bind, dropDelivery_run]
      rfl
    | _ => rfl

theorem unsubscribe_run (topic : String) (e : Exchange) (s : Connection η) :
    (unsubscribe topic e).run s =
      let s' := (s.called (.unsubscribe topic)).waited (e.waits s.waits)
      match e.result "unsubscribe" with
      | .ok () => (.ok (), (s'.called (.removeCallback topic)).dropped topic)
      | r => (r, s') := by
  simp only [unsubscribe, call, run_bind, run_modify, conclude_run]
  cases e.result "unsubscribe" with
  | error cause => rfl
  | ok u => exact dropDelivery_run topic _

/-- Messages for a callback are put into the queue of the worker it leads to. -/
theorem receive_run (filter : String) (messages : List Message) (s : Connection η) :
    ((receive filter messages).run s).2 = match s.callbacks.lookup filter with
      | none => s
      | some p => s.reworked p fun d => messages.foldl Delivery.put d := by
  simp only [receive, run_bind, run_get]
  cases s.callbacks.lookup filter <;> rfl

end Connection

end TopicShell.Broker
