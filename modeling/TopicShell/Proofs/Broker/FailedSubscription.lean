import TopicShell.Proofs.Broker.Workers

/-!
# Subscriptions that fail

A subscription changes the delivery of its topic and the callback of the client before the client is asked.  When
it fails this should be undone (`Undone`): the table of deliveries, the handlers and the topics with a
callback are as before, and a worker that was started is told to stop.  It is undone whenever the network
refuses the subscription while the connection is open.  Two ways to fail are left
(`failed_subscription_undone_iff`): when the client itself fails nothing is taken back, and after the end of the
connection a refusal takes out a callback that had been there before.
-/

namespace TopicShell.Broker

namespace Exchange

/-- The client itself fails at the request. -/
def Fails (e : Exchange) : Prop :=
  ∃ text, e.response = .failed text

theorem not_fails_of_refused {e : Exchange} {action text : String}
    (h : e.result action = .error (.refused text)) : ¬ e.Fails := by
  rintro ⟨text', hf⟩
  rw [result, hf] at h
  cases h

end Exchange

namespace Connection

variable {η : Type}

/-! ## Undoing -/

/-- The handler of each worker. -/
def handlers (s : Connection η) : List η :=
  s.workers.map (·.handler)

/-- What a failed subscription leaves behind, as it should be: the table has the same workers, these have the
same handlers, the same topics have a callback, and workers that have been started are told to stop. -/
structure Undone (s s' : Connection η) : Prop where
  entries : s'.deliveries = s.deliveries
  handlers : s.handlers <+: s'.handlers
  covered : ∀ topic : String, (s'.callbacks.lookup topic).isSome = (s.callbacks.lookup topic).isSome
  created : ∀ d ∈ s'.workers.drop s.workers.length, 0 < d.stops

/-- A failed subscription to the topic can be undone as it stands.  If there is a delivery, the client has not
failed, or the handler in place is the new one already; if there is none, the client has not failed, and there
is no callback either. -/
def Reversible (s : Connection η) (topic : String) (handler : η) (e : Exchange) : Prop :=
  match s.deliveries.lookup topic with
  | some p => e.Fails → s.handlers[p]? = some handler
  | none => ¬ e.Fails ∧ s.callbacks.lookup topic = none

/-- All that a subscription to a topic with a delivery has changed in the end is the handler of that delivery:
it is undone exactly if that is the handler it had. -/
theorem undone_iff_of_handing {s s' : Connection η} (hs : s.Accounted) {topic : String} {p : Nat}
    (hl : s.deliveries.lookup topic = some p) (handler : η) (hd : s'.deliveries = s.deliveries)
    (hc : s'.callbacks = (s.routed topic p).callbacks)
    (hw : s'.workers = s.workers.modify p (.handing handler)) :
    Undone s s' ↔ s.handlers[p]? = some handler := by
  have hh : s'.handlers = s.handlers.modify p fun _ => handler := by
    rw [handlers, hw]
    exact map_modify (·.handler) (f := .handing handler) (g := fun _ => handler) (fun _ => rfl) p s.workers
  constructor
  · intro h
    have heq : s.handlers = s'.handlers :=
      h.handlers.eq_of_length (by rw [hh, List.length_modify])
    obtain ⟨d, hp, _⟩ := hs.listed.worker (mem_of_lookup hl)
    have hold : s.handlers[p]? = some d.handler := by
      rw [handlers, List.getElem?_map, hp]
      rfl
    rw [heq, hh, List.getElem?_modify_eq, hold]
    rfl
  · intro h
    have heq : s'.handlers = s.handlers := hh.trans (modify_of_getElem? h rfl)
    refine ⟨hd, ⟨[], (List.append_nil _).trans heq.symm⟩, ?_, ?_⟩
    · intro other
      rw [hc]
      show (((topic, p) :: s.callbacks.filter (·.1 != topic)).lookup other).isSome = _
      by_cases ho : other = topic
      · subst ho
        rw [List.lookup_cons, beq_self_eq_true, hs.routed other p hl]
      · rw [List.lookup_cons, beq_false_of_ne ho, lookup_filter_of_ne ho]
    · rw [hw, List.drop_eq_nil_of_le (Nat.le_of_eq (List.length_modify _ _ _))]
      exact nofun

/-- A worker that was started has been told to stop, and the topic has no callback: it is undone exactly if
there was none before. -/
theorem undone_iff_of_dropped {s s' : Connection η} {topic : String} {d : Delivery η}
    (hd : s'.deliveries = s.deliveries) (hc : s'.callbacks = s.callbacks.filter (·.1 != topic))
    (hw : s'.workers = s.workers ++ [d]) (hstop : 0 < d.stops) :
    Undone s s' ↔ s.callbacks.lookup topic = none := by
  constructor
  · intro h
    have hcov := h.covered topic
    rw [hc, lookup_filter_ne] at hcov
    exact Option.not_isSome_iff_eq_none.mp (by rw [← hcov]; exact nofun)
  · intro h
    refine ⟨hd, ?_, ?_, ?_⟩
    · rw [handlers, handlers, hw, List.map_append]
      exact List.prefix_append _ _
    · intro other
      rw [hc, filter_of_lookup_none h]
    · rw [hw, List.drop_left]
      intro d' hd'
      rw [List.mem_singleton.mp hd']
      exact hstop

/-! ## The two kinds of topics -/

theorem undone_known_iff {s : Connection η} (hs : s.Accounted) {topic : String} {p : Nat}
    (hl : s.deliveries.lookup topic = some p) {qos : Int} {handler : η} {e : Exchange}
    {cause : ConnectionError} (h : ((subscribe topic qos handler e).run s).1 = .error cause) :
    Undone s ((subscribe topic qos handler e).run s).2 ↔ (e.Fails → s.handlers[p]? = some handler) := by
  rw [subscribe_run_known hl] at h ⊢
  rcases e.result_cases "subscribe" with hok | ⟨text, hr⟩ | ⟨text, hr, hf⟩
  · rw [hok] at h
    cases h
  · rw [hr]
    obtain ⟨d, hp, _⟩ := hs.listed.worker (mem_of_lookup hl)
    have hold : s.handlers[p]? = some d.handler := by
      rw [handlers, List.getElem?_map, hp]
      rfl
    -- the worker has the old handler again
    have hw : (s.workers.modify p (.handing handler)).modify p
        (.handing (((s.workers[p]?).map (·.handler)).getD handler))
        = s.workers.modify p (.handing d.handler) := by
      rw [List.modify_modify_eq, hp]
      rfl
    refine iff_of_true ?_ fun hf => absurd hf (Exchange.not_fails_of_refused hr)
    dsimp only
    exact Iff.mpr (undone_iff_of_handing hs hl d.handler rfl rfl hw) hold
  · rw [hr]
    dsimp only
    exact Iff.trans (undone_iff_of_handing hs hl handler rfl rfl rfl)
      ⟨fun h _ => h, fun h => h ⟨text, hf⟩⟩

/-- What is left of a delivery that was started and dropped again: the worker, which has been told to stop. -/
theorem dropped_requested_started {s : Connection η} {topic : String}
    (hl : s.deliveries.lookup topic = none) (qos : Int) (handler : η) (w : Waits) (c : ClientCall) :
    let s' := ((((s.started topic handler).requested topic qos handler s.workers.length).waited w).called
      c).dropped topic
    s'.deliveries = s.deliveries ∧ s'.callbacks = s.callbacks.filter (·.1 != topic) ∧
      ∃ d : Delivery η, s'.workers = s.workers ++ [d] ∧ d.stops = 1 := by
  refine ⟨?_, ?_, ?_⟩
  · rw [deliveries_dropped]
    show (s.deliveries ++ [(topic, s.workers.length)]).filter (·.1 != topic) = _
    rw [List.filter_append, filter_of_lookup_none hl, List.filter_cons_of_neg (by simp), List.filter_nil,
      List.append_nil]
  · rw [callbacks_dropped]
    show ((topic, s.workers.length) :: s.callbacks.filter (·.1 != topic)).filter (·.1 != topic) = _
    rw [List.filter_cons_of_neg (by simp), List.filter_filter]
    simp only [Bool.and_self]
  · refine ⟨({ topic, handler } : Delivery η).stop, ?_, rfl⟩
    unfold dropped
    rw [show (called c (waited w (requested topic qos handler s.workers.length
      (started topic handler s)))).deliveries.lookup topic = some s.workers.length
      from lookup_started hl handler]
    show ((s.workers ++ [({ topic, handler } : Delivery η)]).modify s.workers.length
      (.handing handler)).modify s.workers.length .stop = _
    rw [modify_concat, modify_concat]
    rfl

theorem undone_new_iff {s : Connection η} {topic : String} (hl : s.deliveries.lookup topic = none)
    {qos : Int} {handler : η} {e : Exchange} {cause : ConnectionError}
    (h : ((subscribe topic qos handler e).run s).1 = .error cause) :
    Undone s ((subscribe topic qos handler e).run s).2
      ↔ ¬ e.Fails ∧ s.callbacks.lookup topic = none := by
  rw [subscribe_run_new hl] at h ⊢
  rcases e.result_cases "subscribe" with hok | ⟨text, hr⟩ | ⟨text, hr, hf⟩
  · rw [hok] at h
    cases h
  · rw [hr, and_iff_right (Exchange.not_fails_of_refused hr)]
    obtain ⟨hd, hc, d, hw, hstop⟩ := dropped_requested_started hl qos handler (e.waits s.waits)
      (.removeCallback topic)
    dsimp only
    exact undone_iff_of_dropped hd hc hw (Nat.lt_of_lt_of_eq Nat.zero_lt_one hstop.symm)
  · rw [hr]
    dsimp only
    refine iff_of_false ?_ fun h => h.1 ⟨text, hf⟩
    intro h
    -- the entry that was made is still there
    have hentry := lookup_started hl handler
    rw [show (s.started topic handler).deliveries = s.deliveries from h.entries, hl] at hentry
    cases hentry

theorem Accounted.undone_iff {s : Connection η} (hs : s.Accounted) {topic : String} {qos : Int}
    {handler : η} {e : Exchange} {cause : ConnectionError}
    (h : ((Connection.subscribe topic qos handler e).run s).1 = .error cause) :
    Undone s ((Connection.subscribe topic qos handler e).run s).2 ↔ s.Reversible topic handler e := by
  unfold Reversible
  cases hl : s.deliveries.lookup topic with
  | some p => exact undone_known_iff hs hl h
  | none => exact undone_new_iff hl h

/-! ## Before the end of the connection -/

/-- A topic without a delivery has no callback. -/
def Attended (s : Connection η) : Prop :=
  ∀ topic : String, s.deliveries.lookup topic = none → s.callbacks.lookup topic = none

theorem Attended.dropped {s : Connection η} (hs : s.Attended) (topic : String) :
    (s.dropped topic).Attended := by
  intro other h
  rw [deliveries_dropped] at h
  rw [callbacks_dropped]
  by_cases ho : other = topic
  · rw [ho, lookup_filter_ne]
  · rw [lookup_filter_of_ne ho] at h ⊢
    exact hs other h

/-- A callback is set for a topic that has a delivery; the others may be as they were. -/
theorem Attended.routed {s : Connection η} {topic : String} {p : Nat}
    (hl : s.deliveries.lookup topic = some p)
    (hothers : ∀ other, other ≠ topic → s.deliveries.lookup other = none →
      s.callbacks.lookup other = none) : (s.routed topic p).Attended := by
  intro other h
  show ((topic, p) :: s.callbacks.filter (·.1 != topic)).lookup other = none
  have ho : other ≠ topic := by
    rintro rfl
    have h' := h.symm.trans hl
    cases h'
  rw [List.lookup_cons, beq_false_of_ne ho, lookup_filter_of_ne ho]
  exact hothers other ho h

theorem Attended.subscribe {s : Connection η} (hs : s.Attended) (topic : String) (qos : Int)
    (handler : η) (e : Exchange) : ((subscribe topic qos handler e).run s).2.Attended := by
  cases hl : s.deliveries.lookup topic with
  | some p =>
    have hr : (s.routed topic p).Attended := .routed hl fun other _ => hs other
    rw [subscribe_run_known hl]
    dsimp only
    split <;> exact hr
  | none =>
    have hr : ((s.started topic handler).routed topic s.workers.length).Attended := by
      refine .routed (lookup_started hl handler) fun other ho h => ?_
      rw [lookup_started_of_ne ho] at h
      exact hs other h
    rw [subscribe_run_new hl]
    dsimp only
    split
    · refine Attended.dropped ?_ topic
      exact hr
    · exact hr

theorem Attended.unsubscribe {s : Connection η} (hs : s.Attended) (topic : String) (e : Exchange) :
    ((Connection.unsubscribe topic e).run s).2.Attended := by
  rw [unsubscribe_run]
  dsimp only
  split
  · refine Attended.dropped ?_ topic
    exact hs
  · exact hs

theorem Attended.aside {s : Connection η} (hs : s.Attended) {α : Type} {a : Act η α} (ha : Aside a) :
    (a.run s).2.Attended := by
  obtain ⟨_, hd, hc⟩ := ha s
  intro topic h
  rw [hd] at h
  rw [hc]
  exact hs topic h

theorem Attended.apply {s : Connection η} (hs : s.Attended) {m : Move η} (hm : m ≠ .close) :
    (m.apply s).Attended := by
  cases m with
  | connect failure code listener => exact hs.aside (.connect failure code listener)
  | connected code listener => exact hs.aside (.onConnect code listener)
  | disconnected => exact hs.aside .onDisconnect
  | publish topic payload qos retained outcome =>
    exact hs.aside (.publish topic payload qos retained outcome)
  | subscribe topic qos handler e => exact hs.subscribe topic qos handler e
  | unsubscribe topic e => exact hs.unsubscribe topic e
  | acknowledgement number codes => exact hs
  | messages filter row =>
    show ((receive filter row).run s).2.Attended
    rw [receive_run]
    split <;> exact hs
  | work p => exact hs
  | close => exact absurd rfl hm

theorem Attended.run {s : Connection η} (hs : s.Attended) {ms : List (Move η)}
    (hms : ∀ m ∈ ms, m ≠ .close) : (run ms s).Attended := by
  induction ms generalizing s with
  | nil => exact hs
  | cons m ms ih =>
    exact ih (hs.apply (hms m List.mem_cons_self)) fun m' hm' => hms m' (List.mem_cons_of_mem m hm')

/-! ## Failed subscriptions -/

/-- **Exactly the reversible subscriptions are undone when they fail.**  Whatever a connection has gone through,
a subscription that fails leaves the table, the handlers, the topics with a callback and the workers as they
should be if and only if it is reversible.  Before the end of the connection, each one that the network
refuses is undone. -/
theorem failed_subscription_undone_iff (a : Address) (c : Credentials) (ms : List (Move η))
    (topic : String) (qos : Int) (handler : η) (e : Exchange) (cause : ConnectionError)
    (h : ((subscribe topic qos handler e).run (run ms (fresh a c))).1 = .error cause) :
    let s := run ms (fresh a c)
    let s' := ((subscribe topic qos handler e).run s).2
    (Undone s s' ↔ s.Reversible topic handler e) ∧
      ((∀ m ∈ ms, m ≠ .close) → ¬ e.Fails → Undone s s') := by
  intro s s'
  have hs : s.Accounted := (fresh_accounted a c).run ms
  have hiff : Undone s s' ↔ s.Reversible topic handler e := hs.undone_iff h
  refine ⟨hiff, ?_⟩
  intro hopen he
  have hatt : s.Attended := Attended.run (fun _ _ => rfl) hopen
  rw [hiff, Reversible]
  split
  · exact fun hf => absurd hf he
  · rename_i hl
    exact ⟨he, hatt topic hl⟩

/-- A second subscription to a topic is refused: the first handler stays. -/
theorem refused_again_undone :
    let a : Address := { scheme := .tcp, host := "h", port := 1883 }
    let s := run [.subscribe "t" 0 "first" ⟨.accepted 1, some [⟨false, "Granted QoS 0"⟩]⟩] (fresh a {})
    let s' := ((subscribe "t" 0 "second" ⟨.rejected 4, none⟩).run s).2
    Undone s s' ∧ s'.handlers = ["first"] :=
  ⟨(failed_subscription_undone_iff _ _ [.subscribe "t" 0 "first" _] "t" 0 "second" _
    (.refused "The client is not currently connected.") (by decide)).2 (by simp)
    (by rintro ⟨text, h⟩; cases h), by decide⟩

/-- What is not undone: the client fails at a topic that it does not take, so that the delivery stays; and a
subscription is refused after the end, so that a topic loses its callback. -/
theorem left_behind :
    let a : Address := { scheme := .tcp, host := "h", port := 1883 }
    (let s : Connection String := fresh a {}
      let (r, s') := (subscribe "a/#/b" 0 "h" ⟨.failed "Invalid subscription filter.", none⟩).run s
      r = .error (.unexpected "Invalid subscription filter.") ∧
        s'.deliveries = [("a/#/b", 0)] ∧ ¬ Undone s s') ∧
    (let s := run [.subscribe "t" 0 "h" ⟨.accepted 1, some [⟨false, "Granted QoS 0"⟩]⟩, .close] (fresh a {})
      let (r, s') := (subscribe "t" 0 "h" ⟨.rejected 4, none⟩).run s
      r = .error (.refused "The client is not currently connected.") ∧
        s.callbacks = [("t", 0)] ∧ s'.callbacks = [] ∧ ¬ Undone s s') := by
  refine ⟨⟨by decide, by decide, fun h => ?_⟩, by decide, by decide, by decide, fun h => ?_⟩
  · exact absurd h.entries (by decide)
  · exact absurd (h.covered "t") (by decide)

end Connection

end TopicShell.Broker
