import TopicShell.Proofs.Broker.Actions
import Mathlib.Data.List.Nodup

/-!
# Every worker is accounted for

A worker is started for a topic, and stands in the table of deliveries until it is told to stop.  `Accounted`
says that the table, the requests to stop and the callbacks of the client agree: the workers that have not been
told to stop are those in the table, each under its own topic, all others have been told once, and the
callback of a topic in the table leads to the worker that stands there.  Each single change keeps this, and
so does a run of moves (`Accounted.run`), whatever the network does with the requests.
-/

namespace TopicShell.Broker.Connection

variable {η : Type}

/-! ## Runs -/

/-- What can happen to a connection; what the network does with a request comes with it.  A worker takes one
step at a time, at any moment. -/
inductive Move (η : Type) where
  | connect (failure : Option String) (code : Option ReasonCode) (listener : Bool)
  | connected (code : ReasonCode) (listener : Bool)
  | disconnected
  | publish (topic payload : String) (qos : Int) (retained : Bool) (outcome : Publishing)
  | subscribe (topic : String) (qos : Int) (handler : η) (exchange : Exchange)
  | unsubscribe (topic : String) (exchange : Exchange)
  | acknowledgement (number : Nat) (codes : List ReasonCode)
  | messages (filter : String) (row : List Message)
  | work (position : Nat)
  | close

def Move.apply : Move η → Connection η → Connection η
  | .connect failure code listener, s => ((Connection.connect failure code listener).run s).2
  | .connected code listener, s => ((onConnect code listener).run s).2
  | .disconnected, s => (onDisconnect.run s).2
  | .publish topic payload qos retained outcome, s =>
    ((Connection.publish topic payload qos retained outcome).run s).2
  | .subscribe topic qos handler e, s => ((Connection.subscribe topic qos handler e).run s).2
  | .unsubscribe topic e, s => ((Connection.unsubscribe topic e).run s).2
  | .acknowledgement number codes, s => ((acknowledge number codes).run s).2
  | .messages filter row, s => ((receive filter row).run s).2
  | .work position, s => s.reworked position .step
  | .close, s => (Connection.close.run s).2

/-- The connection after a row of moves. -/
def run (ms : List (Move η)) (s : Connection η) : Connection η :=
  ms.foldl (fun s m => m.apply s) s

/-- A connection whose client has just been set up. -/
def fresh (a : Address) (c : Credentials) : Connection η :=
  { address := a, calls := setup a c }

/-! ## Agreement -/

/-- The topic of each worker, and how often it has been told to stop. -/
def standing (s : Connection η) : List (String × Nat) :=
  s.workers.map fun d => (d.topic, d.stops)

/-- The table of deliveries has the workers that have not been told to stop, and none has been told twice. -/
structure Listed (s : Connection η) : Prop where
  nodup : (s.deliveries.map Prod.fst).Nodup
  current : ∀ (topic : String) (p : Nat), (topic, p) ∈ s.deliveries ↔ s.standing[p]? = some (topic, 0)
  once : ∀ (topic : String) (p n : Nat), s.standing[p]? = some (topic, n) → n ≤ 1

/-- The callback of a topic that has a delivery leads to it. -/
def Routed (s : Connection η) : Prop :=
  ∀ (topic : String) (p : Nat),
    s.deliveries.lookup topic = some p → s.callbacks.lookup topic = some p

structure Accounted (s : Connection η) : Prop where
  listed : s.Listed
  routed : s.Routed

theorem Listed.lookup_iff {s : Connection η} (hs : s.Listed) {topic : String} {p : Nat} :
    s.deliveries.lookup topic = some p ↔ s.standing[p]? = some (topic, 0) := by
  rw [← hs.current]
  exact ⟨mem_of_lookup, lookup_of_mem hs.nodup⟩

theorem Listed.of_same {s s' : Connection η} (hs : s.Listed) (hd : s'.deliveries = s.deliveries)
    (hw : s'.standing = s.standing) : s'.Listed := by
  refine ⟨?_, ?_, ?_⟩
  · rw [hd]
    exact hs.nodup
  · intro topic p
    rw [hd, hw]
    exact hs.current topic p
  · intro topic p n
    rw [hw]
    exact hs.once topic p n

/-- A worker that goes on without being told to stop looks the same. -/
theorem standing_reworked {f : Delivery η → Delivery η}
    (hf : ∀ d, ((f d).topic, (f d).stops) = (d.topic, d.stops)) (p : Nat) (s : Connection η) :
    (s.reworked p f).standing = s.standing := by
  rw [standing, reworked, map_modify _ (g := id) hf, List.modify_id]
  rfl

theorem standing_stopped (p : Nat) (s : Connection η) :
    (s.reworked p .stop).standing = s.standing.modify p fun w => (w.1, w.2 + 1) :=
  map_modify _ (fun d => by simp) p s.workers

theorem Accounted.reworked {s : Connection η} (hs : s.Accounted) {f : Delivery η → Delivery η}
    (hf : ∀ d, ((f d).topic, (f d).stops) = (d.topic, d.stops)) (p : Nat) :
    (s.reworked p f).Accounted :=
  ⟨hs.listed.of_same rfl (standing_reworked hf p s), hs.routed⟩

/-! ## Starting, routing and dropping -/

theorem standing_started (topic : String) (handler : η) (s : Connection η) :
    (s.started topic handler).standing = s.standing ++ [(topic, 0)] :=
  List.map_append

theorem Listed.started {s : Connection η} (hs : s.Listed) {topic : String}
    (h : s.deliveries.lookup topic = none) (handler : η) : (s.started topic handler).Listed := by
  have hlen : s.workers.length = s.standing.length := (List.length_map _).symm
  have hd : (s.started topic handler).deliveries = s.deliveries ++ [(topic, s.standing.length)] := by
    rw [← hlen]
    rfl
  refine ⟨?_, ?_, ?_⟩
  · rw [hd, List.map_append]
    refine List.nodup_append.mpr ⟨hs.nodup, List.nodup_singleton _, ?_⟩
    rintro t ht t' ht' rfl
    rw [List.map_singleton, List.mem_singleton] at ht'
    subst ht'
    obtain ⟨⟨t, n⟩, hmem, rfl⟩ := List.mem_map.mp ht
    rw [lookup_of_mem hs.nodup hmem] at h
    cases h
  · intro t p
    rw [hd, standing_started, List.mem_append, hs.current, List.mem_singleton, Prod.mk.injEq]
    by_cases hp : p = s.standing.length
    · subst hp
      rw [List.getElem?_concat_length, List.getElem?_eq_none (Nat.le_refl _)]
      simp [eq_comm]
    · rw [getElem?_concat_of_ne hp]
      simp [hp]
  · intro t p n
    rw [standing_started]
    by_cases hp : p = s.standing.length
    · subst hp
      rw [List.getElem?_concat_length]
      rintro ⟨⟩
      exact Nat.zero_le 1
    · rw [getElem?_concat_of_ne hp]
      exact hs.once t p n

/-- A callback is set to the delivery of its topic; the others may be as they were. -/
theorem Routed.routed {s : Connection η} {topic : String} {p : Nat}
    (h : s.deliveries.lookup topic = some p)
    (hothers : ∀ other q, other ≠ topic → s.deliveries.lookup other = some q →
      s.callbacks.lookup other = some q) : (s.routed topic p).Routed := by
  intro other q hq
  show ((topic, p) :: s.callbacks.filter (·.1 != topic)).lookup other = _
  by_cases ho : other = topic
  · subst ho
    rw [List.lookup_cons, beq_self_eq_true]
    exact h.symm.trans hq
  · rw [List.lookup_cons, beq_false_of_ne ho, lookup_filter_of_ne ho]
    exact hothers other q ho hq

theorem Listed.dropped {s : Connection η} (hs : s.Listed) (topic : String) :
    (s.dropped topic).Listed := by
  unfold Connection.dropped
  cases hl : s.deliveries.lookup topic with
  | none => exact hs.of_same (filter_of_lookup_none hl) rfl
  | some p =>
    have hp : s.standing[p]? = some (topic, 0) := hs.lookup_iff.mp hl
    have hw : ((s.cleared topic).reworked p .stop).standing
        = s.standing.modify p fun w => (w.1, w.2 + 1) := standing_stopped p (s.cleared topic)
    have hd : ((s.cleared topic).reworked p .stop).deliveries = s.deliveries.filter (·.1 != topic) := rfl
    refine ⟨?_, ?_, ?_⟩
    · rw [hd]
      exact hs.nodup.sublist (List.filter_sublist.map Prod.fst)
    · intro t q
      rw [hd, hw, List.mem_filter, hs.current, bne_iff_ne]
      by_cases hq : p = q
      · -- the worker that is told to stop
        subst hq
        rw [List.getElem?_modify_eq, hp]
        constructor
        · rintro ⟨h, hne⟩
          cases h
          exact absurd rfl hne
        · intro h
          cases h
      · rw [List.getElem?_modify_ne _ _ hq]
        constructor
        · exact And.left
        · intro h
          refine ⟨h, ?_⟩
          rintro rfl
          rw [← hs.lookup_iff, hl] at h
          exact hq (Option.some.inj h)
    · intro t q n
      rw [hw]
      by_cases hq : p = q
      · subst hq
        rw [List.getElem?_modify_eq, hp]
        rintro ⟨⟩
        exact Nat.le_refl 1
      · rw [List.getElem?_modify_ne _ _ hq]
        exact hs.once t q n

theorem deliveries_dropped (topic : String) (s : Connection η) :
    (s.dropped topic).deliveries = s.deliveries.filter (·.1 != topic) := by
  unfold dropped
  split <;> rfl

theorem callbacks_dropped (topic : String) (s : Connection η) :
    (s.dropped topic).callbacks = s.callbacks.filter (·.1 != topic) := by
  unfold dropped
  split <;> rfl

theorem Accounted.dropped {s : Connection η} (hs : s.Accounted) (topic : String) :
    (s.dropped topic).Accounted := by
  refine ⟨hs.listed.dropped topic, ?_⟩
  intro other p hp
  rw [deliveries_dropped] at hp
  rw [callbacks_dropped]
  by_cases ho : other = topic
  · subst ho
    rw [lookup_filter_ne] at hp
    cases hp
  · rw [lookup_filter_of_ne ho] at hp ⊢
    exact hs.routed other p hp

/-! ## Closing -/

theorem forM_modifyWorker (f : Delivery η → Delivery η) (positions : List Nat) (s : Connection η) :
    (positions.forM fun p => modifyWorker p f).run s
      = (.ok (), { s with workers := positions.foldl (fun ws p => ws.modify p f) s.workers }) := by
  induction positions generalizing s with
  | nil => rfl
  | cons p positions ih =>
    rw [run_forM_cons]
    exact ih (s.reworked p f)

theorem close_run (s : Connection η) :
    (close.run s).2.workers
        = (s.deliveries.map (·.2)).foldl (fun ws p => ws.modify p .stop) s.workers ∧
      (close.run s).2.deliveries = [] ∧ (close.run s).2.callbacks = s.callbacks := by
  have h : close.run s = (.ok (),
      { s with
        closing := true
        workers := (s.deliveries.map (·.2)).foldl (fun ws p => ws.modify p .stop) s.workers
        deliveries := []
        calls := s.calls ++ [.disconnect] ++ [.stopLoop] }) := by
    simp only [close, run_bind, run_get, run_modify, forM_modifyWorker, call]
  rw [h]
  exact ⟨rfl, rfl, rfl⟩

/-- No worker stands under two topics. -/
theorem Listed.nodup_positions {s : Connection η} (hs : s.Listed) :
    (s.deliveries.map (·.2)).Nodup := by
  refine List.Nodup.map_on ?_ (List.Nodup.of_map Prod.fst hs.nodup)
  rintro ⟨t, p⟩ hp ⟨t', p'⟩ hp' rfl
  have h := (hs.current t p).mp hp
  rw [(hs.current t' p).mp hp'] at h
  cases h
  rfl

/-- **After the end each worker has been told to stop exactly once.** -/
theorem Listed.stops_of_close {s : Connection η} (hs : s.Listed) {d : Delivery η}
    (hd : d ∈ (close.run s).2.workers) : d.stops = 1 := by
  obtain ⟨p, hp⟩ := List.mem_iff_getElem?.mp hd
  rw [(close_run s).1, getElem?_foldl_modify _ hs.nodup_positions] at hp
  split at hp
  · rename_i hmem
    obtain ⟨⟨topic, p'⟩, hentry, rfl⟩ := List.mem_map.mp hmem
    have hstand := (hs.current topic p').mp hentry
    obtain ⟨d₀, hd₀, rfl⟩ := Option.map_eq_some_iff.mp hp
    rw [standing, List.getElem?_map, hd₀] at hstand
    rw [Delivery.stops_stop, (Prod.mk.inj (Option.some.inj hstand)).2]
  · rename_i hmem
    have hstand : s.standing[p]? = some (d.topic, d.stops) := by
      rw [standing, List.getElem?_map, hp]
      rfl
    have hle := hs.once _ _ _ hstand
    -- it was not in the table, so that it had been told before
    have hne : d.stops ≠ 0 := by
      intro h0
      rw [h0, ← hs.current] at hstand
      exact hmem (List.mem_map.mpr ⟨_, hstand, rfl⟩)
    omega

theorem Accounted.close {s : Connection η} (hs : s.Accounted) :
    (Connection.close.run s).2.Accounted := by
  obtain ⟨_, hd, _⟩ := close_run s
  have hstops : ∀ (topic : String) (p n : Nat),
      (Connection.close.run s).2.standing[p]? = some (topic, n) → n = 1 := by
    intro topic p n h
    rw [standing, List.getElem?_map] at h
    obtain ⟨d, hp, he⟩ := Option.map_eq_some_iff.mp h
    cases he
    exact hs.listed.stops_of_close (List.mem_of_getElem? hp)
  refine ⟨⟨?_, ?_, ?_⟩, ?_⟩
  · rw [hd]
    exact List.nodup_nil
  · intro topic p
    rw [hd]
    constructor
    · exact nofun
    · intro h
      cases hstops topic p 0 h
  · intro topic p n h
    exact Nat.le_of_eq (hstops topic p n h)
  · intro topic p h
    rw [hd] at h
    cases h

/-! ## What does not concern the workers -/

/-- The action leaves the workers, the deliveries and the callbacks alone. -/
def Aside {α : Type} (a : Act η α) : Prop :=
  ∀ s, (a.run s).2.workers = s.workers ∧ (a.run s).2.deliveries = s.deliveries ∧
    (a.run s).2.callbacks = s.callbacks

section Aside

variable {α β : Type}

theorem Aside.pure (x : α) : Aside (pure x : Act η α) := fun _ => ⟨rfl, rfl, rfl⟩

theorem Aside.throw (e : ConnectionError) : Aside (throw e : Act η α) := fun _ => ⟨rfl, rfl, rfl⟩

theorem Aside.get : Aside (get : Act η (Connection η)) := fun _ => ⟨rfl, rfl, rfl⟩

theorem Aside.call (c : ClientCall) : Aside (call c : Act η Unit) := fun _ => ⟨rfl, rfl, rfl⟩

theorem Aside.say (text : String) : Aside (say text : Act η Unit) := fun _ => ⟨rfl, rfl, rfl⟩

theorem Aside.bind {a : Act η α} {f : α → Act η β} (ha : Aside a) (hf : ∀ x, Aside (f x)) :
    Aside (a >>= f) := by
  intro s
  have hs := ha s
  rw [run_bind]
  cases h : a.run s with
  | mk r s' =>
    rw [h] at hs
    cases r with
    | error e => exact hs
    | ok x =>
      obtain ⟨hw, hd, hc⟩ := hf x s'
      exact ⟨hw.trans hs.1, hd.trans hs.2.1, hc.trans hs.2.2⟩

end Aside

theorem Aside.onConnect (code : ReasonCode) (listener : Bool) :
    Aside (onConnect code listener : Act η Unit) := by
  unfold Connection.onConnect
  split
  · exact .say _
  · refine .bind .get fun s => ?_
    split
    · exact .bind (.say _) fun _ _ => ⟨rfl, rfl, rfl⟩
    · refine .bind (.say _) fun _ => ?_
      split
      · exact fun _ => ⟨rfl, rfl, rfl⟩
      · exact .pure _

theorem Aside.onDisconnect : Aside (onDisconnect : Act η Unit) := by
  refine .bind .get fun s => ?_
  split
  · exact .pure _
  · exact .say _

theorem Aside.connect (failure : Option String) (code : Option ReasonCode) (listener : Bool) :
    Aside (connect failure code listener : Act η Unit) := by
  refine .bind .get fun s => .bind (.call _) fun _ => ?_
  -- what is left once the result of connecting is known
  have hend : Aside (do
      unless (← MonadState.get).connected do
        Connection.call .stopLoop
        MonadExcept.throw (.refused "timeout while connecting to broker") : Act η Unit) := by
    refine .bind .get fun s => ?_
    split
    · exact .pure _
    · exact .bind (.call _) fun _ => .throw _
  cases failure with
  | some text => exact fun _ => ⟨rfl, rfl, rfl⟩
  | none =>
    refine .bind (.call _) fun _ => ?_
    cases code with
    | none => exact hend
    | some code => exact .bind (.onConnect code listener) fun _ => hend

theorem Aside.publish (topic payload : String) (qos : Int) (retained : Bool) (outcome : Publishing) :
    Aside (publish topic payload qos retained outcome : Act η Unit) := by
  refine .bind (.call _) fun _ => ?_
  cases outcome with
  | done => exact .pure _
  | _ => exact .throw _

theorem Accounted.aside {s : Connection η} (hs : s.Accounted) {α : Type} {a : Act η α} (ha : Aside a) :
    (a.run s).2.Accounted := by
  obtain ⟨hw, hd, hc⟩ := ha s
  refine ⟨hs.listed.of_same hd (by rw [standing, hw]; rfl), ?_⟩
  intro topic p h
  rw [hd] at h
  rw [hc]
  exact hs.routed topic p h

/-! ## Requests -/

theorem Accounted.waited {s : Connection η} (hs : s.Accounted) (w : Waits) : (s.waited w).Accounted :=
  ⟨hs.listed.of_same rfl rfl, hs.routed⟩

theorem Accounted.called {s : Connection η} (hs : s.Accounted) (c : ClientCall) : (s.called c).Accounted :=
  ⟨hs.listed.of_same rfl rfl, hs.routed⟩

/-- Up to here the callback of the topic may have led elsewhere. -/
theorem Listed.requested {s : Connection η} (hs : s.Listed) {topic : String} {p : Nat}
    (h : s.deliveries.lookup topic = some p)
    (hothers : ∀ other q, other ≠ topic → s.deliveries.lookup other = some q →
      s.callbacks.lookup other = some q) (qos : Int) (handler : η) :
    (s.requested topic qos handler p).Accounted :=
  ⟨hs.of_same rfl (standing_reworked (f := .handing handler) (fun _ => rfl) p s),
    Routed.routed (s := s) h hothers⟩

theorem lookup_started {topic : String} {s : Connection η} (h : s.deliveries.lookup topic = none)
    (handler : η) : (s.started topic handler).deliveries.lookup topic = some s.workers.length := by
  show (s.deliveries ++ [(topic, s.workers.length)]).lookup topic = _
  rw [List.lookup_append, h, Option.none_or, List.lookup_cons, beq_self_eq_true]

theorem lookup_started_of_ne {topic other : String} (h : other ≠ topic) (handler : η)
    (s : Connection η) :
    (s.started topic handler).deliveries.lookup other = s.deliveries.lookup other := by
  show (s.deliveries ++ [(topic, s.workers.length)]).lookup other = _
  rw [List.lookup_append, List.lookup_cons, beq_false_of_ne h, List.lookup_nil, Option.or_none]

/-- The state in which the client is asked, for a topic with a delivery and for one without. -/
theorem Accounted.requested {s : Connection η} (hs : s.Accounted) {topic : String} {p : Nat}
    (h : s.deliveries.lookup topic = some p) (qos : Int) (handler : η) :
    (s.requested topic qos handler p).Accounted :=
  hs.listed.requested h (fun other q _ => hs.routed other q) qos handler

theorem Accounted.requested_started {s : Connection η} (hs : s.Accounted) {topic : String}
    (h : s.deliveries.lookup topic = none) (qos : Int) (handler : η) :
    ((s.started topic handler).requested topic qos handler s.workers.length).Accounted := by
  refine (hs.listed.started h handler).requested (lookup_started h handler) ?_ qos handler
  intro other q ho hq
  rw [lookup_started_of_ne ho] at hq
  exact hs.routed other q hq

theorem Accounted.subscribe {s : Connection η} (hs : s.Accounted) (topic : String) (qos : Int)
    (handler : η) (e : Exchange) : ((subscribe topic qos handler e).run s).2.Accounted := by
  cases h : s.deliveries.lookup topic with
  | some p =>
    have hr := (hs.requested h qos handler).waited (e.waits s.waits)
    rw [subscribe_run_known h]
    dsimp only
    split
    · exact hr.reworked (f := .handing _) (fun _ => rfl) p
    · exact hr
  | none =>
    have hr := (hs.requested_started h qos handler).waited (e.waits s.waits)
    rw [subscribe_run_new h]
    dsimp only
    split
    · exact (hr.called _).dropped topic
    · exact hr

theorem Accounted.unsubscribe {s : Connection η} (hs : s.Accounted) (topic : String) (e : Exchange) :
    ((unsubscribe topic e).run s).2.Accounted := by
  have hr := (hs.called (.unsubscribe topic)).waited (e.waits s.waits)
  rw [unsubscribe_run]
  dsimp only
  split
  · exact (hr.called _).dropped topic
  · exact hr

theorem Accounted.receive {s : Connection η} (hs : s.Accounted) (filter : String)
    (messages : List Message) : ((receive filter messages).run s).2.Accounted := by
  rw [receive_run]
  split
  · exact hs
  · refine hs.reworked ?_ _
    intro d
    rw [Delivery.putAll_keeps (·.topic) Delivery.topic_put, Delivery.putAll_keeps (·.stops) Delivery.stops_put]

/-! ## Moves and runs -/

theorem Accounted.apply {s : Connection η} (hs : s.Accounted) (m : Move η) : (m.apply s).Accounted := by
  cases m with
  | connect failure code listener => exact hs.aside (.connect failure code listener)
  | connected code listener => exact hs.aside (.onConnect code listener)
  | disconnected => exact hs.aside .onDisconnect
  | publish topic payload qos retained outcome =>
    exact hs.aside (.publish topic payload qos retained outcome)
  | subscribe topic qos handler e => exact hs.subscribe topic qos handler e
  | unsubscribe topic e => exact hs.unsubscribe topic e
  | acknowledgement number codes => exact hs.waited (s.waits.resolve number codes)
  | messages filter row => exact hs.receive filter row
  | work p => exact hs.reworked (fun d => by simp) p
  | close => exact hs.close

theorem Accounted.run {s : Connection η} (hs : s.Accounted) (ms : List (Move η)) :
    (run ms s).Accounted := by
  induction ms generalizing s with
  | nil => exact hs
  | cons m ms ih => exact ih (hs.apply m)

theorem fresh_accounted (a : Address) (c : Credentials) : (fresh a c : Connection η).Accounted :=
  ⟨⟨List.nodup_nil, fun _ _ => ⟨nofun, nofun⟩, nofun⟩, nofun⟩

/-- A worker is the entry of its topic, and has not been told to stop. -/
def InPlace (s : Connection η) (p : Nat) (d : Delivery η) : Prop :=
  s.deliveries.lookup d.topic = some p ∧ d.stops = 0

/-- A worker is the entry of no topic, and has been told to stop exactly once. -/
def SentAway (s : Connection η) (p : Nat) (d : Delivery η) : Prop :=
  (∀ topic, (topic, p) ∉ s.deliveries) ∧ d.stops = 1

theorem Listed.inPlace_or_sentAway {s : Connection η} (hs : s.Listed) {p : Nat} {d : Delivery η}
    (h : s.workers[p]? = some d) : s.InPlace p d ∨ s.SentAway p d := by
  have hstand : s.standing[p]? = some (d.topic, d.stops) := by
    rw [standing, List.getElem?_map, h]
    rfl
  have hle := hs.once _ _ _ hstand
  by_cases h0 : d.stops = 0
  · left
    rw [h0] at hstand
    exact ⟨hs.lookup_iff.mpr hstand, h0⟩
  · right
    refine ⟨?_, by omega⟩
    intro topic hmem
    rw [hs.current, hstand] at hmem
    exact h0 (Prod.mk.inj (Option.some.inj hmem)).2

theorem Listed.worker {s : Connection η} (hs : s.Listed) {topic : String} {p : Nat}
    (h : (topic, p) ∈ s.deliveries) : ∃ d, s.workers[p]? = some d ∧ d.topic = topic ∧ d.stops = 0 := by
  have hstand := (hs.current topic p).mp h
  rw [standing, List.getElem?_map] at hstand
  obtain ⟨d, hd, he⟩ := Option.map_eq_some_iff.mp hstand
  exact ⟨d, hd, (Prod.mk.inj he).1, (Prod.mk.inj he).2⟩

/-- **No worker is lost or told to stop twice.**  Whatever a connection goes through, each worker ever started
is the entry of its own topic and has not been told to stop, or is no entry and has been told exactly
once.  Messages for the callback of a topic in the table go to the worker that stands there, and to no other.
After the end every worker has been told. -/
theorem workers_accounted_for (a : Address) (c : Credentials) (ms : List (Move η)) :
    let s := run ms (fresh a c)
    (∀ (p : Nat) (d : Delivery η), s.workers[p]? = some d → s.InPlace p d ∨ s.SentAway p d) ∧
    (∀ (topic : String) (p : Nat), s.deliveries.lookup topic = some p →
      (∃ d, s.workers[p]? = some d ∧ d.topic = topic) ∧ s.callbacks.lookup topic = some p ∧
      ∀ messages, ((Move.messages topic messages).apply s).workers
        = s.workers.modify p fun d => messages.foldl Delivery.put d) ∧
    ∀ d ∈ (Move.close.apply s).workers, d.stops = 1 := by
  intro s
  have hs : s.Accounted := (fresh_accounted a c).run ms
  refine ⟨fun p d => hs.listed.inPlace_or_sentAway, ?_, fun d => hs.listed.stops_of_close⟩
  intro topic p hl
  obtain ⟨d, hd, ht, _⟩ := hs.listed.worker (mem_of_lookup hl)
  have hc := hs.routed topic p hl
  refine ⟨⟨d, hd, ht⟩, hc, ?_⟩
  intro messages
  show ((receive topic messages).run s).2.workers = _
  rw [receive_run, hc]
  rfl

-- the second message still waits when the topic is given up, and the worker stops behind it
example :
    let s : Connection String := run
      [.subscribe "t" 0 "h" ⟨.accepted 1, some [⟨false, "Granted QoS 0"⟩]⟩, .messages "t" [⟨"t", [1]⟩, ⟨"t", [2]⟩],
        .work 0, .unsubscribe "t" ⟨.accepted 2, some []⟩, .work 0, .work 0]
      (fresh { scheme := .tcp, host := "h", port := 1883 } {})
    s.deliveries = [] ∧ s.workers.map (fun d => (d.stops, d.ended, d.handled.map (·.2.payload))) =
      [(1, true, [[1], [2]])] := by
  decide

end TopicShell.Broker.Connection
