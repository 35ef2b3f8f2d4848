import TopicShell.Proofs.Broker.Actions

/-!
# Messages are handled in order

A worker takes one item after the other from its queue.  Between two of its moments other threads may put
messages in, replace the handler, or ask it to stop, and a handler may fail: `Worker.turn` has one turn for
each of these moments.  Whatever has been handled, is in hand or waits in front of the first request to stop is,
in this order, what was put in before that request (`accounted_run`).  So messages are handled in order, once
each, and all of them when the worker has ended (`handled_prefix_of_due`).
-/

namespace TopicShell.Broker

variable {η : Type}

/-- The messages that wait in front of the first request to stop. -/
def front : List QueueItem → List Message
  | [] => []
  | .message m :: queue => m :: front queue
  | .stop :: _ => []

theorem front_message (queue : List QueueItem) (m : Message) :
    front (queue ++ [.message m]) = front queue ++ if .stop ∈ queue then [] else [m] := by
  induction queue with
  | nil => rfl
  | cons item queue ih =>
    cases item with
    | message m' => simp [front, ih]
    | stop => simp [front]

theorem front_stop (queue : List QueueItem) : front (queue ++ [.stop]) = front queue := by
  induction queue with
  | nil => rfl
  | cons item queue ih =>
    cases item with
    | message m => exact congrArg (List.cons m) ih
    | stop => rfl

/-! ## A worker among other threads -/

/-- What the worker is about: it waits for an item, it holds a message, or the handler is running. -/
inductive Stage where
  | waiting
  | holding (m : Message)
  | handling (m : Message)
  deriving DecidableEq

structure Worker (η : Type) where
  delivery : Delivery η
  stage : Stage := .waiting
  /-- The messages whose handler has failed. -/
  failed : List Message := []

inductive Turn (η : Type) where
  | put (m : Message)
  | stop
  | replace (handler : η)
  /-- The worker takes an item from the queue. -/
  | take
  /-- It hands the message to the handler that is in place by now. -/
  | invoke
  /-- The handler returns or fails. -/
  | finish (fails : Bool)

namespace Worker

/-- A worker that has just been started. -/
def started (topic : String) (handler : η) : Worker η :=
  { delivery := { topic, handler } }

/-- A message is taken from the queue. -/
def taking (m : Message) (queue : List QueueItem) (w : Worker η) : Worker η :=
  { w with delivery := { w.delivery with queue }, stage := .holding m }

/-- A request to stop is taken from the queue. -/
def ending (queue : List QueueItem) (w : Worker η) : Worker η :=
  { w with delivery := { w.delivery with queue, ended := true } }

/-- The handler that is in place is invoked. -/
def invoking (m : Message) (w : Worker η) : Worker η :=
  { w with
    delivery := { w.delivery with handled := w.delivery.handled ++ [(w.delivery.handler, m)] }
    stage := .handling m }

/-- The handler is done with the message. -/
def returning (m : Message) (fails : Bool) (w : Worker η) : Worker η :=
  { w with stage := .waiting, failed := w.failed ++ if fails then [m] else [] }

/-- One turn; nothing happens where the worker is not at the place for it. -/
def turn (w : Worker η) : Turn η → Worker η
  | .put m => { w with delivery := w.delivery.put m }
  | .stop => { w with delivery := w.delivery.stop }
  | .replace handler => { w with delivery := w.delivery.handing handler }
  | .take =>
    match w.stage, w.delivery.ended, w.delivery.queue with
    | .waiting, false, .message m :: queue => w.taking m queue
    | .waiting, false, .stop :: queue => w.ending queue
    | _, _, _ => w
  | .invoke =>
    match w.stage with
    | .holding m => w.invoking m
    | _ => w
  | .finish fails =>
    match w.stage with
    | .handling m => w.returning m fails
    | _ => w

def run (ts : List (Turn η)) (w : Worker η) : Worker η :=
  ts.foldl turn w

/-- The messages for which a handler has been invoked, in the order of these calls. -/
def invoked (w : Worker η) : List Message :=
  w.delivery.handled.map (·.2)

/-- The message that has been taken and not yet handed on. -/
def inHand (w : Worker η) : List Message :=
  match w.stage with
  | .holding m => [m]
  | _ => []

/-- The message whose handler is running. -/
def inCall (w : Worker η) : List Message :=
  match w.stage with
  | .handling m => [m]
  | _ => []

/-- A worker that is told to stop or has ended takes no more messages in. -/
def Stopped (w : Worker η) : Prop :=
  w.delivery.ended = true ∨ .stop ∈ w.delivery.queue

instance (w : Worker η) : Decidable w.Stopped :=
  inferInstanceAs (Decidable (_ ∨ _))

/-- The messages that have been handled, the one in hand, and those that are still to be handled. -/
def accounted (w : Worker η) : List Message :=
  w.invoked ++ w.inHand ++ if w.delivery.ended then [] else front w.delivery.queue

/-- The messages that are put in before the first request to stop. -/
def due : List (Turn η) → List Message
  | [] => []
  | .put m :: ts => m :: due ts
  | .stop :: _ => []
  | _ :: ts => due ts

theorem due_before_stop (before after : List (Turn η)) : due (before ++ .stop :: after) = due before := by
  induction before with
  | nil => rfl
  | cons t before ih =>
    cases t with
    | put m => exact congrArg (List.cons m) ih
    | stop => rfl
    | _ => exact ih

/-! ## Turns -/

/-- The cases of the turns that the worker itself takes. -/
theorem take_cases (w : Worker η) :
    (∃ m queue, w.stage = .waiting ∧ w.delivery.ended = false ∧
      w.delivery.queue = .message m :: queue ∧ w.turn .take = w.taking m queue) ∨
    (∃ queue, w.stage = .waiting ∧ w.delivery.ended = false ∧
      w.delivery.queue = .stop :: queue ∧ w.turn .take = w.ending queue) ∨
    w.turn .take = w := by
  unfold turn
  dsimp only
  split
  · rename_i m queue hs he hq
    exact .inl ⟨m, queue, hs, he, hq, rfl⟩
  · rename_i queue hs he hq
    exact .inr (.inl ⟨queue, hs, he, hq, rfl⟩)
  · exact .inr (.inr rfl)

theorem invoke_cases (w : Worker η) :
    (∃ m, w.stage = .holding m ∧ w.turn .invoke = w.invoking m) ∨ w.turn .invoke = w := by
  unfold turn
  dsimp only
  split
  · rename_i m hs
    exact .inl ⟨m, hs, rfl⟩
  · exact .inr rfl

theorem finish_cases (w : Worker η) (fails : Bool) :
    (∃ m, w.stage = .handling m ∧ w.turn (.finish fails) = w.returning m fails) ∨
      w.turn (.finish fails) = w := by
  unfold turn
  dsimp only
  split
  · rename_i m hs
    exact .inl ⟨m, hs, rfl⟩
  · exact .inr rfl

theorem stopped_turn_iff (w : Worker η) (t : Turn η) : (w.turn t).Stopped ↔ w.Stopped ∨ t = .stop := by
  cases t with
  | put m => simp [turn, Stopped, Delivery.put]
  | stop => simp [turn, Stopped, Delivery.stop]
  | replace handler => simp [turn, Stopped, Delivery.handing]
  | take =>
    rcases take_cases w with ⟨m, queue, _, _, hq, h⟩ | ⟨queue, _, _, hq, h⟩ | h <;> rw [h]
    · simp [Stopped, taking, hq]
    · simp [Stopped, ending, hq]
    · exact (or_iff_left nofun).symm
  | invoke =>
    rcases invoke_cases w with ⟨m, _, h⟩ | h <;> rw [h] <;> exact (or_iff_left nofun).symm
  | finish fails =>
    rcases finish_cases w fails with ⟨m, _, h⟩ | h <;> rw [h] <;> exact (or_iff_left nofun).symm

theorem add_nothing {w : Worker η} {t : Turn η} (h : due [t] = []) :
    (w.accounted ++ if w.Stopped then [] else due [t]) = w.accounted := by
  rw [h, ite_self, List.append_nil]

/-- **One turn.**  Only what is put in before the first request to stop is added to what is accounted for. -/
theorem accounted_turn (w : Worker η) (t : Turn η) :
    (w.turn t).accounted = w.accounted ++ if w.Stopped then [] else due [t] := by
  cases t with
  | put m =>
    show w.invoked ++ w.inHand ++ (if w.delivery.ended then [] else
      front (w.delivery.queue ++ [.message m])) = _
    cases he : w.delivery.ended with
    | true => simp [accounted, Stopped, he]
    | false => simp [accounted, Stopped, he, front_message, due]
  | stop =>
    show w.invoked ++ w.inHand ++ (if w.delivery.ended then [] else
      front (w.delivery.queue ++ [.stop])) = _
    rw [front_stop, add_nothing rfl]
    rfl
  | replace handler =>
    rw [add_nothing rfl]
    rfl
  | take =>
    rw [add_nothing rfl]
    rcases take_cases w with ⟨m, queue, hs, he, hq, h⟩ | ⟨queue, hs, he, hq, h⟩ | h <;> rw [h]
    · simp [accounted, invoked, inHand, taking, hs, he, hq, front]
    · simp [accounted, invoked, inHand, ending, hs, he, hq, front]
  | invoke =>
    rw [add_nothing rfl]
    rcases invoke_cases w with ⟨m, hs, h⟩ | h <;> rw [h]
    show (w.delivery.handled ++ [(w.delivery.handler, m)]).map (·.2) ++ [] ++ _ = w.invoked ++ w.inHand ++ _
    rw [inHand, hs, List.map_append, List.append_nil]
    rfl
  | finish fails =>
    rw [add_nothing rfl]
    rcases finish_cases w fails with ⟨m, hs, h⟩ | h <;> rw [h]
    show w.invoked ++ [] ++ _ = w.invoked ++ w.inHand ++ _
    rw [inHand, hs]
    rfl

/-- What holds between the turns besides: a worker that has ended has nothing in hand, and each failure is that
of a call that was made. -/
structure Orderly (w : Worker η) : Prop where
  idle : w.delivery.ended = true → w.inHand = []
  failed : (w.failed ++ w.inCall).Sublist w.invoked

theorem Orderly.turn {w : Worker η} (hw : w.Orderly) (t : Turn η) : (w.turn t).Orderly := by
  cases t with
  | put m => exact ⟨hw.idle, hw.failed⟩
  | stop => exact ⟨hw.idle, hw.failed⟩
  | replace handler => exact ⟨hw.idle, hw.failed⟩
  | take =>
    rcases take_cases w with ⟨m, queue, hs, he, _, h⟩ | ⟨queue, hs, _, _, h⟩ | h <;> rw [h]
    · refine ⟨fun h => (nomatch he.symm.trans h), ?_⟩
      have hfailed := hw.failed
      rw [inCall, hs] at hfailed
      exact hfailed
    · refine ⟨fun _ => ?_, hw.failed⟩
      show w.inHand = []
      rw [inHand, hs]
    · exact hw
  | invoke =>
    rcases invoke_cases w with ⟨m, hs, h⟩ | h <;> rw [h]
    · have hfailed := hw.failed
      rw [inCall, hs, List.append_nil] at hfailed
      refine ⟨fun _ => rfl, ?_⟩
      show (w.failed ++ [m]).Sublist ((w.delivery.handled ++ [(w.delivery.handler, m)]).map (·.2))
      rw [List.map_append]
      exact hfailed.append (.refl _)
    · exact hw
  | finish fails =>
    rcases finish_cases w fails with ⟨m, hs, h⟩ | h <;> rw [h]
    · have hfailed := hw.failed
      rw [inCall, hs] at hfailed
      refine ⟨fun _ => rfl, ?_⟩
      show ((w.failed ++ if fails then [m] else []) ++ []).Sublist w.invoked
      rw [List.append_nil]
      cases fails with
      | true => exact hfailed
      | false =>
        rw [if_neg Bool.false_ne_true, List.append_nil]
        exact (List.sublist_append_left _ _).trans hfailed
    · exact hw

/-! ## Runs -/

theorem accounted_run (w : Worker η) (ts : List (Turn η)) :
    (run ts w).accounted = w.accounted ++ if w.Stopped then [] else due ts := by
  induction ts generalizing w with
  | nil => simp [run, due]
  | cons t ts ih =>
    show (run ts (w.turn t)).accounted = _
    rw [ih, accounted_turn, List.append_assoc]
    congr 1
    by_cases hs : w.Stopped
    · rw [if_pos hs, if_pos hs, if_pos ((stopped_turn_iff w t).mpr (.inl hs)), List.append_nil]
    · rw [if_neg hs, if_neg hs]
      have hiff : (w.turn t).Stopped ↔ t = .stop :=
        (stopped_turn_iff w t).trans (or_iff_right hs)
      cases t with
      | stop => rw [if_pos (hiff.mpr rfl)]; rfl
      | _ => rw [if_neg (mt hiff.mp nofun)]; rfl

theorem Orderly.run {w : Worker η} (hw : w.Orderly) (ts : List (Turn η)) : (run ts w).Orderly := by
  induction ts generalizing w with
  | nil => exact hw
  | cons t ts ih => exact ih (hw.turn t)

/-- **Messages are handled in order, once each, and none is lost.**  Whatever turns a worker and the threads
around it take, and whichever handlers fail: the handlers have been invoked for a front part of the messages
that were put in before the first request to stop, in this order; when the worker has ended, for all of
them; and for none that was put in later.  Each failure is that of one of these calls. -/
theorem handled_prefix_of_due (topic : String) (handler : η) (ts : List (Turn η)) :
    let w := run ts (started topic handler)
    w.invoked <+: due ts ∧ (w.delivery.ended = true → w.invoked = due ts) ∧
      (∀ before after, ts = before ++ .stop :: after → w.invoked <+: due before) ∧
      w.failed.Sublist w.invoked := by
  intro w
  have hdue : w.accounted = due ts := accounted_run (started topic handler) ts
  have horderly : w.Orderly := Orderly.run ⟨fun _ => rfl, .refl _⟩ ts
  have hfront : w.invoked <+: due ts := by
    rw [← hdue, accounted, List.append_assoc]
    exact List.prefix_append _ _
  refine ⟨hfront, ?_, ?_, (List.sublist_append_left _ _).trans horderly.failed⟩
  · intro he
    rw [← hdue, accounted, horderly.idle he, if_pos he, List.append_nil, List.append_nil]
  · rintro before after hts
    rwa [hts, due_before_stop] at hfront

-- the handler is replaced while a message is in hand, it fails, and a message comes behind the request to stop
example :
    let w := run [.put ⟨"t", [1]⟩, .put ⟨"t", [2]⟩, .take, .replace "new", .invoke, .stop, .put ⟨"t", [3]⟩,
      .finish true, .take, .invoke, .finish false, .take, .take] (started "t" "old")
    w.delivery.handled = [("new", ⟨"t", [1]⟩), ("new", ⟨"t", [2]⟩)] ∧ w.failed = [⟨"t", [1]⟩] ∧
      w.delivery.ended = true := by
  decide

/-! ## A worker by itself -/

/-- A worker that takes an item, hands it on and waits again has made the step of its delivery. -/
theorem run_step (d : Delivery η) (fails : Bool) :
    let w : Worker η := run [.take, .invoke, .finish fails] { delivery := d }
    w.delivery = d.step ∧ w.stage = .waiting := by
  obtain ⟨topic, handler, queue, handled, ended⟩ := d
  cases ended with
  | true => exact ⟨rfl, rfl⟩
  | false =>
    cases queue with
    | nil => exact ⟨rfl, rfl⟩
    | cons item queue => cases item <;> exact ⟨rfl, rfl⟩

end Worker

end TopicShell.Broker
