import TopicShell.Proofs.Session.Writers
import TopicShell.Proofs.Pipeline.Processes

/-!
# The ends of background pipelines

The end of a background pipeline is announced when its target has been closed; whoever closes the session waits for
the announcement.  Closing flushes once more what the target has taken, and a device that fails refuses that
(`closing_eq_none_iff`), so that a pipeline may be over and nobody knows (`Unannounced`).

Only the end of a background pipeline and the end of the session let pipelines end; every other action is `Steady`:
the phases of the background pipelines stay as they are, and new ones run.  From the step
(`unannounced_apply_iff`) follows by induction over the moves how a run can lead there (`unannounced_run_iff`):
a pipeline ends in it with octets in the buffer of a device that fails (`EndsUnwritten`), and in no other way.
-/

namespace TopicShell

open Files Line

namespace Session

def phases (s : Session) : List Phase :=
  s.backgrounds.map (·.phase)

/-- The phases are as before, and pipelines that have been added run. -/
def KeepsPhases (s s' : Session) : Prop :=
  ∃ added, s'.phases = s.phases ++ List.replicate added .running

section Phases

variable {s s' : Session}

theorem KeepsPhases.of_eq (h : s'.phases = s.phases) : s.KeepsPhases s' :=
  ⟨0, h.trans (List.append_nil _).symm⟩

theorem KeepsPhases.refl (s : Session) : s.KeepsPhases s :=
  .of_eq rfl

theorem KeepsPhases.trans {s'' : Session} (h : s.KeepsPhases s') (h' : s'.KeepsPhases s'') : s.KeepsPhases s'' := by
  obtain ⟨added, h⟩ := h
  obtain ⟨added', h'⟩ := h'
  refine ⟨added + added', ?_⟩
  rw [h', h, List.append_assoc, List.replicate_append_replicate]

theorem KeepsPhases.modify (number : Nat) {f : Background → Background} (hf : ∀ w, (f w).phase = w.phase)
    (s : Session) : s.KeepsPhases { s with backgrounds := s.backgrounds.modify number f } := by
  refine .of_eq (List.ext_getElem? fun i => ?_)
  simp only [phases, List.getElem?_map, List.getElem?_modify]
  cases s.backgrounds[i]? with
  | none => rfl
  | some w =>
    split_ifs
    · exact congrArg some (hf w)
    · rfl

end Phases

/-! ## Actions that let no pipeline end -/

/-- Whatever the action comes to, it keeps the phases. -/
def Steady {α : Type} (a : Act α) : Prop :=
  ∀ s : Session, s.KeepsPhases (a.run s).2

section Steady

variable {α β : Type}

theorem Steady.pure (x : α) : Steady (pure x : Act α) :=
  fun s => .refl s

theorem Steady.throw (e : Fault) : Steady (throw e : Act α) :=
  fun s => .refl s

theorem Steady.get : Steady (get : Act Session) :=
  fun s => .refl s

theorem Steady.modify {f : Session → Session} (h : ∀ s, KeepsPhases s (f s)) : Steady (modify f : Act Unit) :=
  h

theorem Steady.bind {a : Act α} {f : α → Act β} (ha : Steady a) (hf : ∀ x, Steady (f x)) : Steady (a >>= f) := by
  intro s
  have h := ha s
  rw [run_bind]
  cases hr : a.run s with
  | mk r s₁ =>
    rw [hr] at h
    cases r with
    | error e => exact h
    | ok x => exact h.trans (hf x s₁)

theorem Steady.tryCatch {a : Act α} {f : Fault → Act α} (ha : Steady a) (hf : ∀ e, Steady (f e)) :
    Steady (tryCatch a f) := by
  intro s
  have h := ha s
  rw [run_tryCatch]
  cases hr : a.run s with
  | mk r s₁ =>
    rw [hr] at h
    cases r with
    | ok x => exact h
    | error e => exact h.trans (hf e s₁)

theorem Steady.forM {f : α → Act Unit} (hf : ∀ x, Steady (f x)) (xs : List α) : Steady (xs.forM f) := by
  induction xs with
  | nil => exact .pure ()
  | cons x xs ih => exact (hf x).bind fun _ => ih

theorem Steady.inTurn {act : String → Act Unit} (h : ∀ topic, Steady (act topic)) (topics : List String) :
    Steady (inTurn act topics) := by
  cases topics with
  | nil => exact .pure ()
  | cons topic rest =>
    refine (h topic).bind fun _ => .forM (fun next => ?_) rest
    exact .bind (a := elapse) (.modify fun _ => .of_eq rfl) fun _ => h next

theorem Steady.note (e : Event) : Steady (note e) :=
  .modify fun _ => .of_eq rfl

theorem Steady.say (text : String) : Steady (say text) :=
  .note _

theorem Steady.callBroker (c : Call) (change : Registry → Registry) : Steady (callBroker c change) := by
  refine .bind (.note _) fun _ => .bind .get fun s => ?_
  cases s.broker.call c change with
  | mk refusal broker =>
    refine .bind (.modify fun _ => .of_eq rfl) fun _ => ?_
    cases refusal with
    | none => exact .pure ()
    | some r => exact .throw _

theorem Steady.shutBackground (number : Nat) : Steady (shutBackground number) :=
  .bind (.note _) fun _ => .modify (.modify number fun _ => rfl)

theorem Steady.discardLongTerm (topic : String) : Steady (discardLongTerm topic) := by
  refine .bind .get fun s => ?_
  cases s.longTerm.lookup topic with
  | none => exact .pure ()
  | some number => exact .bind (.modify fun _ => .of_eq rfl) fun _ => .shutBackground number

theorem Steady.build (c : Line.Chain) (source : Pipeline.Source) (sinks : List Pipeline.Sink) :
    Steady (build c source sinks) := by
  refine .bind .get fun s => ?_
  cases Pipeline.ofChain c source sinks s.files 1 false with
  | error cause => exact .throw _
  | ok b => exact .bind (.modify fun _ => .of_eq rfl) fun _ => .pure b

/-- A pipeline that is started runs. -/
theorem Steady.startBackground (topic : String) (c : Chain) : Steady (startBackground topic c) := by
  refine .bind (.discardLongTerm topic) fun _ => .bind (.build _ _ _) fun b => .bind .get fun s => ?_
  refine .bind (.modify fun s' => ⟨1, ?_⟩) fun _ => .bind (.note _) fun _ => .pure _
  rw [phases, List.map_append]
  rfl

theorem Steady.nextDecorator : Steady nextDecorator :=
  .bind .get fun _ => .bind (.modify fun _ => .of_eq rfl) fun _ => .pure _

theorem Steady.createHandler (topic : String) (c : Chain) : Steady (createHandler topic c) := by
  unfold Session.createHandler
  split_ifs
  · exact .bind .nextDecorator fun _ => .pure _
  · refine .tryCatch (.startBackground topic c) fun e => ?_
    split
    · exact .throw _
    · exact .throw _
  · exact .bind .nextDecorator fun _ => .pure _

theorem Steady.subscribeTopic (qos : Int) (c : Chain) (topic : String) : Steady (subscribeTopic qos c topic) := by
  have hdiscard : ∀ (p : Prop) [Decidable p] {a : Act Unit}, Steady a →
      Steady (if p then Session.discardLongTerm topic >>= fun _ => a else a) := by
    intro p _ a ha
    split_ifs
    · exact .bind (.discardLongTerm topic) fun _ => ha
    · exact ha
  refine .bind (.createHandler topic c) fun handler => .bind (.tryCatch (.callBroker _ _) fun e => ?_) fun _ => ?_
  · split
    · exact hdiscard _ (.throw _)
    · exact .throw _
  · exact hdiscard _ (.modify fun _ => .of_eq rfl)

theorem Steady.unsubscribeTopic (topic : String) : Steady (unsubscribeTopic topic) :=
  .bind (.discardLongTerm topic) fun _ => .bind (.callBroker _ _) fun _ => .modify fun _ => .of_eq rfl

theorem Steady.publish (c : Command) : Steady (publish c) := by
  refine .bind .get fun s => ?_
  cases Publication.ofArguments c.arguments s.publishQos with
  | error e => exact .throw _
  | ok p =>
    refine .tryCatch (.callBroker _ _) fun e => ?_
    split
    · exact .throw _
    · exact .throw _

theorem Steady.subscribe (c : Chain) (first : Command) : Steady (subscribe c first) := by
  refine .bind .get fun s => ?_
  cases Request.ofArguments first.arguments s.subscribeQos with
  | error e => exact .throw _
  | ok r => exact .inTurn (.subscribeTopic r.qos c) r.topics

theorem Steady.unsubscribe (first : Command) : Steady (unsubscribe first) := by
  unfold Session.unsubscribe
  split_ifs
  · exact .bind (.throw _) fun _ => .forM .unsubscribeTopic _
  · exact .forM .unsubscribeTopic _

theorem Steady.handleChain (c : Chain) : Steady (handleChain c) := by
  unfold Session.handleChain
  split
  · exact .pure ()
  · split
    · exact .publish _
    · exact .subscribe c _
    · exact .unsubscribe _
    · exact .bind .get fun s => .forM (fun _ => .say _) _
    · exact .say _
    · exact .bind .get fun s => .forM (fun _ => .say _) _
    · exact .throw _
    · exact .throw _
    · exact .throw _

theorem Steady.handleLine (line : String) : Steady (handleLine line) := by
  refine .tryCatch ?_ fun e => .say _
  unfold interpretAndHandle
  cases interpret line with
  | error e => exact .throw _
  | ok c => exact .handleChain c

theorem Steady.reconnect : Steady reconnect := by
  refine .bind .get fun s => .forM (fun sub => .tryCatch (.callBroker _ _) fun e => ?_) _
  split
  · exact .say _
  · exact .throw _

theorem Steady.handle (h : Handler) (topic : String) (payload : Octets) : Steady (handle h topic payload) := by
  intro s
  rw [handle_run]
  cases h with
  | plain d => exact .of_eq rfl
  | feed n =>
    refine .modify n (fun w => ?_) s
    unfold Background.feed
    split_ifs <;> rfl
  | perMessage c d =>
    dsimp only
    split_ifs
    · obtain ⟨r, texts, files, hr⟩ := runPerMessage_isolated c payload (leadOf topic d) s.files s.environment s.machine
      rw [hr s rfl rfl rfl]
      exact .of_eq rfl
    · exact .refl s

theorem Steady.deliver (filter topic : String) (payload : Octets) : Steady (deliver filter topic payload) := by
  refine .bind .get fun s => ?_
  cases s.broker.handler? filter with
  | none => exact .pure _
  | some h => exact .bind (.handle h topic payload) fun _ => .pure _

end Steady

/-! ## One end -/

theorem getElem?_settleOne_of_ne {n k : Nat} (h : k ≠ n) (s : Session) :
    (s.settleOne k).backgrounds[n]? = s.backgrounds[n]? := by
  unfold settleOne
  split
  · rfl
  · split_ifs
    · split
      · exact List.getElem?_set_ne h
      · rfl
    · rfl

/-- Every background pipeline with a number below a bound is given the chance to end. -/
def settledBelow (bound : Nat) (s : Session) : Session :=
  (List.range bound).foldl settleOne s

theorem settledBelow_succ (bound : Nat) (s : Session) :
    s.settledBelow (bound + 1) = (s.settledBelow bound).settleOne bound := by
  rw [settledBelow, List.range_succ, List.foldl_append]
  rfl

theorem settleOne_log (number : Nat) (s : Session) : (s.settleOne number).log = s.log := by
  unfold settleOne
  split
  · rfl
  · split
    · split
      · rfl
      · rfl
    · rfl

theorem settle_log (s : Session) : s.settle.log = s.log := by
  have hbelow : ∀ bound, (s.settledBelow bound).log = s.log := by
    intro bound
    induction bound with
    | zero => rfl
    | succ bound ih => rw [settledBelow_succ, settleOne_log, ih]
  exact hbelow s.backgrounds.length

theorem length_settledBelow (bound : Nat) (s : Session) :
    (s.settledBelow bound).backgrounds.length = s.backgrounds.length := by
  have h : ∀ s' : Session, s'.handles.length = s'.backgrounds.length := fun _ => List.length_map _
  induction bound with
  | zero => rfl
  | succ bound ih => rw [settledBelow_succ, ← h, (settleOne_quiet bound _).handles, h, ih]

/-- The inputs of all background pipelines in use are closed. -/
def allShut (s : Session) : Session :=
  ((s.longTerm.forM fun h => shutBackground h.2).run { s with longTerm := [] }).2

theorem allShut_log (s : Session) : s.allShut.log = s.log ++ s.longTerm.map (.shut ·.2) := by
  have hall : ∀ (entries : List (String × Nat)) (s : Session),
      ((entries.forM fun h => shutBackground h.2).run s).2.log = s.log ++ entries.map (.shut ·.2) := by
    intro entries
    induction entries with
    | nil => exact fun s => (List.append_nil _).symm
    | cons e entries ih =>
      intro s
      rw [run_forM_cons, shutBackground_run]
      exact (ih _).trans (List.append_assoc _ _ _)
  exact hall s.longTerm _

theorem close_run (s : Session) : close.run s = (.ok (), { s.allShut.settle with accepting := false }) := by
  have hok : ∀ (entries : List (String × Nat)) (s : Session),
      ((entries.forM fun h => shutBackground h.2).run s).1 = .ok () := by
    intro entries
    induction entries with
    | nil => exact fun _ => rfl
    | cons e entries ih =>
      intro s
      rw [run_forM_cons, shutBackground_run]
      exact ih _
  have hall : (s.longTerm.forM fun h => shutBackground h.2).run { s with longTerm := [] } = (.ok (), s.allShut) :=
    Prod.ext (hok _ _) rfl
  simp only [close, run_bind, run_get, run_modify, hall]

/-! ## Moves and runs -/

/-- The session in which a move lets the background pipeline with a number end, if it lets it. -/
def Move.turn (n : Nat) : Move → Session → Option Session
  | .ending k, s => if k = n then some s else none
  | .close, s => some (s.allShut.settledBelow n)
  | _, _ => none

theorem run_concat (ms : List Move) (m : Move) (s : Session) : run (ms ++ [m]) s = m.apply (run ms s) := by
  rw [run_append]
  rfl

end Session

end TopicShell
