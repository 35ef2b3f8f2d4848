import TopicShell.Proofs.Entries
import TopicShell.Proofs.Session.Deliveries
import Mathlib.Logic.Relation

/-!
# The changes that a session goes through

`Change` lists all that can happen to the records, the handlers at the broker, the background pipelines
and the levels of service of a session, one constructor for each kind of change; what no record speaks of
is `Quiet`.  Every action is a row of such changes (`handleLine_changes`, `close_changes`,
`reconnect_changes`, `deliver_quiet`, `settleOne_quiet`), so that what one change keeps, a whole line keeps.

Only the first argument `true` allows that a background pipeline is opened: `sub` lines that ask for one
need it, all else does without.
-/

namespace TopicShell

/-- The level of service that a call carries. -/
def Call.qos? : Call → Option Int
  | .publish _ qos _ _ => some qos
  | .subscribe _ qos => some qos
  | .unsubscribe _ => none

namespace Session

open Files Line

/-! ## Kinds of changes -/

/-- The topic of each background pipeline, and whether its input is open. -/
def handles (s : Session) : List (String × Bool) :=
  s.backgrounds.map fun b => (b.topic, b.isOpen)

/-- Nothing has changed but texts written, files, colours, reports, and what the background pipelines have
been fed and how far they got. -/
structure Quiet (s s' : Session) : Prop where
  publishQos : s'.publishQos = s.publishQos
  subscribeQos : s'.subscribeQos = s.subscribeQos
  subscriptions : s'.subscriptions = s.subscriptions
  longTerm : s'.longTerm = s.longTerm
  broker : s'.broker = s.broker
  machine : s'.machine = s.machine
  handles : s'.handles = s.handles
  log : ∃ texts : List String, s'.log = s.log ++ texts.map Event.wrote

/-- The level of service of a call is a default, one that `sub` and `pub` accept, or one on record. -/
def Vouches (s : Session) (c : Call) : Prop :=
  ∀ qos, c.qos? = some qos →
    qos = s.publishQos ∨ qos = s.subscribeQos ∨ isQos qos = true ∨ ∃ r ∈ s.subscriptions, r.qos = qos

inductive Change : Bool → Session → Session → Prop where
  | quiet {opens : Bool} {s s' : Session} (h : s.Quiet s') : Change opens s s'
  /-- The broker is called, without an effect that has not its own constructor. -/
  | asked {opens : Bool} {s : Session} {c : Call} (h : s.Vouches c) : Change opens s (s.asked c)
  | discarded {opens : Bool} {s : Session} (topic : String) : Change opens s (s.discarded topic)
  /-- A subscription comes into force: it feeds the background pipeline of its topic, if there is one. -/
  | recorded {opens : Bool} {s : Session} {sub : Subscription}
      (hq : sub.qos = s.subscribeQos ∨ isQos sub.qos = true)
      (hh : ∀ n, s.longTerm.lookup sub.topic = some n ↔ sub.handler = .feed n) :
      Change opens s ((s.installed sub).recorded sub)
  | reinstalled {opens : Bool} {s : Session} {sub : Subscription} (h : sub ∈ s.subscriptions) :
      Change opens s (s.installed sub)
  | forgotten {opens : Bool} {s : Session} {topic : String} (h : s.longTerm.lookup topic = none) :
      Change opens s (s.forgotten topic)
  | opened {s : Session} {topic : String} (b : Pipeline.Built)
      (h : s.longTerm.lookup topic = none) : Change true s (s.opened topic b)

/-- A row of changes. -/
abbrev Changes (opens : Bool) : Session → Session → Prop :=
  Relation.ReflTransGen (Change opens)

theorem Quiet.refl (s : Session) : s.Quiet s :=
  ⟨rfl, rfl, rfl, rfl, rfl, rfl, rfl, [], (List.append_nil _).symm⟩

theorem Quiet.trans {s₁ s₂ s₃ : Session} (h : s₁.Quiet s₂) (h' : s₂.Quiet s₃) : s₁.Quiet s₃ := by
  obtain ⟨texts, ht⟩ := h.log
  obtain ⟨texts', ht'⟩ := h'.log
  refine ⟨h'.publishQos.trans h.publishQos, h'.subscribeQos.trans h.subscribeQos,
    h'.subscriptions.trans h.subscriptions, h'.longTerm.trans h.longTerm, h'.broker.trans h.broker,
    h'.machine.trans h.machine, h'.handles.trans h.handles, texts ++ texts', ?_⟩
  rw [ht', ht, List.append_assoc, List.map_append]

/-- What each change keeps, a row of changes keeps. -/
theorem Changes.keep {opens : Bool} {P : Session → Prop} {s s' : Session}
    (hP : ∀ s s', Change opens s s' → P s → P s') (h : Changes opens s s') (hs : P s) : P s' := by
  induction h with
  | refl => exact hs
  | tail _ hc ih => exact hP _ _ hc ih

theorem Change.opening {opens : Bool} {s s' : Session} (h : Change opens s s') : Change true s s' := by
  cases h with
  | quiet h => exact .quiet h
  | asked h => exact .asked h
  | discarded topic => exact .discarded topic
  | recorded hq hh => exact .recorded hq hh
  | reinstalled h => exact .reinstalled h
  | forgotten h => exact .forgotten h
  | opened b h => exact .opened b h

theorem Changes.opening {opens : Bool} {s s' : Session} (h : Changes opens s s') : Changes true s s' :=
  Relation.ReflTransGen.mono (fun _ _ => Change.opening) _ _ h

theorem Changes.subscribeQos {opens : Bool} {s s' : Session} (h : Changes opens s s') :
    s'.subscribeQos = s.subscribeQos := by
  refine h.keep (P := fun x => x.subscribeQos = s.subscribeQos) ?_ rfl
  intro s₁ s₂ hc h₁
  cases hc with
  | quiet h => rw [h.subscribeQos, h₁]
  | discarded topic => rw [discarded_subscribeQos, h₁]
  | _ => exact h₁

theorem Changes.machine {opens : Bool} {s s' : Session} (h : Changes opens s s') : s'.machine = s.machine := by
  refine h.keep (P := fun x => x.machine = s.machine) ?_ rfl
  intro s₁ s₂ hc h₁
  cases hc with
  | quiet h => rw [h.machine, h₁]
  | discarded topic => rw [discarded_machine, h₁]
  | _ => exact h₁

/-- What happens to the subscriptions has nothing to do with the connection. -/
theorem Change.disconnected_mem {opens : Bool} {s s' : Session} (h : Change opens s s') :
    .disconnected ∈ s'.log ↔ .disconnected ∈ s.log := by
  cases h with
  | quiet h =>
    obtain ⟨texts, htexts⟩ := h.log
    simp [htexts]
  | asked h => simp [Session.asked, noted]
  | discarded topic =>
    unfold Session.discarded
    split
    · rfl
    · simp
  | recorded hq hh => rfl
  | reinstalled h => rfl
  | forgotten h => rfl
  | opened b h => simp [Session.opened]

theorem Changes.disconnected_mem {opens : Bool} {s s' : Session} (h : Changes opens s s') :
    .disconnected ∈ s'.log ↔ .disconnected ∈ s.log := by
  refine h.keep (P := fun x => .disconnected ∈ x.log ↔ .disconnected ∈ s.log) ?_ .rfl
  intro s₁ s₂ hc h₁
  exact hc.disconnected_mem.trans h₁

/-! ## Looking up background pipelines -/

theorem lookup_discarded_self (topic : String) (s : Session) :
    (s.discarded topic).longTerm.lookup topic = none := by
  unfold discarded
  split
  · assumption
  · exact lookup_filter_ne _

theorem lookup_discarded_of_ne {topic other : String} (h : other ≠ topic) (s : Session) :
    (s.discarded topic).longTerm.lookup other = s.longTerm.lookup other := by
  unfold discarded
  split
  · rfl
  · exact lookup_filter_of_ne h _

theorem backgrounds_discarded_of_ne {topic : String} {s : Session} {n : Nat}
    (h : s.longTerm.lookup topic ≠ some n) :
    (s.discarded topic).backgrounds[n]? = s.backgrounds[n]? := by
  cases hl : s.longTerm.lookup topic with
  | none => rw [discarded_of_none hl]
  | some m =>
    rw [discarded_of_some hl]
    refine List.getElem?_modify_ne _ _ ?_
    rintro rfl
    exact h hl

theorem lookup_opened_self {topic : String} {s : Session} (h : s.longTerm.lookup topic = none)
    (b : Pipeline.Built) : (s.opened topic b).longTerm.lookup topic = some s.backgrounds.length := by
  show (s.longTerm ++ [(topic, s.backgrounds.length)]).lookup topic = _
  rw [List.lookup_append, h, Option.none_or, List.lookup_cons, beq_self_eq_true]

theorem lookup_opened_of_ne {topic other : String} (h : other ≠ topic) (s : Session)
    (b : Pipeline.Built) : (s.opened topic b).longTerm.lookup other = s.longTerm.lookup other := by
  show (s.longTerm ++ [(topic, s.backgrounds.length)]).lookup other = _
  rw [List.lookup_append, List.lookup_cons, beq_false_of_ne h, List.lookup_nil, Option.or_none]

/-! ## Actions as rows of changes -/

theorem noted_quiet (text : String) (s : Session) : s.Quiet (s.noted (.wrote text)) :=
  ⟨rfl, rfl, rfl, rfl, rfl, rfl, rfl, [text], rfl⟩

theorem wrought_quiet (files : Tree) (texts : List String) (s : Session) :
    s.Quiet (s.wrought files texts) :=
  ⟨rfl, rfl, rfl, rfl, rfl, rfl, rfl, texts, rfl⟩

theorem turned_quiet (s : Session) : s.Quiet s.turned :=
  ⟨rfl, rfl, rfl, rfl, rfl, rfl, rfl, [], (List.append_nil _).symm⟩

theorem elapsed_quiet (s : Session) : s.Quiet s.elapsed :=
  ⟨rfl, rfl, rfl, rfl, rfl, rfl, rfl, [], (List.append_nil _).symm⟩

section Rows

variable {opens : Bool} {s : Session}

theorem changes_of_quiet {s' : Session} (h : s.Quiet s') : Changes opens s s' :=
  .single (.quiet h)

/-- Going through a list of which each element leads to changes; `P` is what they rely on. -/
theorem forM_changes {α : Type} {f : α → Act Unit} {P : Session → Prop} {xs : List α}
    (hf : ∀ x ∈ xs, ∀ s, P s → Changes opens s ((f x).run s).2 ∧ P ((f x).run s).2)
    (hs : P s) : Changes opens s ((xs.forM f).run s).2 := by
  refine (run_forM_keeps (P := fun s' => Changes opens s s' ∧ P s') ?_ ⟨.refl, hs⟩).1
  rintro x hx s' ⟨hch, hP⟩
  obtain ⟨hch', hP'⟩ := hf x hx s' hP
  exact ⟨hch.trans hch', hP'⟩

theorem createHandler_changes (topic : String) (c : Chain) :
    Changes c.isBackground s ((createHandler topic c).run s).2 := by
  cases hc : c.isBackground with
  | false =>
    rw [createHandler_run_of_foreground hc]
    exact changes_of_quiet s.turned_quiet
  | true =>
    rw [createHandler_run_of_background hc]
    cases Pipeline.ofChain c (.stream []) [] s.files 1 false with
    | error cause => exact .single (.discarded topic)
    | ok b => exact .tail (.single (.discarded topic)) (.opened b (s.lookup_discarded_self topic))

/-- The handler that has been made feeds the background pipeline of its topic, if it feeds one. -/
theorem createHandler_feed {topic : String} {c : Chain} {handler : Handler} {s₁ : Session}
    (h : (createHandler topic c).run s = (.ok handler, s₁)) (hm : handler.mode = .longTerm) (n : Nat) :
    s₁.longTerm.lookup topic = some n ↔ handler = .feed n := by
  cases hc : c.isBackground with
  | false =>
    rw [createHandler_run_of_foreground hc] at h
    cases h
    exact absurd hm (mode_foregroundHandler _ _)
  | true =>
    rw [createHandler_run_of_background hc] at h
    cases hb : Pipeline.ofChain c (.stream []) [] s.files 1 false with
    | error cause =>
      rw [hb] at h
      cases h
    | ok b =>
      rw [hb] at h
      cases h
      rw [lookup_opened_self (s.lookup_discarded_self topic), Option.some_inj, Handler.feed.injEq]

theorem installed_discarded (sub : Subscription) (topic : String) (s : Session) :
    (s.installed sub).discarded topic = (s.discarded topic).installed sub := by
  have hsame : (s.installed sub).longTerm = s.longTerm := rfl
  cases hl : s.longTerm.lookup topic with
  | none => rw [discarded_of_none hl, discarded_of_none (hsame ▸ hl)]
  | some number =>
    rw [discarded_of_some hl, discarded_of_some (hsame ▸ hl)]
    rfl

theorem concluded_changes {sub : Subscription}
    (hq : sub.qos = s.subscribeQos ∨ isQos sub.qos = true)
    (hh : sub.handler.mode = .longTerm →
      ∀ n, s.longTerm.lookup sub.topic = some n ↔ sub.handler = .feed n) :
    Changes opens s (s.concluded sub).2 := by
  have ha : Change opens s (s.asked (.subscribe sub.topic sub.qos)) := by
    refine .asked ?_
    intro qos h
    cases h
    exact .inr (hq.imp_right .inl)
  unfold concluded
  cases s.answerTo (.subscribe sub.topic sub.qos) with
  | some r =>
    cases r with
    | unexpected m => exact .single ha
    | refused m =>
      by_cases hm : sub.handler.mode = .longTerm
      · simp only [hm, if_true]
        exact .tail (.single ha) (.discarded sub.topic)
      · simp only [hm, if_false]
        exact .single ha
  | none =>
    by_cases hm : sub.handler.mode = .longTerm
    · simp only [hm, if_true]
      exact .tail (.single ha) (.recorded hq (hh hm))
    · -- the order does not matter between the handler at the broker and the old pipeline
      simp only [hm, if_false, installed_discarded]
      refine .tail (.tail (.single ha) (.discarded sub.topic)) (.recorded ?_ ?_)
      · rw [discarded_subscribeQos]
        exact hq
      · intro n
        rw [lookup_discarded_self]
        constructor
        · intro h
          cases h
        · intro h
          rw [h] at hm
          exact absurd rfl hm

theorem subscribeTopic_changes {qos : Int} (hq : qos = s.subscribeQos ∨ isQos qos = true) (c : Chain)
    (topic : String) : Changes c.isBackground s ((subscribeTopic qos c topic).run s).2 := by
  have h := createHandler_changes (s := s) topic c
  rw [subscribeTopic_run]
  cases hr : (createHandler topic c).run s with
  | mk r s₁ =>
    rw [hr] at h
    cases r with
    | error e => exact h
    | ok handler =>
      refine h.trans (concluded_changes ?_ ?_)
      · rw [h.subscribeQos]
        exact hq
      · exact createHandler_feed hr

theorem unsubscribeTopic_changes (topic : String) :
    Changes opens s ((unsubscribeTopic topic).run s).2 := by
  have ha : Changes opens s ((s.discarded topic).asked (.unsubscribe topic)) := by
    refine .tail (.single (.discarded topic)) (.asked ?_)
    intro qos h
    cases h
  rw [unsubscribeTopic_run]
  cases s.answerTo (.unsubscribe topic) with
  | some r => exact ha
  | none => exact .tail ha (.forgotten (s.lookup_discarded_self topic))

/-! ## Lines -/

theorem say_changes (text : String) : Changes opens s ((say text).run s).2 :=
  changes_of_quiet (s.noted_quiet text)

theorem sayAll_changes {α : Type} (text : α → String) (xs : List α) :
    Changes opens s ((xs.forM fun x => say (text x)).run s).2 :=
  forM_changes (P := fun _ => True) (fun _ _ _ _ => ⟨say_changes _, trivial⟩) trivial

theorem publish_changes (first : Command) : Changes opens s ((publish first).run s).2 := by
  simp only [publish, run_bind, run_get]
  cases h : Publication.ofArguments first.arguments s.publishQos with
  | error e => exact .refl
  | ok p =>
    have ha : Change opens s (s.asked (.publish p.topic p.qos p.retained p.payload)) := by
      refine .asked ?_
      intro qos hq
      cases hq
      rcases Publication.qos_ofArguments h with hq | hq
      · exact .inl hq
      · exact .inr (.inr (.inl hq))
    simp only [run_tryCatch, callBroker_run]
    cases s.answerTo (.publish p.topic p.qos p.retained p.payload) with
    | none => exact .single ha
    | some r => cases r <;> exact .single ha

theorem unsubscribe_changes (first : Command) : Changes opens s ((unsubscribe first).run s).2 := by
  cases h : first.arguments.isEmpty with
  | true =>
    simp only [unsubscribe, h, if_true, run_bind, run_throw]
    exact .refl
  | false =>
    simp only [unsubscribe, h]
    exact forM_changes (P := fun _ => True)
      (fun topic _ _ _ => ⟨unsubscribeTopic_changes topic, trivial⟩) trivial

/-- The line is read as a chain that subscribes, and asks for some topics at some level of service. -/
structure Subscribes (line : String) (s : Session) (c : Chain) (r : Request) : Prop where
  read : interpret line = .ok c
  asks : ∃ first rest, c.commands = first :: rest ∧ Builtin.ofWord? first.name = some .sub ∧
    Request.ofArguments first.arguments s.subscribeQos = .ok r

theorem Subscribes.run {line : String} {c : Chain} {r : Request} (h : Subscribes line s c r) :
    (interpretAndHandle line).run s = (inTurn (subscribeTopic r.qos c) r.topics).run s := by
  obtain ⟨first, rest, hc, hf, hr⟩ := h.asks
  simp only [interpretAndHandle, h.read, handleChain, hc, hf, subscribe, run_bind, run_get, hr]

theorem Subscribes.qos {line : String} {c : Chain} {r : Request} (h : Subscribes line s c r) :
    r.qos = s.subscribeQos ∨ isQos r.qos = true := by
  obtain ⟨first, rest, _, _, hr⟩ := h.asks
  exact Request.qos_ofArguments hr

theorem followed_changes {act : String → Act Unit} {topic : String}
    (h : Changes opens s ((act topic).run s).2) : Changes opens s ((followed act topic).run s).2 := by
  rw [followed_run]
  cases hr : (act topic).run s with
  | mk r s₁ =>
    rw [hr] at h
    cases r with
    | error e => exact h
    | ok u => exact .tail h (.quiet s₁.elapsed_quiet)

/-- The topics of a line that are not the last one. -/
theorem subscribeTopics_changes {qos : Int} (hq : qos = s.subscribeQos ∨ isQos qos = true) (c : Chain)
    (topics : List String) :
    Changes c.isBackground s ((topics.forM (followed (subscribeTopic qos c))).run s).2 := by
  refine forM_changes (P := fun x => qos = x.subscribeQos ∨ isQos qos = true) ?_ hq
  intro topic _ x hx
  have hc := followed_changes (subscribeTopic_changes hx c topic)
  exact ⟨hc, by rw [hc.subscribeQos]; exact hx⟩

theorem Subscribes.changes {line : String} {c : Chain} {r : Request} (h : Subscribes line s c r) :
    Changes c.isBackground s ((interpretAndHandle line).run s).2 := by
  rw [h.run]
  refine (inTurn_keeps (P := fun x => Changes c.isBackground s x ∧ (r.qos = x.subscribeQos ∨ isQos r.qos = true))
    _ ?_ ?_ ⟨.refl, h.qos⟩).1
  · rintro topic _ x ⟨hch, hq⟩
    have hc := subscribeTopic_changes hq c topic
    exact ⟨hch.trans hc, by rw [hc.subscribeQos]; exact hq⟩
  · rintro x ⟨hch, hq⟩
    exact ⟨.tail hch (.quiet x.elapsed_quiet), hq⟩

/-- **A line that does not subscribe opens no background pipeline.** -/
theorem subscribes_or_changes (line : String) (s : Session) :
    (∃ c r, Subscribes line s c r) ∨ Changes false s ((interpretAndHandle line).run s).2 := by
  cases hl : interpret line with
  | error e =>
    simp only [interpretAndHandle, hl]
    exact .inr .refl
  | ok c =>
    simp only [interpretAndHandle, hl, handleChain]
    split
    · exact .inr .refl
    · rename_i first rest hc
      split
      · exact .inr (publish_changes first)
      · rename_i hf
        cases hr : Request.ofArguments first.arguments s.subscribeQos with
        | error e =>
          simp only [subscribe, run_bind, run_get, hr]
          exact .inr .refl
        | ok r => exact .inl ⟨c, r, hl, first, rest, hc, hf, hr⟩
      · exact .inr (unsubscribe_changes first)
      · exact .inr (sayAll_changes (fun topic => topic ++ "\n") s.topics)
      · exact .inr (say_changes _)
      · exact .inr (sayAll_changes (fun d : Decorator => d.decorate d.serialize ++ "\n") s.pool.entries)
      · exact .inr .refl
      · exact .inr .refl
      · exact .inr .refl

theorem interpretAndHandle_changes (line : String) :
    Changes true s ((interpretAndHandle line).run s).2 := by
  rcases subscribes_or_changes line s with ⟨c, r, h⟩ | h
  · exact h.changes.opening
  · exact h.opening

theorem handleLine_run (line : String) (s : Session) :
    (handleLine line).run s = match (interpretAndHandle line).run s with
      | (.ok _, s₁) => (.ok (), s₁)
      | (.error e, s₁) => (.ok (), s₁.noted (.wrote (e.message ++ "\n"))) := by
  rw [handleLine, run_tryCatch]
  cases (interpretAndHandle line).run s with
  | mk r s₁ => cases r <;> rfl

theorem handleLine_changes (line : String) : Changes true s ((handleLine line).run s).2 := by
  have h := interpretAndHandle_changes (s := s) line
  rw [handleLine_run]
  cases hr : (interpretAndHandle line).run s with
  | mk r s₁ =>
    rw [hr] at h
    cases r with
    | ok u => exact h
    | error e => exact .tail h (.quiet (s₁.noted_quiet _))

/-! ## Reconnections -/

theorem reinstall_changes {sub : Subscription} (h : sub ∈ s.subscriptions) :
    Changes opens s ((reinstall sub).run s).2 ∧
      ((reinstall sub).run s).2.subscriptions = s.subscriptions := by
  have ha : Changes opens s (s.asked sub.call) := by
    refine .single (.asked ?_)
    intro qos hq
    cases hq
    exact .inr (.inr (.inr ⟨sub, h, rfl⟩))
  rw [reinstall_run]
  cases s.answerTo sub.call with
  | none => exact ⟨.tail ha (.reinstalled h), rfl⟩
  | some r =>
    cases r with
    | unexpected m => exact ⟨ha, rfl⟩
    | refused m => exact ⟨.tail ha (.quiet (noted_quiet _ _)), rfl⟩

theorem reconnect_changes : Changes opens s (reconnect.run s).2 := by
  simp only [reconnect, run_bind, run_get]
  refine forM_changes (P := fun x => x.subscriptions = s.subscriptions) ?_ rfl
  intro sub hsub x hx
  have h : Changes opens x ((reinstall sub).run x).2 ∧
      ((reinstall sub).run x).2.subscriptions = x.subscriptions := by
    refine reinstall_changes ?_
    rw [hx]
    exact hsub
  exact ⟨h.1, h.2.trans hx⟩

/-! ## The end of the session -/

/-- Taking out the background pipelines of all topics, one after the other. -/
def discardedAll (topics : List String) (s : Session) : Session :=
  topics.foldl (fun s topic => s.discarded topic) s

theorem discardedAll_changes (topics : List String) (s : Session) :
    Changes opens s (s.discardedAll topics) := by
  induction topics generalizing s with
  | nil => exact .refl
  | cons topic topics ih => exact .head (.discarded topic) (ih (s.discarded topic))

theorem shutBackground_run (number : Nat) (s : Session) :
    (shutBackground number).run s = (.ok (), { s.noted (.shut number) with
      backgrounds := s.backgrounds.modify number Background.shut }) :=
  rfl

/-- Closing all inputs at once is taking out the pipelines one by one, when no topic has two. -/
theorem forM_shut_run {entries : List (String × Nat)} (hs : s.longTerm = entries)
    (hn : (entries.map Prod.fst).Nodup) :
    (entries.forM fun h => shutBackground h.2).run { s with longTerm := [] }
      = (.ok (), s.discardedAll (entries.map Prod.fst)) := by
  induction entries generalizing s with
  | nil =>
    cases s
    cases hs
    rfl
  | cons e entries ih =>
    obtain ⟨topic, n⟩ := e
    obtain ⟨hnot, hn'⟩ := List.nodup_cons.mp hn
    have hd : s.discarded topic = { s with
        longTerm := entries
        backgrounds := s.backgrounds.modify n Background.shut
        log := s.log ++ [.shut n] } := by
      have hl : s.longTerm.lookup topic = some n := by
        rw [hs, List.lookup_cons, beq_self_eq_true]
      have hf : s.longTerm.filter (·.1 != topic) = entries := by
        rw [hs, List.filter_cons_of_neg (by simp), List.filter_eq_self]
        intro x hx
        rw [bne_iff_ne]
        intro he
        exact hnot (List.mem_map.mpr ⟨x, hx, he⟩)
      rw [discarded_of_some hl, hf]
    rw [run_forM_cons, shutBackground_run]
    have h := ih (s := s.discarded topic) (by rw [hd]) hn'
    rw [show s.discardedAll (((topic, n) :: entries).map Prod.fst)
      = (s.discarded topic).discardedAll (entries.map Prod.fst) from rfl, ← h, hd]
    rfl

theorem finishBackground_quiet {number : Nat} {b : Background}
    (h : s.backgrounds[number]? = some b) (c : Pipeline.Closed) :
    s.Quiet (s.finishBackground number b c) := by
  refine ⟨rfl, rfl, rfl, rfl, rfl, rfl, ?_, [], (List.append_nil _).symm⟩
  show (s.backgrounds.set number _).map _ = s.backgrounds.map _
  obtain ⟨hlt, hget⟩ := List.getElem?_eq_some_iff.mp h
  have hlt' : number < (s.backgrounds.map fun b => (b.topic, b.isOpen)).length := by
    rw [List.length_map]
    exact hlt
  have hb : (s.backgrounds.map fun b => (b.topic, b.isOpen))[number] = (b.topic, b.isOpen) := by
    rw [List.getElem_map, hget]
  rw [List.map_set, ← hb]
  exact List.set_getElem_self hlt'

theorem settleOne_quiet (number : Nat) (s : Session) : s.Quiet (s.settleOne number) := by
  unfold settleOne
  split
  · exact .refl s
  · rename_i b hb
    split
    · split
      · exact finishBackground_quiet hb _
      · exact .refl s
    · exact .refl s

theorem settle_quiet (s : Session) : s.Quiet s.settle := by
  have h : ∀ (numbers : List Nat) (s : Session), s.Quiet (numbers.foldl settleOne s) := by
    intro numbers
    induction numbers with
    | nil => exact .refl
    | cons n numbers ih => exact fun s => (s.settleOne_quiet n).trans (ih _)
  exact h _ s

theorem close_changes (hn : (s.longTerm.map Prod.fst).Nodup) : Changes opens s (close.run s).2 := by
  have h := forM_shut_run (s := s) rfl hn
  simp only [close, run_bind, run_get, run_modify, h]
  refine (discardedAll_changes (s.longTerm.map Prod.fst) s).trans (changes_of_quiet ?_)
  exact (settle_quiet _).trans ⟨rfl, rfl, rfl, rfl, rfl, rfl, rfl, [], (List.append_nil _).symm⟩

/-! ## Messages -/

theorem handles_modify (number : Nat) (f : Background → Background) (g : String × Bool → String × Bool)
    (h : ∀ b, ((f b).topic, (f b).isOpen) = g (b.topic, b.isOpen)) (s : Session) :
    ({ s with backgrounds := s.backgrounds.modify number f } : Session).handles
      = s.handles.modify number g :=
  map_modify _ h number s.backgrounds

theorem fed_quiet (number : Nat) (payload : Octets) (s : Session) : s.Quiet (s.fed number payload) := by
  refine ⟨rfl, rfl, rfl, rfl, rfl, rfl, ?_, [], (List.append_nil _).symm⟩
  have hf : ∀ b : Background, ((b.feed payload).topic, (b.feed payload).isOpen) = id (b.topic, b.isOpen) := by
    intro b
    unfold Background.feed
    split <;> rfl
  rw [fed, handles_modify number _ id hf, List.modify_id]

theorem deliver_quiet (filter topic : String) (payload : Octets) (s : Session) :
    s.Quiet ((deliver filter topic payload).run s).2 := by
  rw [deliver_run]
  cases s.broker.handler? filter with
  | none => exact .refl s
  | some h =>
    simp only [handle_run]
    cases h with
    | plain d => exact noted_quiet _ s
    | feed n => exact fed_quiet n payload s
    | perMessage c d =>
      by_cases ha : s.accepting = true
      · obtain ⟨r, texts, files, hr⟩ :=
          runPerMessage_isolated c payload (leadOf topic d) s.files s.environment s.machine
        simp only [ha, if_true, hr s rfl rfl rfl]
        cases r <;> exact wrought_quiet files texts s
      · simp only [ha]
        exact .refl s

end Rows

end Session

end TopicShell
