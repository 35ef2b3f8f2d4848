import TopicShell.Proofs.Session.Actions

/-!
# What a message leads to

A message that is handled by a pipeline of its own looks at the files, the environment and the machine only,
and changes nothing but the files and what has been written (`Isolated`).  `Effect` is all that can be seen of
one message; sessions that are `Alike` for a topic give the same effects for every row of messages on it
(`effects_eq`).
-/

namespace TopicShell.Session

open Files Line

/-! ## Actions that look at what the session runs on only -/

section Isolated

variable {α β : Type}

/-- The session with other files, and with texts written since. -/
def wrought (files : Tree) (texts : List String) (s : Session) : Session :=
  { s with files, log := s.log ++ texts.map Event.wrote }

theorem wrought_nil (s : Session) : s.wrought s.files [] = s := by
  simp only [wrought, List.map_nil, List.append_nil]

theorem wrought_wrought (files files' : Tree) (texts texts' : List String) (s : Session) :
    (s.wrought files texts).wrought files' texts' = s.wrought files' (texts ++ texts') := by
  simp only [wrought, List.map_append, List.append_assoc]

/-- The action is a matter between the files, the environment and the machine: it takes nothing else from the
session, and leaves files and written texts. -/
def Isolated (a : Act α) : Prop :=
  ∀ (files : Tree) (environment : List (String × String)) (machine : Machine),
    ∃ (r : Except Fault α) (texts : List String) (files' : Tree), ∀ s : Session,
      s.files = files → s.environment = environment → s.machine = machine → a.run s = (r, s.wrought files' texts)

theorem Isolated.pure (x : α) : Isolated (pure x : Act α) := by
  intro files environment machine
  refine ⟨.ok x, [], files, ?_⟩
  rintro s rfl rfl rfl
  rw [run_pure, wrought_nil]

theorem Isolated.throw (e : Fault) : Isolated (throw e : Act α) := by
  intro files environment machine
  refine ⟨.error e, [], files, ?_⟩
  rintro s rfl rfl rfl
  rw [run_throw, wrought_nil]

theorem Isolated.say (text : String) : Isolated (say text) := by
  intro files environment machine
  refine ⟨.ok (), [text], files, ?_⟩
  rintro s rfl rfl rfl
  rfl

theorem Isolated.putFiles (files : Tree) : Isolated (modify fun s => { s with files }) := by
  intro _ environment machine
  refine ⟨.ok (), [], files, ?_⟩
  rintro s rfl rfl rfl
  simp only [run_modify, wrought, List.map_nil, List.append_nil]

theorem Isolated.bind {a : Act α} {f : α → Act β} (ha : Isolated a) (hf : ∀ x, Isolated (f x)) :
    Isolated (a >>= f) := by
  intro files environment machine
  obtain ⟨r, texts, files', h⟩ := ha files environment machine
  cases r with
  | error e =>
    refine ⟨.error e, texts, files', ?_⟩
    intro s hs he hm
    rw [run_bind, h s hs he hm]
  | ok x =>
    obtain ⟨r', texts', files'', h'⟩ := hf x files' environment machine
    refine ⟨r', texts ++ texts', files'', ?_⟩
    intro s hs he hm
    rw [run_bind, h s hs he hm]
    show (f x).run (s.wrought files' texts) = _
    rw [h' (s.wrought files' texts) rfl he hm, wrought_wrought]

theorem Isolated.tryCatch {a : Act α} {f : Fault → Act α} (ha : Isolated a)
    (hf : ∀ e, Isolated (f e)) : Isolated (tryCatch a f) := by
  intro files environment machine
  obtain ⟨r, texts, files', h⟩ := ha files environment machine
  cases r with
  | ok x =>
    refine ⟨.ok x, texts, files', ?_⟩
    intro s hs he hm
    rw [run_tryCatch, h s hs he hm]
  | error e =>
    obtain ⟨r', texts', files'', h'⟩ := hf e files' environment machine
    refine ⟨r', texts ++ texts', files'', ?_⟩
    intro s hs he hm
    rw [run_tryCatch, h s hs he hm]
    show (f e).run (s.wrought files' texts) = _
    rw [h' (s.wrought files' texts) rfl he hm, wrought_wrought]

/-- Of a session that is looked at, only the environment and the machine may matter. -/
theorem Isolated.bind_get {f : Session → Act β} (hf : ∀ s, Isolated (f s))
    (h : ∀ s s' : Session, s.environment = s'.environment → s.machine = s'.machine → f s = f s') :
    Isolated (get >>= f) := by
  intro files environment machine
  obtain ⟨r, texts, files', h'⟩ := hf { environment, machine } files environment machine
  refine ⟨r, texts, files', ?_⟩
  intro s hs he hm
  rw [run_bind, run_get]
  show (f s).run s = _
  rw [h s { environment, machine } he hm]
  exact h' s hs he hm

theorem Isolated.map {a : Act α} (f : α → β) (ha : Isolated a) : Isolated (f <$> a) := by
  rw [map_eq_pure_bind]
  exact ha.bind fun x => .pure (f x)

theorem Isolated.build (c : Chain) (source : Pipeline.Source) (sinks : List Pipeline.Sink) :
    Isolated (build c source sinks) := by
  intro files environment machine
  cases hb : Pipeline.ofChain c source sinks files 1 false with
  | error cause =>
    refine ⟨.error (.pipeline cause), [], files, ?_⟩
    rintro s rfl rfl rfl
    simp only [Session.build, run_bind, run_get, hb, run_throw, wrought_nil]
  | ok b =>
    refine ⟨.ok b, [], b.files, ?_⟩
    rintro s rfl rfl rfl
    simp only [Session.build, run_bind, run_get, hb, run_modify, run_pure, wrought, List.map_nil,
      List.append_nil]

theorem runPerMessage_isolated (c : Chain) (payload : Octets) (lead : String) :
    Isolated (runPerMessage c payload lead) := by
  unfold runPerMessage
  refine .bind (.tryCatch (.map _ (.build _ _ _)) ?_) ?_
  · intro e
    split
    · exact .bind (.say _) fun _ => .pure _
    · exact .throw _
  · intro built
    cases built with
    | none => exact .pure _
    | some b =>
      refine .bind_get (fun s => .bind (.putFiles _) fun _ => ?_) ?_
      · -- whatever the run has come to, what follows is said, thrown, or nothing
        dsimp only
        repeat' first
          | exact .pure _
          | exact .throw _
          | exact .say _
          | refine .bind (.say _) fun _ => ?_
          | split
      · intro s s' he hm
        simp only [he, hm]

end Isolated

/-! ## Handling and delivering a message -/

/-- A background pipeline has been fed a message. -/
def fed (number : Nat) (payload : Octets) (s : Session) : Session :=
  { s with backgrounds := s.backgrounds.modify number (·.feed payload) }

theorem handle_run (h : Handler) (topic : String) (payload : Octets) (s : Session) :
    (handle h topic payload).run s = match h with
      | .plain d => (.ok (), s.noted (.wrote (leadOf topic d ++ Text.Utf8.decodeText payload ++ "\n")))
      | .perMessage c d =>
        if s.accepting = true then (runPerMessage c payload (leadOf topic d)).run s else (.ok (), s)
      | .feed number => (.ok (), s.fed number payload) := by
  cases h with
  | plain d => rfl
  | feed number => rfl
  | perMessage c d =>
    simp only [handle, run_bind, run_get]
    by_cases ha : s.accepting = true
    · simp only [ha, if_true]
    · simp only [ha]
      rfl

theorem deliver_run (filter topic : String) (payload : Octets) (s : Session) :
    (deliver filter topic payload).run s = match s.broker.handler? filter with
      | none => (.ok false, s)
      | some h => match (handle h topic payload).run s with
        | (.ok _, s₁) => (.ok true, s₁)
        | (.error e, s₁) => (.error e, s₁) := by
  simp only [deliver, run_bind, run_get]
  cases s.broker.handler? filter with
  | none => rfl
  | some h =>
    simp only [run_bind]
    cases (handle h topic payload).run s with
    | mk r s₁ => cases r <;> rfl

/-! ## The effects of messages -/

/-- What the background pipeline has been fed that reads the messages of a topic, if one does. -/
def intake (s : Session) (filter : String) : Option Octets :=
  match s.broker.handler? filter with
  | some (.feed number) => s.backgrounds[number]?.map (·.fed)
  | _ => none

/-- All that a message leads to: how handling it ends, what is noted, the files, and what the background
pipeline of its topic has been fed by then. -/
structure Effect where
  outcome : Except Fault Bool
  noted : List Event
  files : Tree
  fed : Option Octets

def effect (filter topic : String) (payload : Octets) (s : Session) : Effect :=
  let (outcome, s') := (deliver filter topic payload).run s
  { outcome, noted := s'.log.drop s.log.length, files := s'.files, fed := s'.intake filter }

/-- The effects of messages that come one after the other, each with its topic. -/
def effects (filter : String) : List (String × Octets) → Session → List Effect
  | [], _ => []
  | (topic, payload) :: messages, s =>
    s.effect filter topic payload :: effects filter messages ((deliver filter topic payload).run s).2

/-- Sessions that treat the messages of a topic alike: the handler is the same, and so is all that
it looks at. -/
structure Alike (filter : String) (s s' : Session) : Prop where
  handler : s'.broker.handler? filter = s.broker.handler? filter
  files : s'.files = s.files
  environment : s'.environment = s.environment
  machine : s'.machine = s.machine
  accepting : s'.accepting = s.accepting
  background : ∀ n, s.broker.handler? filter = some (.feed n) → s'.backgrounds[n]? = s.backgrounds[n]?

theorem Alike.intake {filter : String} {s s' : Session} (h : Alike filter s s') :
    s'.intake filter = s.intake filter := by
  unfold Session.intake
  rw [h.handler]
  split
  · rename_i number hn
    rw [h.background number hn]
  · rfl

/-- Handling a message ends the same way with the same events, and leaves sessions alike. -/
theorem Alike.handle {filter : String} {s s' : Session} (h : Alike filter s s') {handler : Handler}
    (hh : s.broker.handler? filter = some handler) (topic : String) (payload : Octets) :
    ∃ (r : Except Fault Unit) (events : List Event) (t t' : Session),
      (handle handler topic payload).run s = (r, t) ∧ (handle handler topic payload).run s' = (r, t') ∧
      t.log = s.log ++ events ∧ t'.log = s'.log ++ events ∧ Alike filter t t' := by
  simp only [handle_run]
  cases handler with
  | plain d =>
    exact ⟨_, _, _, _, rfl, rfl, rfl, rfl,
      ⟨h.handler, h.files, h.environment, h.machine, h.accepting, h.background⟩⟩
  | perMessage c d =>
    by_cases ha : s.accepting = true
    · obtain ⟨r, texts, files, hr⟩ :=
        runPerMessage_isolated c payload (leadOf topic d) s.files s.environment s.machine
      simp only [h.accepting, ha, if_true, hr s rfl rfl rfl, hr s' h.files h.environment h.machine]
      exact ⟨r, texts.map .wrote, _, _, rfl, rfl, rfl, rfl,
        ⟨h.handler, rfl, h.environment, h.machine, h.accepting, h.background⟩⟩
    · simp only [h.accepting, ha]
      exact ⟨.ok (), [], s, s', rfl, rfl, (List.append_nil _).symm, (List.append_nil _).symm, h⟩
  | feed number =>
    refine ⟨.ok (), [], _, _, rfl, rfl, (List.append_nil _).symm, (List.append_nil _).symm,
      ⟨h.handler, h.files, h.environment, h.machine, h.accepting, ?_⟩⟩
    intro n hn
    have hne : n = number := by
      rw [show (s.fed number payload).broker = s.broker from rfl, hh] at hn
      exact (Handler.feed.inj (Option.some.inj hn)).symm
    subst hne
    show (s'.backgrounds.modify n _)[n]? = (s.backgrounds.modify n _)[n]?
    rw [List.getElem?_modify_eq, List.getElem?_modify_eq, h.background n hh]

theorem Alike.deliver {filter : String} {s s' : Session} (h : Alike filter s s') (topic : String)
    (payload : Octets) : s'.effect filter topic payload = s.effect filter topic payload ∧
      Alike filter ((deliver filter topic payload).run s).2 ((deliver filter topic payload).run s').2 := by
  have hrun := deliver_run filter topic payload
  cases hh : s.broker.handler? filter with
  | none =>
    have hs : (Session.deliver filter topic payload).run s = (.ok false, s) := by
      rw [hrun, hh]
    have hs' : (Session.deliver filter topic payload).run s' = (.ok false, s') := by
      rw [hrun, h.handler, hh]
    refine ⟨?_, by rw [hs, hs']; exact h⟩
    simp only [effect, hs, hs', List.drop_length, h.files, h.intake]
  | some handler =>
    obtain ⟨r, events, t, t', ht, ht', hlog, hlog', halike⟩ := h.handle hh topic payload
    obtain ⟨r', hs, hs'⟩ : ∃ r', (Session.deliver filter topic payload).run s = (r', t) ∧
        (Session.deliver filter topic payload).run s' = (r', t') := by
      rw [hrun, hrun, h.handler, hh]
      simp only [ht, ht']
      cases r with
      | error e => exact ⟨_, rfl, rfl⟩
      | ok u => exact ⟨_, rfl, rfl⟩
    refine ⟨?_, by rw [hs, hs']; exact halike⟩
    simp only [effect, hs, hs', hlog, hlog', List.drop_left, halike.files, halike.intake]

/-- **Sessions that are alike for a topic** give every row of messages the same effects. -/
theorem effects_eq {filter : String} {s s' : Session} (h : Alike filter s s')
    (messages : List (String × Octets)) : effects filter messages s' = effects filter messages s := by
  induction messages generalizing s s' with
  | nil => rfl
  | cons m messages ih =>
    obtain ⟨topic, payload⟩ := m
    obtain ⟨he, hnext⟩ := h.deliver topic payload
    rw [effects, effects, he, ih hnext]

end TopicShell.Session
