import TopicShell.Proofs.Session.Attachment

/-!
# Reconnections

After a reconnection every recorded subscription is asked for once more (`Renewed`): one call for each record, in
order, the handler put in place again where the broker agrees, and one report where it does not.  `forM_reinstall` says
what a row of records leads to, by induction over the records with the number of calls before them.

A refusal does not keep the records behind it from being asked for, but a failure that nobody expects does
(`renewed_iff_allExpected`).
-/

namespace TopicShell.Session

/-! ## Answers -/

/-- What the broker answers when subscriptions are asked for one after the other. -/
def answers (subs : List Subscription) (s : Session) : List (Subscription × Option Refusal) :=
  subs.mapIdx fun k r => (r, s.broker.answer (s.broker.count + k) r.call)

/-- No answer is a failure that nobody expects. -/
def AllExpected (answers : List (Subscription × Option Refusal)) : Prop :=
  ∀ x ∈ answers, ∀ text, x.2 ≠ some (.unexpected text)

/-- The reports on the subscriptions that are not renewed. -/
def renewalReports (answers : List (Subscription × Option Refusal)) : List String :=
  answers.filterMap fun x => x.2.map (renewalReport x.1)

/-- The handlers of the subscriptions that the broker agrees to are put in place, in order. -/
def reinstalled (answers : List (Subscription × Option Refusal)) (r : Registry) : Registry :=
  (answers.filter (·.2.isNone)).foldl (fun r x => r.install ⟨x.1.topic, x.1.qos, x.1.handler⟩)
    { r with count := r.count + answers.length }

theorem answers_cons (r : Subscription) (rest : List Subscription) {s s' : Session}
    (hanswer : s'.broker.answer = s.broker.answer) (hcount : s'.broker.count = s.broker.count + 1) :
    s.answers (r :: rest) = (r, s.answerTo r.call) :: s'.answers rest := by
  simp only [answers, List.mapIdx_cons, hanswer, hcount, Nat.add_assoc, Nat.add_comm 1]
  rfl

theorem allExpected_cons (x : Subscription × Option Refusal) (rest : List (Subscription × Option Refusal)) :
    AllExpected (x :: rest) ↔ (∀ text, x.2 ≠ some (.unexpected text)) ∧ AllExpected rest :=
  List.forall_mem_cons

theorem renewalReports_cons (x : Subscription × Option Refusal) (rest : List (Subscription × Option Refusal)) :
    renewalReports (x :: rest) = renewalReports [x] ++ renewalReports rest :=
  List.filterMap_append (l := [x])

theorem reinstalled_cons (x : Subscription × Option Refusal) (rest : List (Subscription × Option Refusal))
    (b : Registry) : reinstalled (x :: rest) b = reinstalled rest (reinstalled [x] b) := by
  obtain ⟨r, answer⟩ := x
  have hcount : b.count + (rest.length + 1) = b.count + 1 + rest.length := by omega
  cases answer with
  | none =>
    simp only [reinstalled, List.filter_cons_of_pos, Option.isNone_none, List.length_cons, hcount]
    rfl
  | some refusal =>
    simp only [reinstalled, List.filter_cons_of_neg, Option.isNone_some, Bool.false_eq_true, not_false_eq_true,
      List.length_cons, hcount]
    rfl

theorem reinstalled_answers (answers : List (Subscription × Option Refusal)) (b : Registry) :
    (reinstalled answers b).answer = b.answer ∧ (reinstalled answers b).count = b.count + answers.length := by
  induction answers generalizing b with
  | nil => exact ⟨rfl, rfl⟩
  | cons x rest ih =>
    have hone : (reinstalled [x] b).answer = b.answer ∧ (reinstalled [x] b).count = b.count + 1 := by
      obtain ⟨r, answer⟩ := x
      cases answer <;> exact ⟨rfl, rfl⟩
    obtain ⟨hanswer, hcount⟩ := ih (reinstalled [x] b)
    rw [reinstalled_cons, hanswer, hcount, hone.1, hone.2, List.length_cons]
    exact ⟨rfl, by omega⟩

/-! ## A row of records -/

/-- All subscriptions of a row are renewed: each of them is asked for once and in order, the handlers that the broker
agrees to are put in place, and each refusal is reported. -/
structure RenewsAll (subs : List Subscription) (s s' : Session) : Prop where
  calls : s'.calls = s.calls ++ subs.map Subscription.call
  broker : s'.broker = reinstalled (s.answers subs) s.broker
  reports : s'.written = s.written ++ renewalReports (s.answers subs)

theorem RenewsAll.nil (s : Session) : RenewsAll [] s s :=
  ⟨(List.append_nil _).symm, rfl, (List.append_nil _).symm⟩

/-- One record, and then the others. -/
theorem RenewsAll.cons {r : Subscription} {rest : List Subscription} {s s₁ s' : Session} (h₁ : RenewsAll [r] s s₁)
    (hcons : s.answers (r :: rest) = (r, s.answerTo r.call) :: s₁.answers rest) (h : RenewsAll rest s₁ s') :
    RenewsAll (r :: rest) s s' := by
  have hsingle : s.answers [r] = [(r, s.answerTo r.call)] := rfl
  refine ⟨?_, ?_, ?_⟩
  · rw [h.calls, h₁.calls, List.append_assoc]
    rfl
  · rw [hcons, reinstalled_cons, ← hsingle, ← h₁.broker, h.broker]
  · rw [hcons, renewalReports_cons, ← hsingle, ← List.append_assoc, ← h₁.reports, h.reports]

/-- The session after one record, if no failure is unexpected. -/
def renewed (r : Subscription) (s : Session) : Session :=
  match s.answerTo r.call with
  | none => (s.asked r.call).installed r
  | some refusal => (s.asked r.call).noted (.wrote (renewalReport r refusal))

theorem reinstall_run_of_expected {r : Subscription} {s : Session}
    (h : ∀ text, s.answerTo r.call ≠ some (.unexpected text)) : (reinstall r).run s = (.ok (), s.renewed r) := by
  rw [reinstall_run, renewed]
  cases ha : s.answerTo r.call with
  | none => rfl
  | some refusal =>
    cases refusal with
    | refused m => rfl
    | unexpected m => exact absurd ha (h m)

theorem renewed_renewsAll (r : Subscription) (s : Session) : RenewsAll [r] s (s.renewed r) := by
  have hsingle : s.answers [r] = [(r, s.answerTo r.call)] := rfl
  rw [renewed]
  cases ha : s.answerTo r.call with
  | none =>
    refine ⟨calls_asked s r.call, ?_, ?_⟩
    · rw [hsingle, ha]
      rfl
    · rw [hsingle, ha]
      exact (written_asked s r.call).trans (List.append_nil _).symm
  | some refusal =>
    refine ⟨?_, ?_, ?_⟩
    · rw [calls_noted_wrote, calls_asked]
      rfl
    · rw [hsingle, ha]
      rfl
    · rw [hsingle, ha, written_noted_wrote, written_asked]
      rfl

theorem answers_renewed (r : Subscription) (rest : List Subscription) (s : Session) :
    s.answers (r :: rest) = (r, s.answerTo r.call) :: (s.renewed r).answers rest := by
  refine answers_cons r rest ?_ ?_
  · rw [renewed]
    cases s.answerTo r.call <;> rfl
  · rw [renewed]
    cases s.answerTo r.call <;> rfl

/-- A row of records is gone through to its end exactly when no failure is unexpected, and then all are renewed. -/
theorem forM_reinstall (subs : List Subscription) (s : Session) :
    (((subs.forM reinstall).run s).1 = .ok () ↔ AllExpected (s.answers subs)) ∧
    (AllExpected (s.answers subs) → RenewsAll subs s ((subs.forM reinstall).run s).2) := by
  induction subs generalizing s with
  | nil => exact ⟨iff_of_true rfl fun x hx => absurd hx List.not_mem_nil, fun _ => .nil s⟩
  | cons r rest ih =>
    rw [run_forM_cons, answers_renewed, allExpected_cons]
    by_cases h : ∀ text, s.answerTo r.call ≠ some (.unexpected text)
    · obtain ⟨hok, hall⟩ := ih (s.renewed r)
      rw [reinstall_run_of_expected h, and_iff_right h]
      exact ⟨hok, fun hrest => (renewed_renewsAll r s).cons (answers_renewed r rest s) (hall hrest)⟩
    · -- the way through the records ends here
      obtain ⟨text, htext⟩ := not_forall_not.mp h
      have hrun : (reinstall r).run s = (.error (.unexpected text), s.asked r.call) := by
        rw [reinstall_run, htext]
      rw [hrun]
      exact ⟨iff_of_false nofun fun hall => h hall.1, fun hall => absurd hall.1 h⟩

/-- The row is broken off at a failure that nobody expects: what stands before it is renewed, it is asked for, and
nothing is done about what stands behind it. -/
theorem forM_reinstall_broken {before : List Subscription} (after : List Subscription) {r : Subscription} {s : Session}
    {text : String} (hbefore : AllExpected (s.answers before))
    (h : s.broker.answer (s.broker.count + before.length) r.call = some (.unexpected text)) :
    ∃ s₁, RenewsAll before s s₁ ∧
      ((before ++ r :: after).forM reinstall).run s = (.error (.unexpected text), s₁.asked r.call) := by
  obtain ⟨hok, hall⟩ := forM_reinstall before s
  obtain ⟨s₁, hrun⟩ : ∃ s₁, (before.forM reinstall).run s = (.ok (), s₁) := ⟨_, Prod.ext (hok.mpr hbefore) rfl⟩
  have hs₁ : RenewsAll before s s₁ := by
    have h := hall hbefore
    rwa [hrun] at h
  have hanswer : s₁.answerTo r.call = some (.unexpected text) := by
    obtain ⟨hsame, hcount⟩ := reinstalled_answers (s.answers before) s.broker
    rw [answerTo, hs₁.broker, hsame, hcount, answers, List.length_mapIdx]
    exact h
  have hlast : (reinstall r).run s₁ = (.error (.unexpected text), s₁.asked r.call) := by
    rw [reinstall_run, hanswer]
  refine ⟨s₁, hs₁, ?_⟩
  rw [run_forM_append, hrun]
  show ((r :: after).forM reinstall).run s₁ = _
  rw [run_forM_cons, hlast]

/-! ## Reconnections -/

/-- A reconnection is complete: it goes through all records and renews them. -/
structure Renewed (s : Session) : Prop where
  outcome : (reconnect.run s).1 = .ok ()
  all : RenewsAll s.subscriptions s (Move.reconnect.apply s)

theorem reconnect_run (s : Session) : reconnect.run s = (s.subscriptions.forM reinstall).run s := by
  simp only [reconnect, run_bind, run_get]

theorem renewed_iff_allExpected (s : Session) : s.Renewed ↔ AllExpected (s.answers s.subscriptions) := by
  obtain ⟨hok, hall⟩ := forM_reinstall s.subscriptions s
  rw [← reconnect_run] at hok hall
  exact ⟨fun h => hok.mp h.outcome, fun h => ⟨hok.mpr h, hall h⟩⟩

/-- Records, background pipelines in use and colours are as before. -/
structure SameRecords (s s' : Session) : Prop where
  subscriptions : s'.subscriptions = s.subscriptions
  longTerm : s'.longTerm = s.longTerm
  pool : s'.pool = s.pool

theorem reinstall_sameRecords (r : Subscription) (s : Session) : SameRecords s ((reinstall r).run s).2 := by
  rw [reinstall_run]
  cases s.answerTo r.call with
  | none => exact ⟨rfl, rfl, rfl⟩
  | some refusal => cases refusal <;> exact ⟨rfl, rfl, rfl⟩

theorem reconnect_sameRecords (s : Session) : SameRecords s (Move.reconnect.apply s) := by
  rw [Move.apply, reconnect_run]
  refine run_forM_keeps (P := SameRecords s) ?_ ⟨rfl, rfl, rfl⟩
  intro r _ s₁ h₁
  have h := reinstall_sameRecords r s₁
  exact ⟨h.subscriptions.trans h₁.subscriptions, h.longTerm.trans h₁.longTerm, h.pool.trans h₁.pool⟩

/-- **Which reconnections are complete.**  In every session that can come about no topic has two records, and a
reconnection leaves records, background pipelines and colours as they are.  It asks the broker for each recorded
subscription once, in order, with its handler and level of service, and reports each refusal, exactly when no
failure is unexpected.  Otherwise it is broken off: the records behind the first such failure are not asked for, and
the failure is not reported. -/
theorem reconnection_complete_iff (b : Beginning) (ms : List Move) :
    let s := run ms b.session
    (s.subscriptions.map (·.topic)).Nodup ∧ SameRecords s (Move.reconnect.apply s) ∧
    (s.Renewed ↔ AllExpected (s.answers s.subscriptions)) ∧
    ∀ before r after text, s.subscriptions = before ++ r :: after → AllExpected (s.answers before) →
      s.broker.answer (s.broker.count + before.length) r.call = some (.unexpected text) →
      (reconnect.run s).1 = .error (.unexpected text) ∧
      (Move.reconnect.apply s).calls = s.calls ++ before.map Subscription.call ++ [r.call] ∧
      (Move.reconnect.apply s).written = s.written ++ renewalReports (s.answers before) := by
  intro s
  refine ⟨(b.sound.run ms).mirrored.records, reconnect_sameRecords s, renewed_iff_allExpected s, ?_⟩
  intro before r after text hsubs hbefore hanswer
  obtain ⟨s₁, hs₁, hrun⟩ := forM_reinstall_broken after hbefore hanswer
  rw [← hsubs, ← reconnect_run] at hrun
  rw [Move.apply, hrun]
  refine ⟨rfl, ?_, ?_⟩
  · rw [calls_asked, hs₁.calls]
  · rw [written_asked, hs₁.reports]

/-- A broker that agrees to two subscriptions, and at the third fails in a way nobody expects. -/
def failingThird : Beginning :=
  { answer := fun n _ => if n = 2 then some (.unexpected "boom") else none }

/-- The second of two subscriptions is not renewed: the broker is never asked for it, and nothing is reported. -/
theorem not_renewed_behind_failure :
    let s := run [.line "sub a", .line "sub b"] failingThird.session
    s.subscriptions.map (·.topic) = ["a", "b"] ∧
    (Move.reconnect.apply s).calls = s.calls ++ [.subscribe "a" 0] ∧
    (Move.reconnect.apply s).written = s.written ∧ ¬ s.Renewed := by
  intro s
  have htopics : s.subscriptions.map (·.topic) = ["a", "b"] := by decide +kernel
  have hcalls : (Move.reconnect.apply s).calls = s.calls ++ [.subscribe "a" 0] := by decide +kernel
  refine ⟨htopics, hcalls, by decide +kernel, fun h => ?_⟩
  have hall := congrArg List.length h.all.calls
  rw [hcalls, List.length_append, List.length_append, List.length_map] at hall
  have hlength : s.subscriptions.length = 2 := by
    rw [← List.length_map (f := (·.topic)), htopics]
    rfl
  rw [hlength] at hall
  exact absurd hall (by simp)

end TopicShell.Session
