import TopicShell.Proofs.Broker.Actions

/-!
# Requests and acknowledgements on several threads

Requests are made on several threads, and acknowledgements arrive on the thread of the network: in any order,
late, twice, or for no request at all.  A lock is held from before the client is asked until the wait is
registered, and the network thread takes it to look for the wait.  `Traffic.step` has one event for each
moment at which another thread can come between, and a run is any row of events.  An acknowledgement is resolved in
its two parts, as the lock is held for the first one alone.

The history of a run says which call a number stands for (`answerTo`): the last one that got it, as long as no
acknowledgement with this number has been taken in since.
-/

namespace TopicShell.Broker

/-! ## The table of waits -/

namespace Waits

variable (w : Waits) {number other : Nat}

theorem lookup_register_self : (w.register number).2.pending.lookup number = some w.all.length := by
  show ((number, w.all.length) :: w.pending.filter (·.1 != number)).lookup number = _
  rw [List.lookup_cons, beq_self_eq_true]

theorem lookup_register_of_ne (h : other ≠ number) :
    (w.register number).2.pending.lookup other = w.pending.lookup other := by
  show ((number, w.all.length) :: w.pending.filter (·.1 != number)).lookup other = _
  rw [List.lookup_cons, beq_false_of_ne h, lookup_filter_of_ne h]

theorem lookup_without_self : (w.without number).pending.lookup number = none :=
  lookup_filter_ne w.pending

theorem lookup_without_of_ne (h : other ≠ number) :
    (w.without number).pending.lookup other = w.pending.lookup other :=
  lookup_filter_of_ne h w.pending

end Waits

/-! ## Traffic -/

/-- A request that the client has accepted. -/
structure Call where
  action : String
  number : Nat
  deriving DecidableEq

structure Acknowledgement where
  number : Nat
  codes : List ReasonCode
  deriving DecidableEq

/-- What is under way.  `calls` are the calls whose waits are registered, at their positions. -/
structure Traffic where
  waits : Waits := {}
  calls : List Call := []
  /-- The call that holds the lock: its wait is not yet registered. -/
  sending : Option Call := none
  /-- Acknowledgements that have arrived and wait for the lock. -/
  blocked : List Acknowledgement := []
  /-- Waits that have been taken out of the table and have yet to be answered. -/
  found : List (Nat × List ReasonCode) := []
  /-- How the calls that have come to their end ended. -/
  results : List (Nat × Except String Unit) := []

namespace Traffic

inductive Event where
  /-- A call takes the lock, and the client accepts it.  One that is not accepted gives the lock back, and
  nothing has changed. -/
  | accepted (c : Call)
  /-- The call registers its wait and gives the lock back. -/
  | registered
  | arrived (a : Acknowledgement)
  /-- The acknowledgement gets the lock, and takes its wait out of the table. -/
  | admitted (a : Acknowledgement)
  /-- The wait is answered. -/
  | answered (position : Nat)
  /-- The call looks at its wait for the last time: it has been answered, or the time is up. -/
  | ended (position : Nat)
  deriving DecidableEq

def accepting (c : Call) (s : Traffic) : Traffic :=
  { s with sending := some c }

def registering (c : Call) (s : Traffic) : Traffic :=
  { s with waits := (s.waits.register c.number).2, calls := s.calls ++ [c], sending := none }

def blocking (a : Acknowledgement) (s : Traffic) : Traffic :=
  { s with blocked := s.blocked ++ [a] }

/-- An acknowledgement for which no call waits is dropped. -/
def admitting (a : Acknowledgement) (s : Traffic) : Traffic :=
  { s with
    waits := s.waits.without a.number
    blocked := s.blocked.erase a
    found := match s.waits.pending.lookup a.number with
      | none => s.found
      | some position => s.found ++ [(position, a.codes)] }

theorem found_admitting_of_none {a : Acknowledgement} {s : Traffic}
    (h : s.waits.pending.lookup a.number = none) : (s.admitting a).found = s.found := by
  simp only [admitting, h]

theorem found_admitting_of_some {a : Acknowledgement} {s : Traffic} {position : Nat}
    (h : s.waits.pending.lookup a.number = some position) :
    (s.admitting a).found = s.found ++ [(position, a.codes)] := by
  simp only [admitting, h]

def answering (position : Nat) (codes : List ReasonCode) (s : Traffic) : Traffic :=
  { s with
    waits := s.waits.answer position codes
    found := s.found.filter (·.1 != position) }

def ending (position : Nat) (c : Call) (s : Traffic) : Traffic :=
  { s with results := s.results ++ [(position, s.waits.outcome position c.action)] }

/-- One event, if it can happen. -/
def step (s : Traffic) : Event → Option Traffic
  | .accepted c => if s.sending = none then some (s.accepting c) else none
  | .registered => s.sending.map fun c => s.registering c
  | .arrived a => some (s.blocking a)
  | .admitted a => if s.sending = none ∧ a ∈ s.blocked then some (s.admitting a) else none
  | .answered position => (s.found.lookup position).map fun codes => s.answering position codes
  | .ended position =>
    if s.results.lookup position = none then (s.calls[position]?).map fun c => s.ending position c
    else none

def run (es : List Event) (s : Traffic) : Option Traffic :=
  es.foldlM step s

section Steps

variable {s s' : Traffic}

theorem step_accepted {c : Call} (h : step s (.accepted c) = some s') :
    s.sending = none ∧ s' = s.accepting c := by
  simp only [step, Option.ite_none_right_eq_some, Option.some.injEq] at h
  exact ⟨h.1, h.2.symm⟩

theorem step_registered (h : step s .registered = some s') :
    ∃ c, s.sending = some c ∧ s' = s.registering c := by
  obtain ⟨c, hc, he⟩ := Option.map_eq_some_iff.mp h
  exact ⟨c, hc, he.symm⟩

theorem step_arrived {a : Acknowledgement} (h : step s (.arrived a) = some s') : s' = s.blocking a :=
  (Option.some.inj h).symm

theorem step_admitted {a : Acknowledgement} (h : step s (.admitted a) = some s') :
    s.sending = none ∧ a ∈ s.blocked ∧ s' = s.admitting a := by
  simp only [step, Option.ite_none_right_eq_some, Option.some.injEq] at h
  exact ⟨h.1.1, h.1.2, h.2.symm⟩

theorem step_answered {position : Nat} (h : step s (.answered position) = some s') :
    ∃ codes, s.found.lookup position = some codes ∧ s' = s.answering position codes := by
  obtain ⟨codes, hc, he⟩ := Option.map_eq_some_iff.mp h
  exact ⟨codes, hc, he.symm⟩

theorem step_ended {position : Nat} (h : step s (.ended position) = some s') :
    s.results.lookup position = none ∧
      ∃ c, s.calls[position]? = some c ∧ s' = s.ending position c := by
  simp only [step, Option.ite_none_right_eq_some, Option.map_eq_some_iff] at h
  obtain ⟨hr, c, hc, he⟩ := h
  exact ⟨hr, c, hc, he.symm⟩

end Steps

theorem run_append (es es' : List Event) (s : Traffic) :
    run (es ++ es') s = (run es s).bind (run es') :=
  List.foldlM_append

/-- What each event keeps, between the history and the state, a run keeps. -/
theorem run_keeps {P : List Event → Traffic → Prop}
    (hstep : ∀ {past : List Event} {s s' : Traffic} {e : Event}, P past s → step s e = some s' →
      P (past ++ [e]) s')
    (past : List Event) {es : List Event} {s s' : Traffic} (hs : P past s) (h : run es s = some s') :
    P (past ++ es) s' := by
  induction es generalizing past s with
  | nil =>
    cases h
    rw [List.append_nil]
    exact hs
  | cons e es ih =>
    obtain ⟨s₁, hfirst, hrest⟩ := Option.bind_eq_some_iff.mp h
    have hs' := ih (past ++ [e]) (hstep hs hfirst) hrest
    rwa [List.append_assoc] at hs'

/-! ## Histories -/

/-- The calls that the client has accepted, in their order. -/
def accepts (es : List Event) : List Call :=
  es.filterMap fun
    | .accepted c => some c
    | _ => none

/-- What has happened since the acceptance of the call at a position. -/
def since : Nat → List Event → List Event
  | _, [] => []
  | 0, .accepted _ :: es => es
  | position + 1, .accepted _ :: es => since position es
  | position, _ :: es => since position es

/-- The codes of an acknowledgement with the number, if it is taken in. -/
def Event.codesFor (number : Nat) : Event → Option (List ReasonCode)
  | .admitted a => if a.number = number then some a.codes else none
  | _ => none

/-- The first acknowledgement with the number of a call that has been taken in since its acceptance. -/
def answerTo (position : Nat) (es : List Event) : Option (List ReasonCode) :=
  ((accepts es)[position]?).bind fun c => (since position es).findSome? (Event.codesFor c.number)

/-- What a call has been told so far. -/
def told (position : Nat) (es : List Event) : Option (List ReasonCode) :=
  if .answered position ∈ es then answerTo position es else none

/-- The client may accept the call: each earlier call with the same number has had its acknowledgement. -/
def Renews (past : List Event) : Event → Prop
  | .accepted c => ∀ (position : Nat) (earlier : Call), (accepts past)[position]? = some earlier →
      earlier.number = c.number → answerTo position past ≠ none
  | _ => True

/-- The client never uses a number anew whose acknowledgement is still outstanding, which it is until it has been
taken in. -/
def FreshFrom (past : List Event) : List Event → Prop
  | [] => True
  | e :: es => Renews past e ∧ FreshFrom (past ++ [e]) es

def Fresh (es : List Event) : Prop :=
  FreshFrom [] es

section Histories

variable {es : List Event} {position : Nat}

theorem accepts_concat (es : List Event) (e : Event) : accepts (es ++ [e]) = accepts es ++ accepts [e] :=
  List.filterMap_append

theorem freshFrom_append {past es es' : List Event} :
    FreshFrom past (es ++ es') ↔ FreshFrom past es ∧ FreshFrom (past ++ es) es' := by
  induction es generalizing past with
  | nil =>
    rw [List.append_nil]
    exact (and_iff_right trivial).symm
  | cons e es ih =>
    show Renews past e ∧ FreshFrom (past ++ [e]) (es ++ es') ↔ _
    rw [ih, List.append_assoc, ← and_assoc]
    rfl

/-- A client that gives no number twice is fresh. -/
theorem freshFrom_of_nodup {past es : List Event}
    (h : ((accepts past ++ accepts es).map (·.number)).Nodup) : FreshFrom past es := by
  induction es generalizing past with
  | nil => trivial
  | cons e es ih =>
    have hsplit : accepts past ++ accepts (e :: es) = accepts (past ++ [e]) ++ accepts es := by
      rw [accepts_concat, List.append_assoc]
      exact congrArg (accepts past ++ ·) (List.filterMap_append (l := [e]))
    refine ⟨?_, ih (hsplit ▸ h)⟩
    cases e with
    | accepted c =>
      intro position earlier hearlier hn
      rw [List.map_append] at h
      refine absurd hn ((List.nodup_append.mp h).2.2 _ ?_ _ List.mem_cons_self)
      exact List.mem_map_of_mem (List.mem_of_getElem? hearlier)
    | _ => trivial

theorem since_suffix (position : Nat) (es : List Event) : since position es <:+ es := by
  induction es generalizing position with
  | nil => cases position <;> exact List.suffix_rfl
  | cons e es ih =>
    cases e with
    | accepted c =>
      cases position with
      | zero => exact List.suffix_cons _ _
      | succ position => exact (ih position).trans (List.suffix_cons _ _)
    | _ => cases position <;> exact (ih _).trans (List.suffix_cons _ _)

theorem since_concat (h : position < (accepts es).length) (e : Event) :
    since position (es ++ [e]) = since position es ++ [e] := by
  induction es generalizing position with
  | nil => cases h
  | cons e' es ih =>
    cases e' with
    | accepted c =>
      cases position with
      | zero => rfl
      | succ position => exact ih (Nat.lt_of_succ_lt_succ h)
    | _ => exact ih h

/-- A call that is accepted only now has nothing behind it. -/
theorem since_concat_of_le (h : (accepts es).length ≤ position) (e : Event) :
    since position (es ++ [e]) = [] := by
  induction es generalizing position with
  | nil =>
    cases e with
    | accepted c => cases position <;> rfl
    | _ => rfl
  | cons e' es ih =>
    cases e' with
    | accepted c =>
      cases position with
      | zero => cases h
      | succ position => exact ih (Nat.le_of_succ_le_succ h)
    | _ => exact ih h

theorem answerTo_concat (position : Nat) (es : List Event) (e : Event) :
    answerTo position (es ++ [e]) = (answerTo position es).or
      (((accepts es)[position]?).bind fun c => e.codesFor c.number) := by
  cases h : (accepts es)[position]? with
  | some c =>
    obtain ⟨hlt, _⟩ := List.getElem?_eq_some_iff.mp h
    have h' : (accepts (es ++ [e]))[position]? = some c := by
      rw [accepts_concat, List.getElem?_append_left hlt, h]
    simp only [answerTo, h, h', Option.bind_some, since_concat hlt, List.findSome?_append,
      List.findSome?_singleton]
  | none =>
    have hle := List.getElem?_eq_none_iff.mp h
    simp only [answerTo, h, Option.bind_none, Option.or_none, since_concat_of_le hle, List.findSome?_nil,
      Option.bind_eq_none_iff, implies_true]

/-- Only what is taken in can be an answer. -/
theorem answerTo_concat_of_none {e : Event} (h : ∀ number, e.codesFor number = none) :
    answerTo position (es ++ [e]) = answerTo position es := by
  rw [answerTo_concat]
  cases (accepts es)[position]? with
  | some c => rw [Option.bind_some, h, Option.or_none]
  | none => rw [Option.bind_none, Option.or_none]

/-- An answer stays what it is. -/
theorem answerTo_concat_of_some {codes : List ReasonCode} (h : answerTo position es = some codes)
    (e : Event) : answerTo position (es ++ [e]) = some codes := by
  rw [answerTo_concat, h, Option.some_or]

theorem mem_concat_iff {e e' : Event} (h : e ≠ e') : e ∈ es ++ [e'] ↔ e ∈ es := by
  rw [List.mem_append, List.mem_singleton, or_iff_left h]

theorem told_concat {e : Event} (h : .answered position ∈ es → answerTo position es ≠ none)
    (he : .answered position ≠ e) : told position (es ++ [e]) = told position es := by
  unfold told
  by_cases ha : .answered position ∈ es
  · obtain ⟨codes, hc⟩ := Option.ne_none_iff_exists'.mp (h ha)
    rw [if_pos ha, if_pos ((mem_concat_iff he).mpr ha), hc, answerTo_concat_of_some hc]
  · rw [if_neg ha, if_neg (mt (mem_concat_iff he).mp ha)]

/-- What is an answer has been taken in with the number of the call. -/
theorem exists_of_answerTo {codes : List ReasonCode} (h : answerTo position es = some codes) :
    ∃ c a, (accepts es)[position]? = some c ∧ .admitted a ∈ since position es ∧ a.number = c.number ∧
      a.codes = codes := by
  obtain ⟨c, hc, hfind⟩ := Option.bind_eq_some_iff.mp h
  obtain ⟨e, he, hcodes⟩ := List.exists_of_findSome?_eq_some hfind
  cases e with
  | admitted a =>
    obtain ⟨hn, hcodes⟩ := Option.ite_none_right_eq_some.mp hcodes
    exact ⟨c, a, hc, he, hn, Option.some.inj hcodes⟩
  | _ => cases hcodes

end Histories

end Traffic

end TopicShell.Broker
