import TopicShell.Proofs.Session.Changes

/-!
# Runs of a session

A run is a row of moves: lines, messages, reconnections, the end of the session, a background pipeline
that ends when it can, and files that other programs change.  A session begins without records
(`Beginning`); the answers of the broker are any function of the number of calls before, so that every way
in which the calls of a run can succeed or fail is one of them.
-/

namespace TopicShell.Session

open Files Line

/-- What can happen to a session. -/
inductive Move where
  | line (text : String)
  /-- A message on a topic for the handler that is in place for a filter. -/
  | message (filter topic : String) (payload : Octets)
  | reconnect
  | close
  | ending (number : Nat)
  | files (files : Tree)

def Move.apply : Move → Session → Session
  | .line text, s => ((handleLine text).run s).2
  | .message filter topic payload, s => ((deliver filter topic payload).run s).2
  | .reconnect, s => (Session.reconnect.run s).2
  | .close, s => (Session.close.run s).2
  | .ending number, s => s.settleOne number
  | .files tree, s => { s with files := tree }

/-- The session after a row of moves. -/
def run (ms : List Move) (s : Session) : Session :=
  ms.foldl (fun s m => m.apply s) s

theorem run_cons (m : Move) (ms : List Move) (s : Session) : run (m :: ms) s = run ms (m.apply s) := rfl

theorem run_append (ms ms' : List Move) (s : Session) : run (ms ++ ms') s = run ms' (run ms s) :=
  List.foldl_append

/-- Handling a row of lines and then the end of the session is a run. -/
theorem process_run (lines : List String) (s : Session) :
    ((process lines).run s).2 = run (lines.map .line ++ [.close]) s := by
  have hlines : ∀ s, (lines.forM handleLine).run s = (.ok (), run (lines.map .line) s) := by
    induction lines with
    | nil => exact fun s => rfl
    | cons line lines ih =>
      intro s
      rw [run_forM_cons, List.map_cons, run_cons, ← ih]
      show _ = (lines.forM handleLine).run ((handleLine line).run s).2
      rw [handleLine_run]
      cases (interpretAndHandle line).run s with
      | mk r s₁ => cases r <;> rfl
  rw [process, run_bind, hlines, run_append]
  rfl

/-- What a session is begun with. -/
structure Beginning where
  publishQos : Int := 0
  subscribeQos : Int := 0
  pool : Pool := {}
  /-- The answer to a call, given how many came before it. -/
  answer : Nat → Call → Option Refusal := fun _ _ => none
  files : Tree := {}
  environment : List (String × String) := []
  machine : Machine := {}

def Beginning.session (b : Beginning) : Session :=
  { publishQos := b.publishQos
    subscribeQos := b.subscribeQos
    pool := b.pool
    broker := { answer := b.answer }
    files := b.files
    environment := b.environment
    machine := b.machine }

/-- Nothing but a line opens background pipelines.  Closing relies on what is known of the session: no
topic has two of them. -/
theorem apply_changes_of_ne_line {m : Move} {s : Session} (hm : ∀ text, m ≠ .line text)
    (hn : (s.longTerm.map Prod.fst).Nodup) : Changes false s (m.apply s) := by
  cases m with
  | line text => exact absurd rfl (hm text)
  | message filter topic payload => exact changes_of_quiet (deliver_quiet filter topic payload s)
  | reconnect => exact reconnect_changes
  | close => exact close_changes hn
  | ending number => exact changes_of_quiet (s.settleOne_quiet number)
  | files files =>
    exact changes_of_quiet ⟨rfl, rfl, rfl, rfl, rfl, rfl, rfl, [], (List.append_nil _).symm⟩

/-- **A move is a row of changes.** -/
theorem apply_changes (m : Move) {s : Session} (hn : (s.longTerm.map Prod.fst).Nodup) :
    Changes true s (m.apply s) := by
  by_cases hm : ∃ text, m = .line text
  · obtain ⟨text, rfl⟩ := hm
    exact handleLine_changes text
  · exact (apply_changes_of_ne_line (fun text h => hm ⟨text, h⟩) hn).opening

end TopicShell.Session
