import TopicShell.Shell
import TopicShell.Proofs.Session.Endings
import TopicShell.Proofs.Session.Writers
import Mathlib.Data.List.Induction

/-!
# How a shell ends

A shell that is connected reads its input until something ends it: the start commands (`EndsAtStart`), or one of
the things that happen (`EndsWith`).  Until then its session goes through changes and nothing else
(`step_proceeds`, `foldl_changes`); from then on nothing has an effect (`step_of_over`).  The end of the input ends
every shell that is not over yet (`stop_over`), so that each run has one session in which its input ends, and is
left with what closing makes of that session (`run_inputEnds`).

Closing is the same for all of these endings: the inputs of the background pipelines come first and the connection
last (`closed_shutDown`).  That no input is missed and none is closed twice rests on the account that each change
keeps (`Session.Accounted`).
-/

namespace TopicShell

namespace Shell

open Session

/-! ## Lines -/

theorem sayAll_quiet (texts : List String) (files : Files.Tree) (s : Session) :
    s.Quiet (sayAll texts { s with files }) :=
  ⟨rfl, rfl, rfl, rfl, rfl, rfl, rfl, texts, rfl⟩

theorem expand_quiet (engine : ShellEngine) (macros : List (String × Macro.Spec)) (line : String) (s : Session) :
    s.Quiet (expand engine macros line s).2 := by
  unfold expand
  cases (Macro.expand engine macros line).run
      { files := s.files, environment := s.environment, machine := s.machine } with
  | mk r w => exact sayAll_quiet w.written w.files s

theorem after_changes {α : Type} {a : Session.Act α} {s : Session} (h : Changes true s (a.run s).2) :
    Changes true s (after a s) :=
  h.tail (.quiet (settle_quiet _))

theorem handleLines_changes (lines : List String) (s : Session) :
    Changes true s (lines.foldl (fun s l => after (handleLine l) s) s) := by
  induction lines generalizing s with
  | nil => exact .refl
  | cons l lines ih =>
    have hline : Changes true s (after (handleLine l) s) := after_changes (handleLine_changes l)
    rw [List.foldl_cons]
    exact hline.trans (ih (after (handleLine l) s))

theorem runLine_changes (engine : ShellEngine) (macros : List (String × Macro.Spec)) (line : String) (s : Session) :
    Changes true s (runLine engine macros line s).2 := by
  have hexpand : Changes true s (expand engine macros line s).2 :=
    changes_of_quiet (expand_quiet engine macros line s)
  unfold runLine
  cases hr : expand engine macros line s with
  | mk r s₁ =>
    rw [hr] at hexpand
    cases r with
    | error e => exact hexpand
    | ok lines => exact hexpand.trans (handleLines_changes lines s₁)

theorem runLines_changes (engine : ShellEngine) (macros : List (String × Macro.Spec)) (lines : List String)
    (s : Session) : Changes true s (runLines engine macros lines s).2 := by
  induction lines generalizing s with
  | nil => exact .refl
  | cons line rest ih =>
    have hline := runLine_changes engine macros line s
    unfold runLines
    cases hr : runLine engine macros line s with
    | mk error s₁ =>
      rw [hr] at hline
      cases error with
      | some e => exact hline
      | none => exact hline.trans (ih s₁)

/-! ## The moment in which the input ends -/

/-- The shell is not over. -/
def IsLive (shell : Shell) : Prop :=
  shell.phase.isOver = false

/-- How the input of a shell ends as it starts, and in which session: a start command cannot be expanded, or nobody
types and there is no subscription to wait for. -/
inductive EndsAtStart (setup : Setup) : Session → Option ShellError → Prop where
  | command {s s' : Session} {e : ShellError} (hconnect : connect setup = (.ok (), s))
      (h : runLines setup.engine setup.settings.macros setup.settings.commands s = (some e, s')) :
      EndsAtStart setup s' (some e)
  | idle {s s' : Session} (hconnect : connect setup = (.ok (), s))
      (h : runLines setup.engine setup.settings.macros setup.settings.commands s = (none, s'))
      (hmode : setup.settings.nonInteractive = true) (hidle : s'.isActive = false) : EndsAtStart setup s' none

/-- How the input of a shell ends with something that happens, and in which session: it is stopped at the prompt, a
line cannot be expanded, a signal comes, or no line can be asked for. -/
inductive EndsWith : Shell → Occurrence → Session → Option ShellError → Prop where
  | stop {shell : Shell} {reader : LineReader} {i : Input} (hphase : shell.phase = .asking reader)
      (h : (reader.feed i).2 = .stop) : EndsWith shell (.input i) shell.session none
  | line {shell : Shell} {reader reader' : LineReader} {i : Input} {line : String} {s : Session} {e : ShellError}
      (hphase : shell.phase = .asking reader) (hline : reader.feed i = (reader', .line line))
      (h : runLine shell.engine shell.macros line shell.session = (some e, s)) : EndsWith shell (.input i) s (some e)
  | signal {shell : Shell} (hphase : shell.phase = .waiting) : EndsWith shell (.input .ended) shell.session none
  | failed {shell : Shell} {cause : Fault} (hlive : shell.IsLive) :
      EndsWith shell (.failed cause) shell.session (some (.fault cause))

/-- What is left of a session when the shell has ended. -/
def closed (s : Session) : Session :=
  after (do Session.close; note .disconnected) s

theorem step_of_over {shell : Shell} (h : ¬ shell.IsLive) (o : Occurrence) : shell.step o = shell := by
  have hover : shell.phase.isOver = true := by simpa [IsLive] using h
  cases o with
  | message topic payload =>
    show (shell.message topic payload).2 = shell
    rw [message, if_pos hover]
  | reconnected =>
    show shell.reconnect = shell
    rw [reconnect, if_pos hover]
  | failed cause =>
    show shell.fail cause = shell
    rw [fail, if_pos hover]
  | input i =>
    show shell.input i = shell
    unfold input
    cases hphase : shell.phase with
    | ended error => rfl
    | asking reader =>
      rw [hphase] at hover
      cases hover
    | waiting =>
      rw [hphase] at hover
      cases hover

/-- The input of a shell ends with something that happens, or the shell goes on. -/
def Proceeds (shell : Shell) (o : Occurrence) (shell' : Shell) : Prop :=
  (∃ s error, EndsWith shell o s error ∧ shell' = { shell with session := closed s, phase := .ended error }) ∨
    shell'.IsLive ∧ Changes true shell.session shell'.session

theorem read_proceeds {shell : Shell} {reader : LineReader} (hphase : shell.phase = .asking reader) (i : Input) :
    shell.Proceeds (.input i) (shell.read reader i) := by
  unfold Shell.read
  cases hfeed : reader.feed i with
  | mk reader' action =>
    cases action with
    | more => exact .inr ⟨rfl, .refl⟩
    | listing => exact .inr ⟨rfl, changes_of_quiet (sayAll_quiet _ _ _)⟩
    | stop => exact .inl ⟨_, _, .stop hphase (by rw [hfeed]), rfl⟩
    | line line =>
      have hch := runLine_changes shell.engine shell.macros line shell.session
      cases hrun : runLine shell.engine shell.macros line shell.session with
      | mk error s =>
        rw [hrun] at hch
        dsimp only
        rw [hrun]
        cases error with
        | none => exact .inr ⟨rfl, hch⟩
        | some e => exact .inl ⟨s, some e, .line hphase hfeed hrun, rfl⟩

/-- **One thing that happens** ends the input of a shell, or the shell goes on. -/
theorem step_proceeds {shell : Shell} (hlive : shell.IsLive) (o : Occurrence) : shell.Proceeds o (shell.step o) := by
  have hnot : ¬ shell.phase.isOver = true := by
    rw [hlive]
    exact Bool.false_ne_true
  cases o with
  | message topic payload =>
    show shell.Proceeds _ (shell.message topic payload).2
    have hq : shell.session.Quiet ((Session.deliver topic topic payload).run shell.session).2 :=
      deliver_quiet topic topic payload shell.session
    rw [message, if_neg hnot]
    exact .inr ⟨hlive, changes_of_quiet (hq.trans (settle_quiet _))⟩
  | reconnected =>
    show shell.Proceeds _ shell.reconnect
    rw [reconnect, if_neg hnot]
    exact .inr ⟨hlive, reconnect_changes⟩
  | failed cause =>
    show shell.Proceeds _ (shell.fail cause)
    rw [fail, if_neg hnot]
    exact .inl ⟨_, _, .failed hlive, rfl⟩
  | input i =>
    show shell.Proceeds _ (shell.input i)
    unfold input
    cases hphase : shell.phase with
    | asking reader => exact read_proceeds hphase i
    | ended error =>
      rw [IsLive, hphase] at hlive
      cases hlive
    | waiting =>
      by_cases hi : i = .ended
      · subst hi
        exact .inl ⟨_, _, .signal hphase, rfl⟩
      · simp only [if_neg hi]
        exact .inr ⟨hlive, .refl⟩

theorem not_isLive_of_ended {shell : Shell} {error : Option ShellError} (h : shell.phase = .ended error) :
    ¬ shell.IsLive := by
  rw [IsLive, h]
  exact Bool.noConfusion

/-! ## Everything that happens -/

/-- The input of a shell ends with one of the things that happen, before which it goes on. -/
def EndsIn (shell : Shell) (occurrences : List Occurrence) (s : Session) (error : Option ShellError) : Prop :=
  ∃ before o later, occurrences = before ++ o :: later ∧
    (before.foldl step shell).IsLive ∧ EndsWith (before.foldl step shell) o s error

theorem EndsIn.concat {shell : Shell} {occurrences : List Occurrence} {s : Session} {error : Option ShellError}
    (h : shell.EndsIn occurrences s error) (o : Occurrence) : shell.EndsIn (occurrences ++ [o]) s error := by
  obtain ⟨before, o', later, rfl, hlive, hends⟩ := h
  exact ⟨before, o', later ++ [o], by simp, hlive, hends⟩

theorem foldl_concat (shell : Shell) (occurrences : List Occurrence) (o : Occurrence) :
    (occurrences ++ [o]).foldl step shell = (occurrences.foldl step shell).step o := by
  rw [List.foldl_append]
  rfl

theorem EndsWith.changes {shell : Shell} {o : Occurrence} {s : Session} {error : Option ShellError}
    (h : EndsWith shell o s error) : Changes true shell.session s := by
  cases h with
  | stop => exact .refl
  | signal => exact .refl
  | failed => exact .refl
  | @line _ _ _ line _ _ hphase hline h =>
    have hch := runLine_changes shell.engine shell.macros line shell.session
    rwa [h] at hch

/-- As long as a shell goes on, its session goes through changes and nothing else. -/
theorem foldl_changes {shell : Shell} (occurrences : List Occurrence) (h : (occurrences.foldl step shell).IsLive) :
    Changes true shell.session (occurrences.foldl step shell).session := by
  induction occurrences using List.reverseRecOn with
  | nil => exact .refl
  | append_singleton occurrences o ih =>
    rw [foldl_concat] at h ⊢
    have hbefore : (occurrences.foldl step shell).IsLive := by
      by_contra hover
      rw [step_of_over hover] at h
      exact hover h
    rcases step_proceeds hbefore o with ⟨s, error, _, heq⟩ | ⟨_, hch⟩
    · rw [heq] at h
      exact (not_isLive_of_ended rfl h).elim
    · exact (ih hbefore).trans hch

/-- The first thing that ends the input decides how the shell is left; nothing after it has an effect. -/
theorem foldl_proceeds {shell : Shell} (hlive : shell.IsLive) (occurrences : List Occurrence) :
    (∃ s error, shell.EndsIn occurrences s error ∧ (occurrences.foldl step shell).session = closed s ∧
      (occurrences.foldl step shell).phase = .ended error) ∨ (occurrences.foldl step shell).IsLive := by
  induction occurrences using List.reverseRecOn with
  | nil => exact .inr hlive
  | append_singleton occurrences o ih =>
    rw [foldl_concat]
    rcases ih with ⟨s, error, hends, hs, hphase⟩ | hbefore
    · rw [step_of_over (not_isLive_of_ended hphase)]
      exact .inl ⟨s, error, hends.concat o, hs, hphase⟩
    · rcases step_proceeds hbefore o with ⟨s, error, hends, heq⟩ | ⟨hafter, _⟩
      · rw [heq]
        exact .inl ⟨s, error, ⟨occurrences, o, [], rfl, hbefore, hends⟩, rfl, rfl⟩
      · exact .inr hafter

/-! ## The end of the input -/

theorem feed_ended (reader : LineReader) : (reader.feed .ended).1 = .idle := by
  cases reader <;> rfl

/-- With an input at the prompt the reader goes on, or the shell is over. -/
theorem read_phase (shell : Shell) (reader : LineReader) (i : Input) :
    (shell.read reader i).phase = .asking (reader.feed i).1 ∨ ¬ (shell.read reader i).IsLive := by
  unfold Shell.read
  cases reader.feed i with
  | mk reader' action =>
    cases action with
    | more => exact .inl rfl
    | listing => exact .inl rfl
    | stop => exact .inr (not_isLive_of_ended rfl)
    | line line =>
      dsimp only
      cases runLine shell.engine shell.macros line shell.session with
      | mk error s =>
        cases error with
        | none => exact .inl rfl
        | some e => exact .inr (not_isLive_of_ended rfl)

theorem input_ended (shell : Shell) :
    (shell.input .ended).phase = .asking .idle ∨ ¬ (shell.input .ended).IsLive := by
  unfold input
  cases hphase : shell.phase with
  | asking reader =>
    have h := read_phase shell reader .ended
    rwa [feed_ended] at h
  | waiting => exact .inr (not_isLive_of_ended rfl)
  | ended error => exact .inr (not_isLive_of_ended hphase)

/-- However a shell is read, the end of the input leads to its end: the first one may end a heredoc only. -/
theorem stop_over (shell : Shell) : ¬ shell.stop.IsLive := by
  unfold stop
  rcases input_ended shell with h | h
  · have hstop : (shell.input .ended).input .ended = (shell.input .ended).finish none := by
      rw [input, h]
      rfl
    rw [hstop]
    exact not_isLive_of_ended rfl
  · have hsame : (shell.input .ended).input .ended = shell.input .ended := step_of_over h (.input .ended)
    rwa [hsame]

/-! ## Before anything happens -/

/-- Before the start commands nothing has happened, but perhaps a connection has been asked for. -/
theorem connect_session (setup : Setup) :
    (connect setup).2 = newSession setup ∨ (connect setup).2 = (newSession setup).noted .connecting := by
  unfold connect
  cases setup.engine.validate setup.settings.macros with
  | error e => exact .inl rfl
  | ok u =>
    by_cases hmissing : (setup.settings.broker.getD "").isEmpty = true
    · exact .inl (by simp only [if_pos hmissing])
    · simp only [if_neg hmissing]
      cases setup.refusal with
      | some message => exact .inr rfl
      | none => exact .inr rfl

theorem connect_accounted (setup : Setup) : (connect setup).2.Accounted := by
  have hnew : (newSession setup).Accounted :=
    ⟨List.nodup_nil, fun _ _ => ⟨nofun, nofun⟩, fun _ => rfl, fun _ => rfl⟩
  rcases connect_session setup with h | h
  · rw [h]
    exact hnew
  · rw [h]
    exact hnew.of_log rfl rfl rfl (by simp)

theorem start_of_error {setup : Setup} {e : ShellError} (h : (connect setup).1 = .error e) :
    (start setup).phase = .ended (some e) ∧ (start setup).session = (connect setup).2 := by
  unfold start
  cases hconnect : connect setup with
  | mk r s =>
    rw [hconnect] at h
    cases h
    exact ⟨rfl, rfl⟩

theorem EndsAtStart.changes {setup : Setup} {s : Session} {error : Option ShellError} (h : EndsAtStart setup s error) :
    Changes true (connect setup).2 s := by
  have hch := runLines_changes setup.engine setup.settings.macros setup.settings.commands (connect setup).2
  cases h with
  | command hconnect h =>
    rw [hconnect] at hch ⊢
    rwa [h] at hch
  | idle hconnect h =>
    rw [hconnect] at hch ⊢
    rwa [h] at hch

/-- **The start commands** end the input of a shell, or the shell goes on. -/
theorem start_proceeds {setup : Setup} (h : (connect setup).1 = .ok ()) :
    (∃ s error, EndsAtStart setup s error ∧ (start setup).session = closed s ∧ (start setup).phase = .ended error) ∨
      (start setup).IsLive ∧ Changes true (connect setup).2 (start setup).session := by
  unfold start
  cases hconnect : connect setup with
  | mk r s =>
    rw [hconnect] at h
    cases h
    have hch := runLines_changes setup.engine setup.settings.macros setup.settings.commands s
    dsimp only
    cases hrun : runLines setup.engine setup.settings.macros setup.settings.commands s with
    | mk error s' =>
      rw [hrun] at hch
      dsimp only
      cases error with
      | some e =>
        refine .inl ⟨s', some e, .command hconnect hrun, ?_⟩
        by_cases hmode : setup.settings.nonInteractive = true
        · simp only [hmode, Bool.not_true, Bool.false_eq_true, if_false, Option.isSome_some, Bool.true_or, if_true]
          exact ⟨rfl, rfl⟩
        · simp only [hmode, Bool.not_false, if_true, proceed]
          exact ⟨rfl, rfl⟩
      | none =>
        by_cases hmode : setup.settings.nonInteractive = true
        · by_cases hidle : s'.isActive = true
          · refine .inr ?_
            simp only [hmode, hidle, proceed]
            exact ⟨rfl, hch⟩
          · refine .inl ⟨s', none, .idle hconnect hrun hmode (by simpa using hidle), ?_⟩
            simp only [hmode, hidle, Bool.not_true, Bool.not_false, Bool.false_eq_true, if_false, Option.isSome_none,
              Bool.or_true, if_true]
            exact ⟨rfl, rfl⟩
        · refine .inr ?_
          simp only [hmode, proceed]
          exact ⟨rfl, hch⟩

/-! ## Closing -/

/-- What closing leaves of a session: first the inputs of all background pipelines are closed, each of them once, and
then the connection, which nobody has closed before; the broker is not called any more. -/
structure ShutDown (s s' : Session) : Prop where
  connected : Event.disconnected ∉ s.log
  log : s'.log = s.log ++ s.longTerm.map (Event.shut ·.2) ++ [.disconnected]
  shut : ∀ n, Event.opened n ∈ s.log → (s.log ++ s.longTerm.map (Event.shut ·.2)).count (.shut n) = 1
  calls : s'.calls = s.calls
  longTerm : s'.longTerm = []
  closed : ∀ w ∈ s'.backgrounds, w.isOpen = false

theorem closed_eq (s : Session) : closed s = ((Move.close.apply s).noted .disconnected).settle := by
  have hclose : Session.close.run s = (.ok (), Move.close.apply s) := Prod.ext (by rw [close_run]) rfl
  show ((Session.close >>= fun _ => note .disconnected).run s).2.settle = _
  rw [run_bind, hclose]
  rfl

theorem close_log (s : Session) : (Move.close.apply s).log = s.log ++ s.longTerm.map (Event.shut ·.2) := by
  show (Session.close.run s).2.log = _
  rw [close_run]
  show s.allShut.settle.log = _
  rw [settle_log, allShut_log]

theorem isOpen_of_handles {s s' : Session} (h : s'.handles = s.handles) (hs : ∀ w ∈ s.backgrounds, w.isOpen = false) :
    ∀ w ∈ s'.backgrounds, w.isOpen = false := by
  intro w' hw'
  have hmem : (w'.topic, w'.isOpen) ∈ s.handles := by
    rw [← h]
    exact List.mem_map_of_mem hw'
  obtain ⟨w, hw, heq⟩ := List.mem_map.mp hmem
  have hopen : w.isOpen = w'.isOpen := congrArg Prod.snd heq
  rw [← hopen]
  exact hs w hw

/-- An input that was opened is closed once when the session has been closed. -/
theorem count_shut_close {s : Session} (hs : s.Accounted) {n : Nat} (h : Event.opened n ∈ s.log) :
    (Move.close.apply s).log.count (.shut n) = 1 := by
  have hclosed : (Move.close.apply s).Accounted := hs.apply .close
  have hmem : Event.opened n ∈ (Move.close.apply s).log := by
    rw [close_log]
    exact List.mem_append_left _ h
  have hlt : n < (Move.close.apply s).backgrounds.length := by
    by_contra hge
    have hcount := hclosed.opened n
    rw [if_neg (by simpa [handles] using hge), List.count_eq_zero] at hcount
    exact hcount hmem
  have hopen := (close_shuts hs).2 _ (List.getElem_mem hlt)
  rw [hclosed.count_shut (List.getElem?_eq_getElem hlt), hopen]
  rfl

/-- **Closing** shuts down every session that has been connected and whose writers are accounted for. -/
theorem closed_shutDown {s : Session} (hs : s.Accounted) (hconnected : Event.disconnected ∉ s.log) :
    ShutDown s (closed s) := by
  have hq := settle_quiet ((Move.close.apply s).noted .disconnected)
  have hlog : (closed s).log = s.log ++ s.longTerm.map (Event.shut ·.2) ++ [.disconnected] := by
    rw [closed_eq, settle_log, ← close_log]
    rfl
  have hcalls : (s.longTerm.map (Event.shut ·.2)).filterMap Event.call? = [] := by
    rw [List.filterMap_map]
    exact List.filterMap_eq_nil_iff.mpr fun _ _ => rfl
  refine ⟨hconnected, hlog, ?_, ?_, ?_, ?_⟩
  · intro n h
    rw [← close_log]
    exact count_shut_close hs h
  · rw [calls, hlog, List.filterMap_append, List.filterMap_append, hcalls, List.append_nil]
    exact List.append_nil _
  · rw [closed_eq, hq.longTerm]
    exact (close_shuts hs).1
  · rw [closed_eq]
    exact isOpen_of_handles hq.handles (close_shuts hs).2

/-! ## Whole runs -/

/-- Everything that happens, and the end of the input after that; the first one may end a heredoc only. -/
def untilEnd (occurrences : List Occurrence) : List Occurrence :=
  occurrences ++ [.input .ended, .input .ended]

theorem run_eq (setup : Setup) (occurrences : List Occurrence) :
    run setup occurrences = (untilEnd occurrences).foldl step (start setup) := by
  rw [untilEnd, List.foldl_append]
  rfl

/-- How the input of a shell ends in a run, and in which session: as the shell starts, or with one of the things that
happen. -/
def InputEnds (setup : Setup) (occurrences : List Occurrence) (s : Session) (error : Option ShellError) : Prop :=
  EndsAtStart setup s error ∨ (start setup).EndsIn (untilEnd occurrences) s error

theorem foldl_of_over {shell : Shell} (h : ¬ shell.IsLive) (occurrences : List Occurrence) :
    occurrences.foldl step shell = shell := by
  induction occurrences with
  | nil => rfl
  | cons o occurrences ih => rw [List.foldl_cons, step_of_over h, ih]

/-- The session in which the input ends has come from the connection by changes. -/
theorem InputEnds.changes {setup : Setup} {occurrences : List Occurrence} {s : Session} {error : Option ShellError}
    (hconnect : (connect setup).1 = .ok ()) (h : InputEnds setup occurrences s error) :
    Changes true (connect setup).2 s := by
  rcases h with h | ⟨before, o, later, _, hlive, hends⟩
  · exact h.changes
  · rcases start_proceeds hconnect with ⟨s', error', _, _, hphase⟩ | ⟨_, hstart⟩
    · rw [foldl_of_over (not_isLive_of_ended hphase)] at hlive
      exact (not_isLive_of_ended hphase hlive).elim
    · exact (hstart.trans (foldl_changes before hlive)).trans hends.changes

theorem run_inputEnds {setup : Setup} (hconnect : (connect setup).1 = .ok ()) (occurrences : List Occurrence) :
    ∃ s error, InputEnds setup occurrences s error ∧ (run setup occurrences).session = closed s ∧
      (run setup occurrences).phase = .ended error := by
  rcases start_proceeds hconnect with ⟨s, error, hends, hs, hphase⟩ | ⟨hlive, _⟩
  · rw [run_eq, foldl_of_over (not_isLive_of_ended hphase)]
    exact ⟨s, error, .inl hends, hs, hphase⟩
  · rcases foldl_proceeds hlive (untilEnd occurrences) with ⟨s, error, hends, hs, hphase⟩ | hon
    · rw [run_eq]
      exact ⟨s, error, .inr hends, hs, hphase⟩
    · rw [← run_eq] at hon
      exact (stop_over _ hon).elim

theorem connect_not_disconnected (setup : Setup) : Event.disconnected ∉ (connect setup).2.log := by
  rcases connect_session setup with h | h <;> simp [h, newSession, noted]

theorem connect_calls (setup : Setup) : (connect setup).2.calls = [] := by
  rcases connect_session setup with h | h <;> rw [h] <;> rfl

/-- **A shell ends in order.**  Without a connection nothing is done.  With one the input ends somewhere, and however
it ends, whatever has happened before and whatever would have come after it: the session in which it ends is closed as
`ShutDown` says, the inputs of the background pipelines first and the connection last, and that is all. -/
theorem shutdown_in_order (setup : Setup) (occurrences : List Occurrence) :
    let shell := run setup occurrences
    (∀ e, (connect setup).1 = .error e → shell.phase = .ended (some e) ∧
      (shell.session = newSession setup ∨ shell.session = (newSession setup).noted .connecting) ∧
      shell.session.calls = []) ∧
    ((connect setup).1 = .ok () → ∃ s error, InputEnds setup occurrences s error ∧ shell.phase = .ended error ∧
      ShutDown s shell.session) := by
  intro shell
  refine ⟨?_, ?_⟩
  · intro e he
    obtain ⟨hphase, hs⟩ := start_of_error he
    have hshell : shell = start setup := (run_eq setup occurrences).trans (foldl_of_over (not_isLive_of_ended hphase) _)
    rw [hshell, hs]
    exact ⟨hphase, connect_session setup, connect_calls setup⟩
  · intro hconnect
    obtain ⟨s, error, hends, hs, hphase⟩ := run_inputEnds hconnect occurrences
    have hch : Changes true (connect setup).2 s := hends.changes hconnect
    have haccounted : s.Accounted := hch.keep (fun _ _ h => h.accounted) (connect_accounted setup)
    have hconnected : Event.disconnected ∉ s.log :=
      mt hch.disconnected_mem.mp (connect_not_disconnected setup)
    refine ⟨s, error, hends, hphase, ?_⟩
    rw [show shell.session = closed s from hs]
    exact closed_shutDown haccounted hconnected

-- a start command opens a writer; the line that is typed behind `exit` is not handled any more
example : (run { settings := { broker := some "h", commands := ["sub t > f &"] } }
    [.message "t" [1], .input (.typed "exit"), .input (.typed "unsub t")]).session.log =
      [.connecting, .opened 0, .called (.subscribe "t" 0), .shut 0, .disconnected] := by
  decide +kernel

end Shell

end TopicShell
