import TopicShell.Proofs.Files.Tree
import TopicShell.Proofs.Pipeline.Targets
import TopicShell.Proofs.Session.Endings
import TopicShell.Proofs.Session.TopicLists

/-!
# Messages that go straight into a file

A line whose chain has no stages sends the messages of its topic straight into a file (`Redirects`).  Without `&` each
message has a pipeline of its own, which opens the file anew: it puts the payload behind what the file holds, or in its
place (`StoresEach.message`).  With `&` there is one pipeline, a `copier`, which opens the file once, is fed the
payloads with a line feed behind each (`FeedsCopier.message`), and stores all of them when it ends.

Payloads arrive one by one while other things happen that leave the subscription and the file alone (`Receives`), so
what one message keeps a row of messages keeps, by induction over it.  The input of a copier is closed when its topic is
given up or with the session (`FeedsCopier.unsub`, `FeedsCopier.close`); from then on it waits for its end (`Drains`).
-/

namespace TopicShell

open Files Line

/-! ## Copying into a file -/

namespace Pipeline

variable {spot : List String} {appends : Bool}

/-- A sink that takes everything has taken all chunks in the end. -/
theorem copy_taking (chunks taken : List Octets) :
    copy chunks [{ sink := .taking, taken }] = ([{ sink := .taking, taken := taken ++ chunks }], none) := by
  induction chunks generalizing taken with
  | nil =>
    rw [List.append_nil]
    rfl
  | cons chunk chunks ih =>
    show copy chunks [{ sink := .taking, taken := taken ++ [chunk] }] = _
    rw [ih, List.append_assoc]
    rfl

theorem stream_ne_nothing {content : Octets} : Source.stream content ≠ .nothing :=
  nofun

/-- A copy without stages stores the octets of its source in the file, however they are read. -/
theorem close_runCopy (spot : List String) (appends : Bool) {source : Source} {chunks : List Octets} (files : Tree)
    (hsource : source ≠ .nothing) (hchunks : chunks.flatten = inputOf source) :
    let closed := close (some ⟨.regular spot, appends, 0⟩) (runCopy ⟨[], source, [.taking]⟩ chunks) files
    closed.files = files.store ⟨.regular spot, appends, 0⟩ (inputOf source) ∧
      closed.report.abort = none ∧ closed.closing = none := by
  intro closed
  cases source with
  | nothing => exact absurd rfl hsource
  | octets content =>
    refine ⟨?_, rfl, rfl⟩
    show files.store ⟨.regular spot, appends, 0⟩ [content].flatten = _
    rw [List.flatten_singleton]
    rfl
  | stream content =>
    have hcopy := copy_taking chunks []
    have hreport : runCopy ⟨[], .stream content, [.taking]⟩ chunks = { intakes := [⟨.taking, chunks⟩] } := by
      simp only [runCopy, List.map_cons, List.map_nil, hcopy]
      rfl
    simp only [closed, hreport]
    refine ⟨?_, rfl, rfl⟩
    show files.store ⟨.regular spot, appends, 0⟩ chunks.flatten = _
    rw [hchunks]

theorem flatten_chunksOf (output : Octets) : (chunksOf output).flatten = output := by
  unfold chunksOf
  split
  · rename_i h
    exact (List.isEmpty_iff.mp h).symm
  · exact List.flatten_singleton

theorem ofChain_source {c : Chain} {source : Source} {sinks : List Sink} {files : Tree} {offset : Nat} {merge : Bool}
    {b : Built} (h : ofChain c source sinks files offset merge = .ok b) : b.pipeline.source = source := by
  unfold ofChain at h
  split at h
  · cases h
    rfl
  · split at h
    · cases h
    · cases h
      rfl

/-- The chain has no stage: its second command is the file it stores in. -/
structure Copies (c : Chain) (path : String) (link : Link) : Prop where
  commands : ∃ first arguments, c.commands = [first, ⟨path, arguments⟩]
  lastLink : c.links.getLast? = some link
  storing : link.stores = true

theorem Copies.stores {c : Chain} {path : String} {link : Link} (h : Copies c path link) : c.stores = true := by
  rw [Chain.stores, h.lastLink, Option.any_some, h.storing]

/-- The pipeline of such a chain copies its source into the file. -/
theorem Copies.built {c : Chain} {path : String} {link : Link} (h : Copies c path link) {files files' : Tree}
    (hopen : files.openTarget path link.keepsContent = .ok (⟨.regular spot, link.keepsContent, 0⟩, files'))
    (source : Source) :
    ofChain c source [] files 1 false =
      .ok ⟨⟨[], source, [.taking]⟩, some ⟨.regular spot, link.keepsContent, 0⟩, files'⟩ := by
  obtain ⟨first, arguments, hcommands⟩ := h.commands
  have hcommands' : c.commands = [first] ++ [⟨path, arguments⟩] := hcommands
  have hin : StoresIn c link [first.words] path := storesIn_of_commands hcommands' h.lastLink h.storing
  obtain ⟨⟨⟨stages, source', sinks⟩, target, tree⟩, hb, hstages, htarget, hfiles, hsinks⟩ :=
    hin.built source [] files 1 false _ _ hopen
  cases List.map_eq_nil_iff.mp hstages
  cases htarget
  cases hfiles
  cases hsinks
  cases ofChain_source hb
  exact hb

end Pipeline

namespace Session

open Pipeline

/-! ## Lines that store messages in a file -/

/-- The line subscribes one topic, and what arrives goes straight into a file. -/
structure Redirects (line : String) (s : Session) (c : Chain) (topic : String) (qos : Int) (path : String)
    (link : Link) : Prop where
  subscribes : Subscribes line s c ⟨[topic], qos⟩
  copies : Copies c path link

/-- Such a line has the words `sub`, a topic, a link that stores and a file, and perhaps an `&`. -/
theorem redirects_of_words {line topic path : String} {link : Link} {background : Bool} (s : Session)
    (hline : '\n' ∉ line.toList)
    (hwords : Words.split line = .ok (["sub", topic, link.text, path] ++ if background then [longTermWord] else []))
    (htopic : topic ∉ linkWords) (hflag : topic ≠ "-q") (hpath : path ∉ linkWords)
    (hmark : background = false → path ≠ longTermWord) (hstores : link.stores = true) :
    ∃ c, Redirects line s c topic s.subscribeQos path link ∧ c.isLongTerm = background := by
  have hsub : Link.ofWord? "sub" = none := by decide
  have hamp : Link.ofWord? "&" = none := by decide
  have hbuiltin : Builtin.ofWord? "sub" = some .sub := by decide
  have hread := interpret_of_no_newline hline hwords
  have hrequest : Request.ofArguments [topic] s.subscribeQos = .ok ⟨[topic], s.subscribeQos⟩ := by
    simp [Request.ofArguments, scanArguments, hflag, Scanned.add, Except.map]
  cases background with
  | false =>
    refine ⟨⟨[⟨"sub", [topic]⟩, ⟨path, []⟩], [link], ["sub", topic, link.text, path], false⟩,
      ⟨⟨?_, ⟨⟨"sub", [topic]⟩, _, rfl, hbuiltin, hrequest⟩⟩, ⟨⟨_, _, rfl⟩, rfl, hstores⟩⟩, ?_⟩
    · rw [hread]
      simp [chainOf, linksOf, groups, hsub, Link.ofWord?_of_not_mem htopic, Link.ofWord?_of_not_mem hpath,
        Link.ofWord?_text, Chain.isLongTerm, hmark rfl, Command.ofWords?]
    · simp [Chain.isLongTerm, hmark rfl]
  | true =>
    refine ⟨⟨[⟨"sub", [topic]⟩, ⟨path, []⟩], [link], ["sub", topic, link.text, path, "&"], false⟩,
      ⟨⟨?_, ⟨⟨"sub", [topic]⟩, _, rfl, hbuiltin, hrequest⟩⟩, ⟨⟨_, _, rfl⟩, rfl, hstores⟩⟩, ?_⟩
    · rw [hread]
      simp [chainOf, linksOf, groups, hsub, hamp, Link.ofWord?_of_not_mem htopic, Link.ofWord?_of_not_mem hpath,
        Link.ofWord?_text, Chain.isLongTerm, longTermWord, Command.ofWords?, dropLongTermWord, Except.map]
    · simp [Chain.isLongTerm, longTermWord]

/-! ## Rows of moves in which messages arrive -/

/-- The subscription of a topic and a file are left alone. -/
structure LeavesAlone (topic path : String) (s s' : Session) : Prop where
  subscription : Untouched topic s s'
  file : s'.files.locate path = s.files.locate path
  accepting : s'.accepting = s.accepting

/-- In a row of moves some payloads arrive for the handler of a topic, in order; everything else leaves the
subscription and the file alone. -/
inductive Receives (topic path : String) : Session → List Move → List Octets → Prop where
  | nil {s : Session} : Receives topic path s [] []
  | message {s : Session} {name : String} {payload : Octets} {ms : List Move} {payloads : List Octets}
      (h : Receives topic path ((Move.message topic name payload).apply s) ms payloads) :
      Receives topic path s (.message topic name payload :: ms) (payload :: payloads)
  | aside {s : Session} {m : Move} {ms : List Move} {payloads : List Octets}
      (hm : LeavesAlone topic path s (m.apply s)) (h : Receives topic path (m.apply s) ms payloads) :
      Receives topic path s (m :: ms) payloads

/-- Files that other programs change are none of the session's business as long as they are others. -/
theorem leavesAlone_files {topic path : String} {tree : Tree} {s : Session}
    (h : tree.locate path = s.files.locate path) : LeavesAlone topic path s ((Move.files tree).apply s) :=
  ⟨⟨rfl, rfl, rfl, fun _ _ => rfl⟩, h, rfl⟩

theorem handler?_eq (r : Registry) (topic : String) : r.handler? topic = (r.installed? topic).map Prod.snd := by
  rw [Registry.installed?, Option.map_map]
  rfl

theorem handler?_install_self (r : Registry) (i : Installed) : (r.install i).handler? i.topic = some i.handler := by
  rw [handler?_eq, installed?_install_self]
  rfl

theorem Untouched.handler {topic : String} {s s' : Session} (h : Untouched topic s s') :
    s'.broker.handler? topic = s.broker.handler? topic := by
  rw [handler?_eq, handler?_eq, h.installed]

section Foreground

variable {c : Chain} {topic path : String} {link : Link} {spot : List String} {content : Octets} {s s' : Session}

theorem runPerMessage_run (h : Copies c path link) {files' : Tree}
    (hopen : s.files.openTarget path link.keepsContent = .ok (⟨.regular spot, link.keepsContent, 0⟩, files'))
    (payload : Octets) (lead : String) :
    (runPerMessage c payload lead).run s =
      (.ok (), { s with files := files'.store ⟨.regular spot, link.keepsContent, 0⟩ payload }) := by
  have hbuild : (build c (.octets payload) []).run s =
      (.ok ⟨⟨[], .octets payload, [.taking]⟩, some ⟨.regular spot, link.keepsContent, 0⟩, files'⟩,
        { s with files := files' }) := by
    simp only [build, run_bind, run_get, h.built hopen (.octets payload)]
    rfl
  have hexecute : ∀ environment machine, Built.execute
      ⟨⟨[], .octets payload, [.taking]⟩, some ⟨.regular spot, link.keepsContent, 0⟩, files'⟩ environment machine =
        ⟨{ intakes := [⟨.taking, [payload]⟩] },
          files'.store ⟨.regular spot, link.keepsContent, 0⟩ payload, none⟩ := by
    intro environment machine
    show (⟨_, files'.store _ [payload].flatten, none⟩ : Closed) = _
    rw [List.flatten_singleton]
    rfl
  simp only [runPerMessage, h.stores, if_true, run_bind, run_tryCatch, map_eq_pure_bind, hbuild, run_pure, run_get,
    run_modify, hexecute]

/-- Each message of the topic is stored by a pipeline of its own. -/
structure StoresEach (c : Chain) (topic : String) (s : Session) : Prop where
  handler : ∃ d, s.broker.handler? topic = some (.perMessage c d)
  accepting : s.accepting = true

theorem StoresEach.leftAlone (hs : StoresEach c topic s) (h : LeavesAlone topic path s s') : StoresEach c topic s' := by
  refine ⟨?_, h.accepting.trans hs.accepting⟩
  rw [h.subscription.handler]
  exact hs.handler

/-- **One message** is put behind what the file holds, or takes its place. -/
theorem StoresEach.message (hs : StoresEach c topic s) (h : Copies c path link)
    (hfile : s.files.Holds path spot content) (name : String) (payload : Octets) :
    StoresEach c topic ((Move.message topic name payload).apply s) ∧
      ((Move.message topic name payload).apply s).files.HasFile path spot
        ((if link.keepsContent then content else []) ++ payload) := by
  obtain ⟨d, hd⟩ := hs.handler
  obtain ⟨files', hopen, hfile'⟩ := hfile.openTarget link.keepsContent
  have hrun : (Move.message topic name payload).apply s =
      { s with files := files'.store ⟨.regular spot, link.keepsContent, 0⟩ payload } := by
    show ((deliver topic name payload).run s).2 = _
    simp only [deliver_run, hd, handle_run, hs.accepting, if_true, runPerMessage_run h hopen]
  rw [hrun]
  refine ⟨⟨hs.handler, hs.accepting⟩, hfile'.store ?_ payload⟩
  intro hkeeps
  rw [hkeeps]
  rfl

/-- What a file holds after payloads have been written to it one by one. -/
def writtenTo (keeps : Bool) (content : Octets) (payloads : List Octets) : Octets :=
  if keeps then content ++ payloads.flatten else payloads.getLast?.getD content

theorem writtenTo_nil (keeps : Bool) (content : Octets) : writtenTo keeps content [] = content := by
  cases keeps with
  | true => exact List.append_nil content
  | false => rfl

theorem writtenTo_cons (keeps : Bool) (content payload : Octets) (payloads : List Octets) :
    writtenTo keeps ((if keeps then content else []) ++ payload) payloads
      = writtenTo keeps content (payload :: payloads) := by
  cases keeps with
  | true => simp [writtenTo, List.append_assoc]
  | false => simp [writtenTo, List.getLast?_cons]

/-- **A row of messages, each with a pipeline of its own.** -/
theorem StoresEach.run {ms : List Move} {payloads : List Octets} (hms : Receives topic path s ms payloads)
    (hs : StoresEach c topic s) (h : Copies c path link) (hfile : s.files.Holds path spot content) :
    if payloads = [] then (run ms s).files.locate path = s.files.locate path
    else (run ms s).files.HasFile path spot (writtenTo link.keepsContent content payloads) := by
  induction hms generalizing content with
  | nil => rfl
  | @message s name payload ms payloads hms ih =>
    obtain ⟨hs', hfile'⟩ := hs.message h hfile name payload
    rw [if_neg (List.cons_ne_nil _ _), run_cons, ← writtenTo_cons]
    have hrest := ih hs' hfile'.holds
    by_cases hp : payloads = []
    · subst hp
      rw [if_pos rfl] at hrest
      rw [writtenTo_nil]
      exact hfile'.of_locate hrest
    · rwa [if_neg hp] at hrest
  | @aside s m ms payloads hm hms ih =>
    rw [run_cons]
    have hrest := ih (hs.leftAlone hm) (hfile.of_locate hm.file)
    rwa [hm.file] at hrest

/-- A line that subscribes one topic leaves what the subscription comes to. -/
theorem Redirects.apply_line {line : String} {qos : Int} (h : Redirects line s c topic qos path link)
    {handler : Handler} {s₁ : Session} (hrun : (createHandler topic c).run s = (.ok handler, s₁))
    (hgranted : s₁.answerTo (.subscribe topic qos) = none) :
    (Move.line line).apply s = (if handler.mode = .longTerm then
        (s₁.asked (.subscribe topic qos)).installed ⟨topic, qos, handler⟩
      else ((s₁.asked (.subscribe topic qos)).installed ⟨topic, qos, handler⟩).discarded topic).recorded
        ⟨topic, qos, handler⟩ := by
  have hconcluded : s₁.concluded ⟨topic, qos, handler⟩ = (.ok (), _) := concluded_of_none hgranted
  have hstep : (interpretAndHandle line).run s = s₁.concluded ⟨topic, qos, handler⟩ := by
    rw [h.subscribes.run, inTurn_run_singleton, subscribeTopic_run, hrun]
  show ((handleLine line).run s).2 = _
  rw [handleLine_run, hstep, hconcluded]
  rfl

theorem Redirects.isBackground {line : String} {qos : Int} (h : Redirects line s c topic qos path link) :
    c.isBackground = c.isLongTerm := by
  obtain ⟨first, arguments, hcommands⟩ := h.copies.commands
  rw [Chain.isBackground, hcommands, h.copies.stores, Bool.and_true]
  rfl

/-- A line without `&` makes each message be stored by itself; the file stays as it is. -/
theorem Redirects.foreground {line : String} {qos : Int} (h : Redirects line s c topic qos path link)
    (hmode : c.isLongTerm = false) (hgranted : s.answerTo (.subscribe topic qos) = none)
    (haccepting : s.accepting = true) :
    StoresEach c topic ((Move.line line).apply s) ∧ ((Move.line line).apply s).files = s.files := by
  have hhandler : foregroundHandler c s.pool.next.1 = .perMessage c s.pool.next.1 := by
    obtain ⟨first, arguments, hcommands⟩ := h.copies.commands
    rw [foregroundHandler, hcommands]
    rfl
  have hrun := createHandler_run_of_foreground (h.isBackground.trans hmode) topic s
  rw [hhandler] at hrun
  rw [h.apply_line hrun hgranted]
  simp only [Handler.mode, reduceCtorEq, if_false]
  refine ⟨⟨⟨s.pool.next.1, ?_⟩, ?_⟩, ?_⟩
  · show (Session.discarded topic _).broker.handler? topic = _
    rw [discarded_broker]
    exact handler?_install_self _ ⟨topic, qos, _⟩
  · exact (discarded_accepting topic _).trans haccepting
  · exact discarded_files topic _

end Foreground

section Background

variable {c : Chain} {topic path : String} {link : Link} {spot : List String} {appends : Bool} {content fed : Octets}
  {n : Nat} {s s' : Session}

/-- A background pipeline that copies what it is fed into a file. -/
def copier (topic : String) (spot : List String) (appends : Bool) (fed : Octets) : Background :=
  { topic, pipeline := ⟨[], .stream [], [.taking]⟩, target := some ⟨.regular spot, appends, 0⟩, fed }

/-- What a copier is fed goes behind what it has been fed before. -/
theorem feed_copier (payload : Octets) :
    (copier topic spot appends fed).feed payload = copier topic spot appends (fed ++ (payload ++ [10])) := by
  rw [← List.append_assoc]
  rfl

/-- The messages of the topic go to a copier; what the file holds is as it was when it was opened. -/
structure FeedsCopier (topic path : String) (spot : List String) (appends : Bool) (content fed : Octets) (n : Nat)
    (s : Session) : Prop where
  handler : s.broker.handler? topic = some (.feed n)
  current : s.longTerm.lookup topic = some n
  background : s.backgrounds[n]? = some (copier topic spot appends fed)
  file : s.files.HasFile path spot content
  emptied : appends = false → content = []

theorem FeedsCopier.of_untouched (hs : FeedsCopier topic path spot appends content fed n s)
    (h : Untouched topic s s') (hfile : s'.files.locate path = s.files.locate path) :
    FeedsCopier topic path spot appends content fed n s' :=
  ⟨h.handler.trans hs.handler, h.lookup.trans hs.current, (h.background n hs.current).trans hs.background,
    hs.file.of_locate hfile, hs.emptied⟩

/-- **One message** is put behind what the copier has been fed; the file stays as it is. -/
theorem FeedsCopier.message (hs : FeedsCopier topic path spot appends content fed n s) (name : String)
    (payload : Octets) :
    FeedsCopier topic path spot appends content (fed ++ (payload ++ [10])) n
      ((Move.message topic name payload).apply s) := by
  have hrun : (Move.message topic name payload).apply s = s.fed n payload := by
    show ((deliver topic name payload).run s).2 = _
    simp only [deliver_run, hs.handler, handle_run]
  rw [hrun]
  refine ⟨hs.handler, hs.current, ?_, hs.file, hs.emptied⟩
  show (s.backgrounds.modify n (·.feed payload))[n]? = _
  rw [List.getElem?_modify_eq, hs.background, ← feed_copier]
  rfl

/-- **A row of messages for a copier.** -/
theorem FeedsCopier.run {ms : List Move} {payloads : List Octets} (hms : Receives topic path s ms payloads)
    (hs : FeedsCopier topic path spot appends content fed n s) :
    FeedsCopier topic path spot appends content (fed ++ payloads.flatMap (· ++ [10])) n (run ms s) := by
  induction hms generalizing fed with
  | nil =>
    rw [List.flatMap_nil, List.append_nil]
    exact hs
  | message hms ih =>
    rw [List.flatMap_cons, ← List.append_assoc]
    exact ih (hs.message _ _)
  | aside hm hms ih => exact ih (hs.of_untouched hm.subscription hm.file)

/-- A line with `&` starts a copier for its messages, and opens the file. -/
theorem Redirects.background {line : String} {qos : Int} (h : Redirects line s c topic qos path link)
    (hmode : c.isLongTerm = true) (hgranted : s.answerTo (.subscribe topic qos) = none)
    (hfile : s.files.Holds path spot content) :
    FeedsCopier topic path spot link.keepsContent (if link.keepsContent then content else []) [] s.backgrounds.length
      ((Move.line line).apply s) := by
  obtain ⟨files', hopen, hfile'⟩ := hfile.openTarget link.keepsContent
  have hrun := createHandler_run_of_background (h.isBackground.trans hmode) topic s
  rw [h.copies.built hopen] at hrun
  have hgranted' : (s.discarded topic).answerTo (.subscribe topic qos) = none := by
    rw [answerTo, discarded_broker]
    exact hgranted
  rw [length_discarded_backgrounds] at hrun
  rw [h.apply_line hrun hgranted']
  simp only [Handler.mode, if_true]
  refine ⟨handler?_install_self _ ⟨topic, qos, _⟩, ?_, ?_, hfile', ?_⟩
  · rw [← length_discarded_backgrounds topic s]
    exact lookup_opened_self (s.lookup_discarded_self topic)
      ⟨⟨[], .stream [], [.taking]⟩, some ⟨.regular spot, link.keepsContent, 0⟩, files'⟩
  · rw [← length_discarded_backgrounds topic s]
    exact List.getElem?_concat_length
  · intro hkeeps
    rw [hkeeps]
    rfl

/-! ### The end of a copier -/

/-- The input of a copier is closed, and it has not ended yet; this is what the file will hold. -/
def Drains (path : String) (content : Octets) (n : Nat) (s : Session) : Prop :=
  ∃ topic spot appends fed held, s.backgrounds[n]? = some (copier topic spot appends fed).shut ∧
    s.files.HasFile path spot held ∧ (appends = false → held = []) ∧ held ++ fed = content

/-- A background pipeline has come to its end, which has been announced, and this is what the file holds. -/
structure Finished (path : String) (content : Octets) (n : Nat) (s : Session) : Prop where
  ended : ∃ w, s.backgrounds[n]? = some w ∧ w.phase = .ended true
  file : s.files.read path = .ok content

theorem end?_copier (files : Tree) (environment : List (String × String)) (machine : Machine) :
    (copier topic spot appends fed).shut.end? files environment machine =
      some (Pipeline.close (some ⟨.regular spot, appends, 0⟩)
        (runCopy ⟨[], .stream fed, [.taking]⟩ (chunksOf fed)) files) :=
  rfl

/-- **The end of a copier**: all that it has been fed arrives in the file. -/
theorem Drains.settleOne (hs : Drains path content n s) : Finished path content n (s.settleOne n) := by
  obtain ⟨topic, spot, appends, fed, held, hw, hfile, hempty, rfl⟩ := hs
  obtain ⟨hfiles, _, hclosing⟩ := close_runCopy spot appends s.files stream_ne_nothing (flatten_chunksOf fed)
  have hsettled : s.settleOne n = s.finishBackground n (copier topic spot appends fed).shut
      (Pipeline.close (some ⟨.regular spot, appends, 0⟩)
        (runCopy ⟨[], .stream fed, [.taking]⟩ (chunksOf fed)) s.files) := by
    simp only [Session.settleOne, hw, end?_copier]
    rfl
  rw [hsettled]
  refine ⟨⟨_, List.getElem?_set_self (List.getElem?_eq_some_iff.mp hw).1, ?_⟩, ?_⟩
  · rw [hclosing]
    rfl
  · show (Pipeline.close _ _ _).files.read path = _
    rw [hfiles]
    exact (hfile.store hempty fed).read

/-- All moves of a row leave a background pipeline and a file alone. -/
def Spares (path : String) (n : Nat) : List Move → Session → Prop
  | [], _ => True
  | m :: ms, s => (m.apply s).backgrounds[n]? = s.backgrounds[n]? ∧
      (m.apply s).files.locate path = s.files.locate path ∧ Spares path n ms (m.apply s)

theorem Drains.of_same (hs : Drains path content n s) (hbackground : s'.backgrounds[n]? = s.backgrounds[n]?)
    (hfile : s'.files.locate path = s.files.locate path) : Drains path content n s' := by
  obtain ⟨topic, spot, appends, fed, held, hw, hheld, hempty, hcontent⟩ := hs
  exact ⟨topic, spot, appends, fed, held, hbackground.trans hw, hheld.of_locate hfile, hempty, hcontent⟩

theorem Drains.run {ms : List Move} (hs : Drains path content n s) (hms : Spares path n ms s) :
    Drains path content n (run ms s) := by
  induction ms generalizing s with
  | nil => exact hs
  | cons m ms ih => exact ih (hs.of_same hms.1 hms.2.1) hms.2.2

/-! ### Giving up the topic -/

/-- The input of the copier has been closed, and nobody uses it any more. -/
structure Abandons (path : String) (content : Octets) (n : Nat) (s : Session) : Prop where
  drains : Drains path content n s
  unused : ∀ topic, s.longTerm.lookup topic ≠ some n

theorem FeedsCopier.abandons (hs : FeedsCopier topic path spot appends content fed n s) (ha : s.Accounted) :
    Abandons path (content ++ fed) n (s.discarded topic) := by
  refine ⟨⟨topic, spot, appends, fed, content, ?_, ?_, hs.emptied, rfl⟩, fun other => ?_⟩
  · rw [discarded_of_some hs.current]
    show (s.backgrounds.modify n Background.shut)[n]? = _
    rw [List.getElem?_modify_eq, hs.background]
    rfl
  · rw [discarded_files]
    exact hs.file
  · by_cases ho : other = topic
    · rw [ho, lookup_discarded_self]
      exact nofun
    · rw [lookup_discarded_of_ne ho]
      exact fun hother => ha.number_apart ho hother hs.current

theorem Abandons.discarded (hs : Abandons path content n s) (topic : String) :
    Abandons path content n (s.discarded topic) := by
  refine ⟨hs.drains.of_same (backgrounds_discarded_of_ne (hs.unused topic)) ?_, fun other => ?_⟩
  · rw [discarded_files]
  by_cases ho : other = topic
  · rw [ho, lookup_discarded_self]
    exact nofun
  · rw [lookup_discarded_of_ne ho]
    exact hs.unused other

theorem Abandons.unsubscribeTopic (hs : Abandons path content n (s.discarded topic)) :
    Abandons path content n ((Session.unsubscribeTopic topic).run s).2 := by
  rw [unsubscribeTopic_run]
  cases s.answerTo (.unsubscribe topic) with
  | some refusal => exact ⟨hs.drains, hs.unused⟩
  | none => exact ⟨hs.drains, hs.unused⟩

theorem unsubscribeTopic_files (topic : String) (s : Session) : ((unsubscribeTopic topic).run s).2.files = s.files := by
  rw [unsubscribeTopic_run]
  cases s.answerTo (.unsubscribe topic) with
  | some refusal => exact discarded_files topic s
  | none => exact discarded_files topic s

/-- Giving up other topics before is nothing to a copier. -/
theorem FeedsCopier.unsubscribeTopics {before : List String}
    (hs : FeedsCopier topic path spot appends content fed n s) (ha : s.Accounted) (htopic : topic ∉ before) :
    FeedsCopier topic path spot appends content fed n ((before.forM unsubscribeTopic).run s).2 ∧
      ((before.forM unsubscribeTopic).run s).2.Accounted := by
  have hkept : ((before.forM unsubscribeTopic).run s).2.files = s.files ∧
      ((before.forM unsubscribeTopic).run s).2.Accounted := by
    refine run_forM_keeps (P := fun s' : Session => s'.files = s.files ∧ s'.Accounted) ?_ ⟨rfl, ha⟩
    rintro other _ s' ⟨hfiles, ha'⟩
    have hch : Changes true s' ((Session.unsubscribeTopic other).run s').2 := unsubscribeTopic_changes other
    exact ⟨(unsubscribeTopic_files other s').trans hfiles, hch.keep (fun _ _ h => h.accounted) ha'⟩
  have hun : Untouched topic s ((before.forM unsubscribeTopic).run s).2 :=
    @steps_untouched .unsubscribe before topic s ha trivial htopic
  exact ⟨hs.of_untouched hun (by rw [hkept.1]), hkept.2⟩

/-- **A line that gives up the topic** closes the input of its copier, whatever the broker answers to it. -/
theorem FeedsCopier.unsub {line : String} {before after : List String}
    (hs : FeedsCopier topic path spot appends content fed n s) (ha : s.Accounted)
    (hasks : Asks line s .unsubscribe (before ++ topic :: after)) (htopic : topic ∉ before)
    (hbefore : TopicJob.unsubscribe.Succeeds before s) :
    Drains path (content ++ fed) n ((Move.line line).apply s) := by
  have hat := hs.unsubscribeTopics ha htopic
  obtain ⟨s₁, hrun₁, _, _⟩ := forM_granted hbefore
  rw [show (before.forM unsubscribeTopic).run s = (.ok (), s₁) from hrun₁] at hat
  have hstep : Abandons path (content ++ fed) n ((Session.unsubscribeTopic topic).run s₁).2 :=
    (hat.1.abandons hat.2).unsubscribeTopic
  have hrest : Abandons path (content ++ fed) n (((topic :: after).forM Session.unsubscribeTopic).run s₁).2 := by
    rw [run_forM_cons]
    cases hr : (Session.unsubscribeTopic topic).run s₁ with
    | mk r s₂ =>
      rw [hr] at hstep
      cases r with
      | error e => exact hstep
      | ok u => exact run_forM_keeps (fun other _ s' hs' => (hs'.discarded other).unsubscribeTopic) hstep
  have hrun : (interpretAndHandle line).run s = ((topic :: after).forM Session.unsubscribeTopic).run s₁ := by
    rw [hasks.run, steps_run_append, hrun₁]
    rfl
  show Drains path (content ++ fed) n ((handleLine line).run s).2
  rw [handleLine_run, hrun]
  cases hr : ((topic :: after).forM Session.unsubscribeTopic).run s₁ with
  | mk r s₂ =>
    rw [hr] at hrest
    cases r with
    | ok u => exact hrest.drains
    | error e => exact hrest.drains.of_same rfl rfl

/-! ### Closing the session -/

theorem FeedsCopier.discardedAll {topics : List String} (hs : FeedsCopier topic path spot appends content fed n s)
    (ha : s.Accounted) (htopic : topic ∈ topics) :
    Abandons path (content ++ fed) n (s.discardedAll topics) := by
  have hrest : ∀ (topics : List String) {s : Session}, Abandons path (content ++ fed) n s →
      Abandons path (content ++ fed) n (s.discardedAll topics) := by
    intro topics
    induction topics with
    | nil => exact fun h => h
    | cons other topics ih => exact fun h => ih (h.discarded other)
  induction topics generalizing s with
  | nil => cases htopic
  | cons other topics ih =>
    by_cases ho : topic = other
    · subst ho
      exact hrest topics (hs.abandons ha)
    · have hother : FeedsCopier topic path spot appends content fed n (s.discarded other) :=
        hs.of_untouched (ha.untouched_discarded ho) (by rw [discarded_files])
      exact ih hother (ha.discarded other) ((List.mem_cons.mp htopic).resolve_left ho)

theorem FeedsCopier.allShut (hs : FeedsCopier topic path spot appends content fed n s) (ha : s.Accounted) :
    Drains path (content ++ fed) n s.allShut := by
  have htopic : topic ∈ s.longTerm.map Prod.fst := List.mem_map.mpr ⟨_, mem_of_lookup hs.current, rfl⟩
  rw [Session.allShut, forM_shut_run rfl ha.nodup]
  exact (hs.discardedAll ha htopic).drains

/-- The others leave the file alone when they end, one after the other. -/
def OthersSpare (path : String) (n : Nat) (s : Session) : Prop :=
  ∀ k ≠ n, ((s.settledBelow k).settleOne k).files.locate path = (s.settledBelow k).files.locate path

theorem Drains.settledBelow (hs : Drains path content n s) (hothers : OthersSpare path n s) (bound : Nat) :
    if bound ≤ n then Drains path content n (s.settledBelow bound)
    else Finished path content n (s.settledBelow bound) := by
  induction bound with
  | zero =>
    rw [if_pos (Nat.zero_le n)]
    exact hs
  | succ bound ih =>
    rw [settledBelow_succ]
    rcases Nat.lt_trichotomy bound n with hlt | rfl | hgt
    · rw [if_pos (Nat.le_of_lt hlt)] at ih
      rw [if_pos (Nat.succ_le_of_lt hlt)]
      exact ih.of_same (getElem?_settleOne_of_ne (Nat.ne_of_lt hlt) _) (hothers bound (Nat.ne_of_lt hlt))
    · rw [if_pos (Nat.le_refl _)] at ih
      rw [if_neg (Nat.not_succ_le_self _)]
      exact ih.settleOne
    · rw [if_neg (Nat.not_le.mpr hgt)] at ih
      rw [if_neg (by omega)]
      obtain ⟨⟨w, hw, hphase⟩, hfile⟩ := ih
      refine ⟨⟨w, (getElem?_settleOne_of_ne (Nat.ne_of_gt hgt) _).trans hw, hphase⟩, ?_⟩
      exact (Tree.read_of_locate (hothers bound (Nat.ne_of_gt hgt))).trans hfile

/-- **The end of the session** is the end of the copier. -/
theorem FeedsCopier.close (hs : FeedsCopier topic path spot appends content fed n s) (ha : s.Accounted)
    (hothers : OthersSpare path n s.allShut) : Finished path (content ++ fed) n (Move.close.apply s) := by
  have hdrains := hs.allShut ha
  have hlt : n < s.allShut.backgrounds.length := by
    obtain ⟨_, _, _, _, _, hw, _⟩ := hdrains
    exact (List.getElem?_eq_some_iff.mp hw).1
  have hsettled := hdrains.settledBelow hothers s.allShut.backgrounds.length
  rw [if_neg (Nat.not_le.mpr hlt)] at hsettled
  show Finished path (content ++ fed) n (Session.close.run s).2
  rw [close_run]
  exact ⟨hsettled.ended, hsettled.file⟩

end Background

/-! ## Redirects -/

/-- What a background pipeline without stages leaves behind when its input is read in some chunks. -/
def copied (w : Background) (chunks : List Octets) (files : Tree) : Closed :=
  Pipeline.close w.target (runCopy { w.pipeline with source := .stream w.fed } chunks) files

/-- However the input of a background pipeline comes to its end, the pipeline ends and the file then has this content,
whatever the chunks are in which the input is read. -/
structure EndsIn (topic path : String) (content : Octets) (n : Nat) (s : Session) : Prop where
  unsub : ∀ line before after ms, Asks line s .unsubscribe (before ++ topic :: after) → topic ∉ before →
    TopicJob.unsubscribe.Succeeds before s → Spares path n ms ((Move.line line).apply s) →
      Finished path content n (run (ms ++ [.ending n]) ((Move.line line).apply s))
  close : OthersSpare path n s.allShut → Finished path content n (Move.close.apply s)
  chunks : ∃ w, s.backgrounds[n]? = some w ∧ ∀ files : Tree, files.locate path = s.files.locate path →
    (∀ environment machine, w.shut.end? files environment machine = some (copied w (chunksOf w.fed) files)) ∧
    ∀ chunks : List Octets, chunks.flatten = w.fed → (copied w chunks files).report.abort = none ∧
      (copied w chunks files).closing = none ∧ (copied w chunks files).files.read path = .ok content

theorem FeedsCopier.endsIn {topic path : String} {spot : List String} {appends : Bool} {content fed : Octets} {n : Nat}
    {s : Session} (hs : FeedsCopier topic path spot appends content fed n s) (ha : s.Accounted) :
    EndsIn topic path (content ++ fed) n s := by
  refine ⟨?_, hs.close ha, _, hs.background, fun files hfiles =>
    ⟨end?_copier files, fun chunks hchunks => ?_⟩⟩
  · intro line before after ms hasks htopic hbefore hms
    rw [run_concat]
    exact ((hs.unsub ha hasks htopic hbefore).run hms).settleOne
  · obtain ⟨hstored, habort, hclosing⟩ := close_runCopy spot appends files stream_ne_nothing hchunks
    refine ⟨habort, hclosing, ?_⟩
    exact (congrArg (·.read path) hstored).trans ((hs.file.of_locate hfiles).store hs.emptied fed).read

/-- **Redirects without stages store exactly the payloads.**  After any run of a session, let a line subscribe a topic
and send what arrives straight into a file that can be opened, and let some payloads arrive for the topic while
nothing else touches the subscription or the file.  Without `&` the file then holds all payloads behind what it held
before, or the last payload only if the link does not keep the content; before the first payload it is as it was.  With
`&` there is a background pipeline which, however its input comes to its end, ends with all payloads in the file, a line
feed behind each, behind what the file held if the link keeps it; in what chunks the input is read makes no
difference. -/
theorem redirect_stores_payloads (b : Beginning) (before ms : List Move) {line topic path : String} {c : Chain}
    {qos : Int} {link : Link} {spot : List String} {content : Octets} {payloads : List Octets}
    (hline : Redirects line (run before b.session) c topic qos path link)
    (hgranted : (run before b.session).answerTo (.subscribe topic qos) = none)
    (haccepting : (run before b.session).accepting = true)
    (hfile : (run before b.session).files.Holds path spot content)
    (hms : Receives topic path ((Move.line line).apply (run before b.session)) ms payloads) :
    let s := run (before ++ .line line :: ms) b.session
    (c.isLongTerm = false → s.files.read path =
      if payloads = [] then (run before b.session).files.read path
      else .ok (if link.keepsContent then content ++ payloads.flatten else payloads.getLast?.getD content)) ∧
    (c.isLongTerm = true → ∃ n, s.longTerm.lookup topic = some n ∧
      EndsIn topic path ((if link.keepsContent then content else []) ++ payloads.flatMap (· ++ [10])) n s) := by
  intro s
  have hs : s = run ms ((Move.line line).apply (run before b.session)) := by
    rw [← run_cons, ← run_append]
  constructor
  · intro hmode
    obtain ⟨heach, hsame⟩ := hline.foreground hmode hgranted haccepting
    rw [← hsame] at hfile ⊢
    have hrun := heach.run hms hline.copies hfile
    rw [hs]
    by_cases hp : payloads = []
    · rw [if_pos hp] at hrun ⊢
      exact Tree.read_of_locate hrun
    · rw [if_neg hp] at hrun ⊢
      exact hrun.read
  · intro hmode
    have hfeeds := (hline.background hmode hgranted hfile).run hms
    rw [List.nil_append, ← hs] at hfeeds
    have ha : s.Accounted := b.accounted.run (before ++ .line line :: ms)
    exact ⟨_, hfeeds.current, hfeeds.endsIn ha⟩

/-- A session with a file that holds one octet. -/
def oneOctet : Beginning :=
  { files := ⟨[(["f"], .file [99] false)]⟩ }

/-- Two messages, one of them with a line feed in it; between them somebody puts another file. -/
def twoMessages : List Move :=
  [.message "t" "t" [1, 10], .files ⟨[(["f"], .file [99] false), (["g"], .file [0] false)]⟩, .message "t" "t" [2]]

theorem twoMessages_arrive :
    Receives "t" "f" ((Move.line "sub t >> f &").apply oneOctet.session) twoMessages [[1, 10], [2]] := by
  have hkept : (⟨[(["f"], .file [99] false), (["g"], .file [0] false)]⟩ : Tree).locate "f" =
      ((Move.message "t" "t" [1, 10]).apply ((Move.line "sub t >> f &").apply oneOctet.session)).files.locate "f" := by
    decide +kernel
  generalize (Move.line "sub t >> f &").apply oneOctet.session = s at *
  exact .message (.aside (leavesAlone_files hkept) (.message .nil))

/-- The messages of a background pipeline are in the file when the session is closed, each with a line feed. -/
theorem kept_behind_content :
    Receives "t" "f" ((Move.line "sub t >> f &").apply oneOctet.session) twoMessages [[1, 10], [2]] ∧
    Finished "f" [99, 1, 10, 10, 2, 10] 0
      (Move.close.apply (run (.line "sub t >> f &" :: twoMessages) oneOctet.session)) := by
  have hsplit : Words.split "sub t >> f &" = .ok ["sub", "t", ">>", "f", "&"] := by decide +kernel
  have hwords : Words.split "sub t >> f &" =
      .ok (["sub", "t", Link.append.text, "f"] ++ if true then [longTermWord] else []) := hsplit
  obtain ⟨c, hline, hmode⟩ := redirects_of_words oneOctet.session (by decide +kernel) hwords (by decide) (by decide)
    (by decide) nofun rfl
  have hlocate : oneOctet.session.files.locate "f" = .ok (.node ["f"] (.file [99] false)) := by decide +kernel
  obtain ⟨n, hcurrent, hends⟩ :=
    (redirect_stores_payloads oneOctet [] twoMessages hline rfl rfl (.file hlocate) twoMessages_arrive).2 hmode
  rw [List.nil_append] at hcurrent hends
  have hlookup : (run (.line "sub t >> f &" :: twoMessages) oneOctet.session).longTerm.lookup "t" = some 0 := by
    decide +kernel
  have hlength : (run (.line "sub t >> f &" :: twoMessages) oneOctet.session).allShut.backgrounds.length = 1 := by
    decide +kernel
  generalize run (.line "sub t >> f &" :: twoMessages) oneOctet.session = s at *
  cases hcurrent.symm.trans hlookup
  refine ⟨twoMessages_arrive, hends.close fun k hk => ?_⟩
  -- there is no other pipeline
  rw [settleOne, List.getElem?_eq_none]
  rw [length_settledBelow]
  exact hlength.le.trans (Nat.one_le_iff_ne_zero.mpr hk)

end Session

end TopicShell
