import TopicShell.Proofs.Line.Heredocs
import TopicShell.Proofs.Session.Changes

/-!
# Payloads from heredocs

The lines of a heredoc are the last argument of the command before it, and for `pub` this is the payload.  On the way
to the broker the text is cut, made a chain and taken for a word among the arguments.  Cutting and chaining keep the
body whatever it holds (`interpret_heredoc`), for words that are links or an `&` are looked for only before the
heredoc; but flags are looked for among all arguments (`publication_of_topic`).
-/

namespace TopicShell.Line

/-- A word of `<<` and a marker at the end of a line opens a heredoc. -/
theorem Heredoc.opening?_of_word (before : List Char) {marker : List Char} (hm : marker ≠ [])
    (hblank : ∀ c ∈ marker, Text.isBlank c = false) :
    opening? (before ++ ' ' :: '<' :: '<' :: marker) = some (before, marker) := by
  obtain ⟨front, last, hlast⟩ : ∃ front last, marker = front ++ [last] :=
    ⟨_, _, (List.dropLast_concat_getLast hm).symm⟩
  have hword : ∀ c ∈ marker.reverse ++ ['<', '<'], (!Text.isBlank c) = true := by
    intro c hc
    rw [Bool.not_eq_true']
    rcases List.mem_append.mp hc with hc | hc
    · exact hblank c (List.mem_reverse.mp hc)
    · obtain rfl : c = '<' := by simpa using hc
      decide
  have hspace : (!Text.isBlank ' ') = false := by decide
  have htrimmed : Text.trimLeft Text.isBlank (before ++ ' ' :: '<' :: '<' :: marker).reverse
      = (marker.reverse ++ ['<', '<']) ++ ' ' :: before.reverse := by
    have hhead : Text.isBlank last = false := hblank last (by simp [hlast])
    simp [hlast, Text.trimLeft, hhead]
  rw [opening?, htrimmed, List.takeWhile_append_of_pos hword, List.dropWhile_append_of_pos hword]
  have hmark : ((marker.reverse ++ ['<', '<'] ++ (' ' :: before.reverse).takeWhile (!Text.isBlank ·)).reverse)
      = '<' :: '<' :: marker := by simp [hspace]
  have hbefore : (((' ' :: before.reverse).dropWhile (!Text.isBlank ·)).drop 1).reverse = before := by simp [hspace]
  rw [hmark, hbefore]
  cases marker with
  | nil => exact absurd rfl hm
  | cons c marker => rfl

/-- Plain characters make no link, and no `&`. -/
theorem not_operator_of_plain {word : String} (h : ∀ c ∈ word.toList, Words.isPlain c = true) :
    word ∉ linkWords ∧ word ≠ longTermWord := by
  have hoperator : ((longTermWord :: linkWords).all fun w => w.toList.any fun c => !Words.isPlain c) = true := by decide
  have hword : word ∉ longTermWord :: linkWords := by
    intro hmem
    obtain ⟨c, hc, hplain⟩ := List.any_eq_true.mp (List.all_eq_true.mp hoperator word hmem)
    rw [h c hc] at hplain
    cases hplain
  exact ⟨fun hl => hword (List.mem_cons_of_mem _ hl), fun he => hword (he ▸ List.mem_cons_self)⟩

/-- Words without a link, and a heredoc behind them: one command, with the body as its last argument, whatever the
body is. -/
theorem interpret_heredoc {n : String} {arguments : List String} (hlinks : ∀ w ∈ n :: arguments, w ∉ linkWords)
    (hlines : ∀ w ∈ n :: arguments, '\n' ∉ w.toList) {marker : String} (hm : marker ≠ "")
    (hblank : ∀ c ∈ marker.toList, Text.isBlank c = false) (body : String) :
    interpret (Words.join (n :: arguments) ++ " <<" ++ marker ++ "\n" ++ (body ++ marker))
      = .ok ⟨[⟨n, arguments ++ [body]⟩], [], n :: arguments ++ [body], true⟩ := by
  have hopening : Heredoc.opening? (Words.join (n :: arguments) ++ " <<" ++ marker).toList
      = some ((Words.join (n :: arguments)).toList, marker.toList) := by
    have hempty : marker.toList ≠ [] := by simpa using hm
    simpa using Heredoc.opening?_of_word (Words.join (n :: arguments)).toList hempty hblank
  have hline : '\n' ∉ (Words.join (n :: arguments) ++ " <<" ++ marker).toList := by
    have hjoin := Words.not_mem_join (by decide : '\n' ∉ ['\'', '"', ' ']) hlines
    have hmarker : '\n' ∉ marker.toList := fun h => absurd (hblank '\n' h) (by decide)
    simpa using ⟨hjoin, hmarker⟩
  have hsplit := Heredoc.splitText_of_opening hline hopening body
  have hwords : Words.split (Heredoc.splitText
      (Words.join (n :: arguments) ++ " <<" ++ marker ++ "\n" ++ (body ++ marker))).1 = .ok (n :: arguments) := by
    rw [hsplit]
    exact Words.split_join (n :: arguments)
  have hearly : ¬ StoresEarly (n :: arguments) := by
    rw [← any_stores_dropLast_iff, (linksOf_eq_nil_iff _).mpr hlinks]
    exact Bool.false_ne_true
  rw [interpret_of_split hwords, hsplit, chainOf_some hearly, groups_of_forall hlinks,
    (linksOf_eq_nil_iff _).mpr hlinks]
  rfl

end TopicShell.Line

namespace TopicShell

/-- The words that `pub` takes for flags. -/
def publishFlags : List String := ["-r", "-q"]

/-- A topic and one more word are topic and payload, unless the word is a flag: then there is no payload. -/
theorem publication_of_topic {topic : String} (ht : topic ≠ "" ∧ topic ∉ publishFlags) {word : String} (hw : word ≠ "")
    (qos : Int) : Publication.ofArguments [topic, word] qos =
      if word ∈ publishFlags then .error (.arguments .pub) else .ok ⟨topic, word, qos, false⟩ := by
  obtain ⟨hempty, hflag⟩ := ht
  obtain ⟨hr, hq⟩ : topic ≠ "-r" ∧ topic ≠ "-q" := by simpa [publishFlags] using hflag
  have htopic : scanArguments .pub true qos false [topic, word]
      = (scanArguments .pub true qos false [word]).map (.add topic) := by
    simp [scanArguments, hr, hq]
  rw [Publication.ofArguments, htopic]
  by_cases hwr : word = "-r"
  · subst hwr
    rfl
  · by_cases hwq : word = "-q"
    · subst hwq
      rfl
    · have hword : scanArguments .pub true qos false [word] = .ok ⟨[word], qos, false⟩ := by
        simp [scanArguments, hwr, hwq, Except.map, Scanned.add]
      simp [hword, Except.map, Scanned.add, publishFlags, hempty, hw, hwr, hwq, String.intercalate_singleton]

namespace Session

open Line

/-- The call that a publication makes. -/
def publicationCall (p : Publication) : Call :=
  .publish p.topic p.qos p.retained p.payload

/-- One call is made for a publication, and only its failure makes a difference after that. -/
theorem publish_run (c : Command) (s : Session) :
    (publish c).run s = match Publication.ofArguments c.arguments s.publishQos with
      | .error e => (.error (.command e), s)
      | .ok p =>
        (match s.answerTo (publicationCall p) with
          | none => .ok ()
          | some (.refused m) => .error (.command (.failed m .pub))
          | some (.unexpected m) => .error (.unexpected m), s.asked (publicationCall p)) := by
  simp only [publish, run_bind, run_get]
  cases Publication.ofArguments c.arguments s.publishQos with
  | error e => rfl
  | ok p =>
    simp only [run_tryCatch, callBroker_run, publicationCall]
    cases s.answerTo (.publish p.topic p.qos p.retained p.payload) with
    | none => rfl
    | some r => cases r <;> rfl

/-- What is left of a line that is one command for publishing. -/
theorem handleLine_publish {line : String} {c : Chain} {arguments : List String} (hc : interpret line = .ok c)
    (hcommands : c.commands = [⟨Builtin.pub.word, arguments⟩]) (s : Session) :
    let s' := ((handleLine line).run s).2
    (∀ e, Publication.ofArguments arguments s.publishQos = .error e →
      s'.calls = s.calls ∧ s'.written = s.written ++ [e.message ++ "\n"]) ∧
    (∀ p, Publication.ofArguments arguments s.publishQos = .ok p → s'.calls = s.calls ++ [publicationCall p]) := by
  have hrun : (interpretAndHandle line).run s = (publish ⟨Builtin.pub.word, arguments⟩).run s := by
    simp only [interpretAndHandle, hc, handleChain, hcommands, Builtin.ofWord?_word]
  show (∀ e, _ → ((handleLine line).run s).2.calls = _ ∧ ((handleLine line).run s).2.written = _) ∧
    ∀ p, _ → ((handleLine line).run s).2.calls = _
  rw [handleLine_run, hrun, publish_run]
  constructor
  · intro e he
    simp only [he]
    exact ⟨calls_noted_wrote _ _, written_noted_wrote _ _⟩
  · intro p hp
    simp only [hp]
    rw [← calls_asked]
    cases s.answerTo (publicationCall p) with
    | none => rfl
    | some r => cases r <;> exact calls_noted_wrote _ _

/-- **Which heredocs are published as they are.**  A topic that needs no quotes and is no flag, a marker without blank
characters and a body that is not empty: handling the line makes exactly one call, which publishes the body under
the topic, at the level of service of the session and not retained, if and only if the body is none of the flags
`-r` and `-q`.  Otherwise no call is made, and the use of the command is written. -/
theorem heredoc_published_iff {topic marker body : String} (ht : Words.quoteText topic = topic)
    (hflag : topic ∉ publishFlags) (hm : marker ≠ "") (hblank : ∀ c ∈ marker.toList, Text.isBlank c = false)
    (hbody : body ≠ "") (s : Session) :
    let s' := ((handleLine ("pub " ++ topic ++ " <<" ++ marker ++ "\n" ++ body ++ marker)).run s).2
    (s'.calls = s.calls ++ [.publish topic s.publishQos false body] ↔ body ∉ publishFlags) ∧
    (body ∈ publishFlags → s'.calls = s.calls ∧
      s'.written = s.written ++ [(CommandError.arguments .pub).message ++ "\n"]) := by
  have hplain := Words.plain_of_quoteText ht
  have hempty : topic ≠ "" := by
    rintro rfl
    revert ht
    decide
  have hjoin : Words.join ["pub", topic] = "pub " ++ topic := by
    have hpub : Words.quoteText "pub" = "pub" := by decide
    rw [Words.join, List.map_cons, List.map_singleton, hpub, ht, String.intercalate_cons_cons,
      String.intercalate_singleton]
    rfl
  have hlinks : ∀ w ∈ ["pub", topic], w ∉ linkWords := by
    simpa using ⟨by decide, (not_operator_of_plain hplain).1⟩
  have hlines : ∀ w ∈ ["pub", topic], '\n' ∉ w.toList := by
    have htopic : '\n' ∉ topic.toList := fun h => absurd (hplain '\n' h) (by decide)
    simpa using htopic
  have hc := interpret_heredoc hlinks hlines hm hblank body
  rw [hjoin, ← String.append_assoc] at hc
  obtain ⟨hfails, hpublishes⟩ := handleLine_publish hc rfl s
  rw [List.singleton_append, publication_of_topic ⟨hempty, hflag⟩ hbody] at hfails hpublishes
  intro s'
  by_cases hb : body ∈ publishFlags
  · rw [if_pos hb] at hfails
    obtain ⟨hcalls, hwritten⟩ := hfails _ rfl
    refine ⟨iff_of_false (fun h => ?_) (not_not_intro hb), fun _ => ⟨hcalls, hwritten⟩⟩
    have hlength := congrArg List.length (hcalls.symm.trans h)
    rw [List.length_append, List.length_singleton] at hlength
    omega
  · rw [if_neg hb] at hpublishes
    exact ⟨iff_of_true (hpublishes _ rfl) hb, fun h => absurd h hb⟩

/-- A body of operators, flags, an open quote and the marker itself. -/
theorem operators_published :
    Words.quoteText "a/b" = "a/b" ∧ "a/b" ∉ publishFlags ∧ "EOF" ≠ "" ∧
    (∀ c ∈ "EOF".toList, Text.isBlank c = false) ∧ "-r\nEOF | 'x > y &" ≠ "" ∧
    ((handleLine "pub a/b <<EOF\n-r\nEOF | 'x > y &EOF").run { publishQos := 2 }).2.calls
      = [.publish "a/b" 2 false "-r\nEOF | 'x > y &"] := by
  have ht : Words.quoteText "a/b" = "a/b" := by decide +kernel
  have hflag : "a/b" ∉ publishFlags := by decide
  have hm : "EOF" ≠ "" := by decide
  have hblank : ∀ c ∈ "EOF".toList, Text.isBlank c = false := by
    have hall : ("EOF".toList.all fun c => !Text.isBlank c) = true := by decide
    exact fun c hc => (Bool.not_eq_true' _).mp (List.all_eq_true.mp hall c hc)
  have hbody : "-r\nEOF | 'x > y &" ≠ "" := by decide
  have htext : "pub " ++ "a/b" ++ " <<" ++ "EOF" ++ "\n" ++ "-r\nEOF | 'x > y &" ++ "EOF"
      = "pub a/b <<EOF\n-r\nEOF | 'x > y &EOF" := by decide +kernel
  have hpublished := (heredoc_published_iff ht hflag hm hblank hbody { publishQos := 2 }).1.mpr (by decide)
  rw [htext] at hpublished
  exact ⟨ht, hflag, hm, hblank, hbody, hpublished⟩

/-- A body that is a flag is not published: it counts as a flag, and no payload is left. -/
theorem flag_not_published :
    Words.quoteText "t" = "t" ∧ "t" ∉ publishFlags ∧
    ((handleLine "pub t <<EOF\n-rEOF").run {}).2.calls = [] ∧
    ((handleLine "pub t <<EOF\n-rEOF").run {}).2.written
      = ["invalid arguments\nUsage: pub [-r] [-q 0|1|2] <topic> <payload>\n"] := by
  decide +kernel

end Session

end TopicShell
