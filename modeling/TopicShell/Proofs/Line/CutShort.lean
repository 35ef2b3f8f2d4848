import TopicShell.Proofs.Line.Heredocs

/-!
# Heredocs that are cut short

An interruption or the end of the input ends a heredoc before its marker was typed, and what there is of it is handed
on as one text (`feedAll_cut_short`).  With some lines below the first one this text still has a heredoc, and all
these lines are its body (`splitText_of_open`).  The first line alone has none, for only a line feed behind the
opening makes it one: then the opening is a word like any other (`purge_eq_of_opening`), and where a command ends
before it, it is one more argument of this command (`chainOf_concat`, `last_argument_iff`).

`cut_short_leaks_iff` puts this together.
-/

namespace TopicShell.Text

/-- The numbers of the blank characters. -/
def blankNumbers : List Nat :=
  [9, 10, 11, 12, 13, 0x1c, 0x1d, 0x1e, 0x1f, 0x20, 0x85, 0xa0, 0x1680, 0x2000, 0x2001, 0x2002, 0x2003, 0x2004, 0x2005,
    0x2006, 0x2007, 0x2008, 0x2009, 0x200a, 0x2028, 0x2029, 0x202f, 0x205f, 0x3000]

theorem toNat_mem_blankNumbers {c : Char} (h : isBlank c = true) : c.toNat ∈ blankNumbers := by
  simp only [isBlank, isWhite, Bool.or_eq_true, Bool.and_eq_true, decide_eq_true_eq, beq_iff_eq] at h
  simp only [blankNumbers, List.mem_cons, List.not_mem_nil, or_false]
  omega

/-- The space is the only blank character that is printable. -/
theorem eq_space_of_printable {c : Char} (h : isPrintable c = true) (hblank : isBlank c = true) : c = ' ' := by
  have hrange : ∀ n ∈ blankNumbers, n = 0x20 ∨
      (unprintableRanges.any fun r => r.1 ≤ n && n ≤ r.2) = true := by decide +kernel
  rcases hrange c.toNat (toNat_mem_blankNumbers hblank) with hn | hn
  · exact Char.toNat_inj.mp hn
  · rw [isPrintable, hn] at h
    cases h

end TopicShell.Text

namespace TopicShell.Line

/-! ## The body of an open heredoc -/

theorem Heredoc.dropMarker_of_not_suffix {marker body : List Char} (h : ¬ marker <:+ body) :
    dropMarker marker body = body := by
  have hends : ¬ marker.reverse.isPrefixOf body.reverse = true := by simpa using h
  rw [dropMarker, if_neg hends]

/-- A heredoc whose marker is missing at the end has all that is left as its body. -/
theorem Heredoc.splitText_of_open {line before marker : String} (hline : '\n' ∉ line.toList)
    (h : opening? line.toList = some (before.toList, marker.toList)) {body : String}
    (hbody : ¬ marker.toList <:+ body.toList) : splitText (line ++ "\n" ++ body) = (before, some body) := by
  have htext : (line ++ "\n" ++ body).toList = line.toList ++ '\n' :: body.toList := by simp
  rw [splitText, split, htext, cutLine_of_newline hline]
  simp [h, dropMarker_of_not_suffix hbody]

/-! ## The opening as a word -/

/-- What is read from the opening of a heredoc is no operator. -/
theorem not_operator_of_opening {marker word : String} (h : Words.split ("<<" ++ marker) = .ok [word]) :
    word ∉ linkWords ∧ word ≠ longTermWord := by
  have hscan : Words.scan .gap [] ('<' :: '<' :: marker.toList) = .ok [word.toList] := by
    simpa using Words.split_eq_ok_iff.mp h
  rw [Words.scan_gap_of_not_special (by decide), Words.scan_bare_of_not_special (by decide)] at hscan
  have hread : (⟨[], .bare, ['<', '<']⟩ : Words.Place).read marker.toList = .ok [word.toList] := by
    rw [Words.Place.read, hscan]
    rfl
  obtain ⟨w, us, hw, hprefix⟩ := Words.Place.read_open_word (by decide) hread
  cases hw
  have hoperator : ∀ v ∈ longTermWord :: linkWords, ¬ ['<'] <+: v.toList := by decide
  have hfirst : ['<'] <+: word.toList := (List.prefix_append ['<'] ['<']).trans hprefix
  exact ⟨fun hl => hoperator _ (List.mem_cons_of_mem _ hl) hfirst,
    fun he => hoperator _ (he ▸ List.mem_cons_self) hfirst⟩

/-- A word that is no operator is taken at the end of a line as the body of a heredoc would be. -/
theorem chainOf_concat {ws : List String} {word : String} (hword : word ∉ linkWords ∧ word ≠ longTermWord)
    (h : ¬ StoresEarly ws) : chainOf (ws ++ [word]) none
      = .ok ⟨(addBody (groups ws) word).filterMap Command.ofWords?, linksOf ws, ws ++ [word], false⟩ := by
  have hlinks : linksOf (ws ++ [word]) = linksOf ws := by
    rw [linksOf_append, linksOf_cons_of_not_mem hword.1]
    exact List.append_nil _
  have hearly : ¬ StoresEarly (ws ++ [word]) := by
    rw [← any_stores_dropLast_iff, hlinks, any_stores_dropLast_iff]
    exact h
  have hlast : (ws ++ [word]).getLast? ≠ some longTermWord := by simpa using hword.2
  rw [chainOf_none hearly, if_neg hlast, hlinks, groups_concat_of_not_mem hword.1]

theorem not_storesEarly_of_concat {ws : List String} {word : String} (h : ¬ StoresEarly (ws ++ [word])) :
    ¬ StoresEarly ws := by
  rintro ⟨w, hw, l, hl, hsub⟩
  exact h ⟨w, hw, l, hl, hsub.trans (List.sublist_append_left _ _)⟩

/-- One more word is an argument if a command ends before it, and else the name of a command. -/
theorem last_argument_iff (ws : List String) (word : String) :
    (∃ ks n arguments, (addBody (groups ws) word).filterMap Command.ofWords? = ks ++ [⟨n, arguments ++ [word]⟩]) ↔
      ∃ w ∈ ws.getLast?, w ∉ linkWords := by
  obtain ⟨k, hk, hks⟩ := filterMap_addBody (groups ws) word
  have hgroup : (∃ w ∈ ws.getLast?, w ∉ linkWords) ↔ (groups ws).getLast?.getD [] ≠ [] := by
    rw [ne_eq, getLast?_groups_eq_nil_iff]
    simp
  rw [hgroup, hks]
  constructor
  · rintro ⟨ks, n, arguments, heq⟩ hempty
    obtain ⟨_, hlast⟩ := List.append_inj' heq rfl
    rw [List.singleton_inj.mp hlast, hempty] at hk
    simp [Command.words] at hk
  · intro hne
    obtain ⟨n, arguments, hcons⟩ := List.exists_cons_of_ne_nil hne
    rw [hcons] at hk
    obtain ⟨hname, harguments⟩ := List.cons.inj hk
    obtain ⟨name, arguments'⟩ := k
    simp only at hname harguments
    subst hname harguments
    exact ⟨_, _, _, rfl⟩

/-- The opening of a heredoc stands in a chain: it is the word behind those before it, no body, and the last argument
of the last command. -/
def Leaks (before marker : String) (c : Chain) : Prop :=
  ∃ ws word, Words.split before = .ok ws ∧ Words.split ("<<" ++ marker) = .ok [word] ∧ c.words = ws ++ [word] ∧
    c.heredoc = false ∧ ∃ ks n arguments, c.commands = ks ++ [⟨n, arguments ++ [word]⟩]

end TopicShell.Line

namespace TopicShell.LineReader

open Line

/-! ## Typed lines -/

/-- A typed line does not end with a blank. -/
theorem getLast_purge {line : String} {c : Char} (h : (purge line).toList.getLast? = some c) :
    Text.isBlank c = false := by
  rw [purge, String.toList_ofList, Text.trim, Text.trimRight, List.getLast?_reverse] at h
  have hhead := List.head?_dropWhile_not Text.isBlank (Text.trimLeft Text.isBlank (Text.printable line.toList)).reverse
  rw [Text.trimLeft] at h
  rw [h] at hhead
  exact hhead

/-- A typed line that opens a heredoc: the text before it, one space, and the opening. -/
theorem purge_eq_of_opening {first before marker : String} {b : Builtin} (hb : b.takesArguments = true)
    (hstart : (b.word ++ " ").toList <+: (purge first).toList)
    (hopening : Heredoc.opening? (purge first).toList = some (before.toList, marker.toList)) :
    purge first = before ++ " " ++ ("<<" ++ marker) := by
  obtain ⟨gap, tail, hline, hgap, hlength, hbefore, _, htail⟩ := Heredoc.parts_of_opening hopening
  obtain ⟨x, hx, _⟩ := letter_mem_of_opening hb hstart hopening
  have hspace : gap = [' '] := by
    obtain ⟨c, rest, rfl⟩ := List.exists_cons_of_ne_nil fun h => List.ne_nil_of_mem hx (hbefore h)
    obtain rfl : rest = [] := List.eq_nil_of_length_eq_zero (by simpa using hlength)
    have hmem : c ∈ (purge first).toList := by simp [hline]
    rw [Text.eq_space_of_printable (printable_of_mem_purge hmem) (hgap c List.mem_cons_self)]
  have hend : tail = [] := by
    by_contra hne
    have hlast : (purge first).toList.getLast? = some (tail.getLast hne) := by
      rw [hline, List.getLast?_append_of_ne_nil _ hne, List.getLast?_eq_some_getLast hne]
    have hblank := htail _ (List.getLast_mem hne)
    rw [getLast_purge hlast] at hblank
    cases hblank
  rw [hspace, hend] at hline
  rw [← String.toList_inj, hline]
  simp

theorem suffix_of_newline {marker line below : List Char} (hm : '\n' ∉ marker) (h : marker <:+ line ++ '\n' :: below) :
    marker <:+ below := by
  rcases List.suffix_or_suffix_of_suffix h (List.suffix_append line ('\n' :: below)) with hs | hs
  · rcases List.suffix_cons_iff.mp hs with rfl | hs
    · exact absurd List.mem_cons_self hm
    · exact hs
  · exact absurd (hs.subset List.mem_cons_self) hm

/-- Lines that do not end with a marker do not end with it together. -/
theorem not_suffix_joinLines {marker : List Char} (hm : '\n' ∉ marker) {lines : List String} (hne : lines ≠ [])
    (h : ∀ l ∈ lines, ¬ marker <:+ l.toList) : ¬ marker <:+ (joinLines lines).toList := by
  induction lines with
  | nil => exact absurd rfl hne
  | cons l lines ih =>
    by_cases hlines : lines = []
    · subst hlines
      rw [joinLines, String.intercalate_singleton]
      exact h l List.mem_cons_self
    · intro hsuffix
      have htext : (joinLines (l :: lines)).toList = l.toList ++ '\n' :: (joinLines lines).toList := by
        rw [joinLines_cons l hlines]
        simp
      rw [htext] at hsuffix
      exact ih hlines (fun l' hl' => h l' (List.mem_cons_of_mem l hl')) (suffix_of_newline hm hsuffix)

theorem prefix_joinLines (line : String) (lines : List String) :
    line.toList <+: (joinLines (line :: lines)).toList := by
  by_cases hlines : lines = []
  · subst hlines
    rw [joinLines, String.intercalate_singleton]
  · rw [joinLines_cons line hlines, String.append_assoc, String.toList_append]
    exact List.prefix_append _ _

/-! ## Reading up to the end -/

/-- What ends a heredoc before its marker. -/
def Cuts (stop : Input) : Prop :=
  stop = .interrupted ∨ stop = .ended

section CutShort

variable {first before marker : String} {b : Builtin} {lines : List String}

theorem feedAll_cut_short (hstart : (b.word ++ " ").toList <+: (purge first).toList)
    (hmarker : Heredoc.marker? (purge first) = some marker) (hlines : ∀ l ∈ lines, ¬ marker.toList <:+ l.toList)
    {stop : Input} (hstop : Cuts stop) : idle.feedAll ((first :: lines).map .typed ++ [stop])
      = (idle, List.replicate (lines.length + 1) .more ++ [.line (joinLines (purge first :: lines))]) := by
  have hspace : ' ' ∈ (joinLines (purge first :: lines)).toList :=
    (hstart.trans (prefix_joinLines _ _)).subset (by simp)
  have hword : ∀ b : Builtin, ' ' ∉ b.word.toList := by
    intro b
    cases b <;> decide
  have hend : (heredoc marker (purge first :: lines)).feed stop
      = (idle, .line (joinLines (purge first :: lines))) := by
    rcases hstop with rfl | rfl
    · rw [feed, complete_of_mem hword hspace]
    · rw [feed, complete_of_mem hword hspace]
  rw [List.map_cons, List.cons_append, feedAll, feed_of_marker hmarker, feedAll_append, feedAll_open hlines,
    List.singleton_append, feedAll, hend, feedAll, List.replicate_succ]
  rfl

section Opening

variable (hopening : Heredoc.opening? (purge first).toList = some (before.toList, marker.toList))

include hopening

theorem marker_of_opening : Heredoc.marker? (purge first) = some marker := by
  rw [Heredoc.marker?, Heredoc.cutLine_of_not_mem (newline_not_mem_purge first), hopening]
  simp

theorem not_suffix_of_lines (hne : lines ≠ []) (hlines : ∀ l ∈ lines, ¬ marker.toList <:+ l.toList) :
    ¬ marker.toList <:+ (joinLines lines).toList := by
  obtain ⟨_, _, _, _, _, _, hplain, _⟩ := Heredoc.parts_of_opening hopening
  exact not_suffix_joinLines (fun h => absurd (hplain '\n' h) (by decide)) hne hlines

theorem splitText_of_lines (hne : lines ≠ []) (hlines : ∀ l ∈ lines, ¬ marker.toList <:+ l.toList) :
    Heredoc.splitText (joinLines (purge first :: lines)) = (before, some (joinLines lines)) := by
  rw [joinLines_cons _ hne]
  exact Heredoc.splitText_of_open (newline_not_mem_purge first) hopening (not_suffix_of_lines hopening hne hlines)

/-- With lines below it, the opening is cut out. -/
theorem keeps_of_lines (hne : lines ≠ []) (hlines : ∀ l ∈ lines, ¬ marker.toList <:+ l.toList) {c : Chain}
    (hc : interpret (joinLines (purge first :: lines)) = .ok c) :
    c.heredoc = true ∧ ∃ ws, Words.split before = .ok ws ∧ Keeps ws (some (joinLines lines)) c ∧
      ∀ k ∈ c.commands, "<<" ++ marker ∈ k.arguments → "<<" ++ marker ∈ ws := by
  obtain ⟨ws, hws, hchain⟩ := exists_words_of_interpret hc
  rw [splitText_of_lines hopening hne hlines] at hws hchain
  have hkeeps := chainOf_keeps hchain
  refine ⟨(chainOf_takes hchain).2.2, ws, hws, hkeeps, fun k hk hargument => ?_⟩
  have hmem : "<<" ++ marker ∈ c.commands.flatMap Command.words :=
    List.mem_flatMap.mpr ⟨k, hk, List.mem_cons_of_mem _ hargument⟩
  have hkept := List.mem_append_left (if c.isLongTerm then [longTermWord] else []) hmem
  rw [hkeeps.words, List.mem_append, List.mem_filter] at hkept
  rcases hkept with ⟨hw, _⟩ | hbody
  · exact hw
  · have hends : marker.toList <:+ (joinLines lines).toList := by
      rw [← List.mem_singleton.mp hbody, String.toList_append]
      exact List.suffix_append _ _
    exact absurd hends (not_suffix_of_lines hopening hne hlines)

/-- The first line alone has no heredoc. -/
theorem interpret_purge (hb : b.takesArguments = true) (hstart : (b.word ++ " ").toList <+: (purge first).toList)
    {ws : List String} (hws : Words.split before = .ok ws) {word : String}
    (hword : Words.split ("<<" ++ marker) = .ok [word]) :
    interpret (purge first) = chainOf (ws ++ [word]) none := by
  refine interpret_of_no_newline (newline_not_mem_purge first) ?_
  rw [purge_eq_of_opening hb hstart hopening, Words.split_append_space hws, hword]
  rfl

theorem leaks_purge_iff (hb : b.takesArguments = true) (hstart : (b.word ++ " ").toList <+: (purge first).toList) :
    (∃ c, interpret (purge first) = .ok c ∧ Leaks before marker c) ↔
      ∃ ws word, Words.split before = .ok ws ∧ Words.split ("<<" ++ marker) = .ok [word] ∧
        ¬ StoresEarly ws ∧ ∃ w ∈ ws.getLast?, w ∉ linkWords := by
  constructor
  · rintro ⟨c, hc, ws, word, hws, hword, _, _, hargument⟩
    rw [interpret_purge hopening hb hstart hws hword] at hc
    have hearly := not_storesEarly_of_concat (not_storesEarly_of_ok hc)
    rw [chainOf_concat (not_operator_of_opening hword) hearly] at hc
    cases hc
    exact ⟨ws, word, hws, hword, hearly, (last_argument_iff ws word).mp hargument⟩
  · rintro ⟨ws, word, hws, hword, hearly, hlast⟩
    have hc := chainOf_concat (not_operator_of_opening hword) hearly
    rw [← interpret_purge hopening hb hstart hws hword] at hc
    exact ⟨_, hc, ws, word, hws, hword, rfl, rfl, (last_argument_iff ws word).mpr hlast⟩

end Opening

/-- **Where the opening of a heredoc that is cut short ends up.**  The first line, purged, starts like a command with
arguments and opens a heredoc; no line below it ends with the marker, and then comes an interruption or the end of
the input.  The reader hands on all these lines as one text, which is no matter of the macros.

With a line below the first one, the text has a heredoc, whose body is exactly these lines, and a chain of it keeps
the words before the opening and the body: the opening is among its arguments at most if it was typed among those
words as well.  The opening itself gets into the chain as an argument exactly if there is no line below, the text
before the opening and the opening can be split on their own, no link to a file stands before another link, and the
last word before the opening is no link. -/
theorem cut_short_leaks_iff (hb : b.takesArguments = true)
    (hstart : (b.word ++ " ").toList <+: (purge first).toList)
    (hopening : Heredoc.opening? (purge first).toList = some (before.toList, marker.toList))
    (hlines : ∀ l ∈ lines, ¬ marker.toList <:+ l.toList) {stop : Input} (hstop : Cuts stop) :
    let text := joinLines (purge first :: lines)
    idle.feedAll ((first :: lines).map .typed ++ [stop])
      = (idle, List.replicate (lines.length + 1) .more ++ [.line text]) ∧
    (∀ (ε σ : Type) (engine : Macro.Engine ε σ) (specs : List (String × Macro.Spec)) (w : σ),
      (Macro.expand engine specs text).run w = (.ok [text], w)) ∧
    (lines ≠ [] → Heredoc.splitText text = (before, some (joinLines lines)) ∧
      ∀ c, interpret text = .ok c → ∃ ws, Words.split before = .ok ws ∧ Keeps ws (some (joinLines lines)) c ∧
        ∀ k ∈ c.commands, "<<" ++ marker ∈ k.arguments → "<<" ++ marker ∈ ws) ∧
    ((∃ c, interpret text = .ok c ∧ Leaks before marker c) ↔
      lines = [] ∧ ∃ ws word, Words.split before = .ok ws ∧ Words.split ("<<" ++ marker) = .ok [word] ∧
        ¬ StoresEarly ws ∧ ∃ w ∈ ws.getLast?, w ∉ linkWords) := by
  intro text
  refine ⟨feedAll_cut_short hstart (marker_of_opening hopening) hlines hstop, ?_, ?_, ?_⟩
  · exact fun ε σ engine specs w => expand_of_prefix hb (hstart.trans (prefix_joinLines _ _)) engine specs w
  · exact fun hne => ⟨splitText_of_lines hopening hne hlines, fun c hc => (keeps_of_lines hopening hne hlines hc).2⟩
  · rw [← leaks_purge_iff hopening hb hstart]
    constructor
    · rintro ⟨c, hc, hleaks⟩
      by_cases hne : lines = []
      · subst hne
        exact ⟨rfl, c, hc, hleaks⟩
      · obtain ⟨_, _, _, _, _, hheredoc, _⟩ := hleaks
        rw [(keeps_of_lines hopening hne hlines hc).1] at hheredoc
        cases hheredoc
    · rintro ⟨rfl, hleaks⟩
      exact hleaks

end CutShort

/-- An open quote, operators and a line that only begins like the marker, and then the end of the input. -/
theorem lines_kept_at_end :
    idle.feedAll (["sub t | tr a-z A-Z <<EOF ", "\t\"one | &", "EOF "].map .typed ++ [.ended])
      = (idle, [.more, .more, .more, .line "sub t | tr a-z A-Z <<EOF\n\t\"one | &\nEOF "]) ∧
    Heredoc.splitText "sub t | tr a-z A-Z <<EOF\n\t\"one | &\nEOF " = ("sub t | tr a-z A-Z", some "\t\"one | &\nEOF ") ∧
    ¬ ∃ c, interpret "sub t | tr a-z A-Z <<EOF\n\t\"one | &\nEOF " = .ok c ∧ Leaks "sub t | tr a-z A-Z" "EOF" c := by
  have hpurge : purge "sub t | tr a-z A-Z <<EOF " = "sub t | tr a-z A-Z <<EOF" := by decide +kernel
  obtain ⟨hread, _, hcut, hleaks⟩ := @cut_short_leaks_iff "sub t | tr a-z A-Z <<EOF " "sub t | tr a-z A-Z" "EOF" .sub
    ["\t\"one | &", "EOF "] rfl (by rw [hpurge]; decide +kernel) (by rw [hpurge]; decide +kernel) (by decide +kernel)
    .ended (.inr rfl)
  have hbody := (hcut (List.cons_ne_nil _ _)).1
  have htext : joinLines ["sub t | tr a-z A-Z <<EOF", "\t\"one | &", "EOF "]
      = "sub t | tr a-z A-Z <<EOF\n\t\"one | &\nEOF " := by decide +kernel
  have hlines : joinLines ["\t\"one | &", "EOF "] = "\t\"one | &\nEOF " := by decide +kernel
  rw [hpurge, htext] at hread hbody hleaks
  rw [hlines] at hbody
  exact ⟨hread, hbody, fun h => List.cons_ne_nil _ _ (hleaks.mp h).1⟩

/-- An interruption right behind the first line: the opening is published. -/
theorem opening_is_argument :
    Heredoc.marker? "pub t <<EOF" = some "EOF" ∧
    idle.feedAll [.typed "pub t <<EOF", .interrupted] = (idle, [.more, .line "pub t <<EOF"]) ∧
    interpret "pub t <<EOF" = .ok ⟨[⟨"pub", ["t", "<<EOF"]⟩], [], ["pub", "t", "<<EOF"], false⟩ := by
  decide +kernel

end TopicShell.LineReader
