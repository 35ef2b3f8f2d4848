import TopicShell.LineReader
import TopicShell.Macro.Expansion
import TopicShell.Proofs.Line.Chains
import TopicShell.Proofs.Line.Words

/-!
# Typed heredocs

A heredoc is ended twice: the reader of typed lines looks for the marker at the end of each line, and the whole text
is cut once more when it is interpreted.  This file shows that both agree.

* `splitText_of_opening`: a text whose first line opens a heredoc, and which ends with the marker, is cut there,
  whatever its body holds;
* `feedAll_heredoc`: the reader waits for the first line that ends with the marker and hands on one text;
* `chainOf_body`: the body is one more argument of the last command.

Together they make what was typed below the first line the last argument, as it was typed.
-/

namespace TopicShell.Line.Heredoc

open TopicShell.Text

/-! ## The opening of a heredoc -/

/-- A line that opens a heredoc ends with `<<` and the marker, up to blanks; before it stands the text before the
heredoc, and one blank if anything stands there. -/
theorem parts_of_opening {line before marker : List Char} (h : opening? line = some (before, marker)) :
    ∃ gap tail, line = before ++ gap ++ '<' :: '<' :: marker ++ tail ∧
      (∀ c ∈ gap, isBlank c = true) ∧ gap.length ≤ 1 ∧ (gap = [] → before = []) ∧
      (∀ c ∈ marker, isBlank c = false) ∧ ∀ c ∈ tail, isBlank c = true := by
  rw [opening?] at h
  obtain ⟨back, hback⟩ : ∃ back, back = trimLeft isBlank line.reverse := ⟨_, rfl⟩
  obtain ⟨word, hword⟩ : ∃ word, word = back.takeWhile (!isBlank ·) := ⟨_, rfl⟩
  obtain ⟨rest, hrest⟩ : ∃ rest, rest = back.dropWhile (!isBlank ·) := ⟨_, rfl⟩
  obtain ⟨tail, htail⟩ : ∃ tail, tail = line.reverse.takeWhile isBlank := ⟨_, rfl⟩
  have hline : line.reverse = tail ++ (word ++ rest) := by
    rw [hword, hrest, List.takeWhile_append_dropWhile, hback, htail]
    exact List.takeWhile_append_dropWhile.symm
  have hgap : ∀ c ∈ rest.take 1, isBlank c = true := by
    intro c hc
    have hhead := List.head?_dropWhile_not (!isBlank ·) back
    rw [← hrest] at hhead
    cases rest with
    | nil => cases hc
    | cons x rest =>
      rw [List.mem_singleton.mp hc]
      simpa using hhead
  have hempty : (rest.take 1).reverse = [] → (rest.drop 1).reverse = [] := by
    cases rest with
    | nil => exact id
    | cons x rest => simp
  have hplain : ∀ c ∈ word, isBlank c = false := by
    have hall := List.all_eq_true.mp (List.all_takeWhile (p := (!isBlank ·)) (l := back))
    rw [← hword] at hall
    simpa using hall
  have hblank : ∀ c ∈ tail, isBlank c = true := by
    rw [htail]
    exact List.all_eq_true.mp List.all_takeWhile
  simp only [← hback, ← hword, ← hrest] at h
  split at h
  · rename_i c marker' hopens
    cases h
    refine ⟨(rest.take 1).reverse, tail.reverse, ?_, by simpa using hgap, ?_, hempty, ?_, by simpa using hblank⟩
    · calc line = (tail ++ (word ++ rest)).reverse := by rw [← hline, List.reverse_reverse]
        _ = rest.reverse ++ word.reverse ++ tail.reverse := by rw [List.reverse_append, List.reverse_append]
        _ = _ := by rw [← List.take_append_drop 1 rest, List.reverse_append, hopens, List.take_append_drop]
    · rw [List.length_reverse]
      exact List.length_take_le 1 rest
    · intro x hx
      refine hplain x (List.mem_reverse.mp ?_)
      rw [hopens]
      exact List.mem_cons_of_mem _ (List.mem_cons_of_mem _ hx)
  · cases h

theorem newline_not_mem_of_opening {line before marker : List Char} (h : opening? line = some (before, marker))
    (hline : '\n' ∉ line) : '\n' ∉ before := by
  obtain ⟨gap, tail, rfl, _⟩ := parts_of_opening h
  intro hmem
  exact hline (by simp [hmem])

/-- What a line begins with stands before the heredoc that it opens. -/
theorem mem_of_opening {line before marker : List Char} (h : opening? line = some (before, marker)) {x : Char}
    (hx : isBlank x = false ∧ x ≠ '<') (hfirst : line.head? = some x) : x ∈ before := by
  obtain ⟨gap, tail, rfl, hgap, _⟩ := parts_of_opening h
  cases before with
  | cons y before =>
    cases hfirst
    exact List.mem_cons_self
  | nil =>
    cases gap with
    | cons y gap =>
      cases hfirst
      rw [hgap x List.mem_cons_self] at hx
      exact absurd hx.1 (by decide)
    | nil =>
      cases hfirst
      exact absurd rfl hx.2

/-! ## Where the body ends -/

theorem cutLine_of_newline {line : List Char} (h : '\n' ∉ line) (below : List Char) :
    cutLine (line ++ '\n' :: below) = (line, some below) := by
  induction line with
  | nil => rfl
  | cons c line ih =>
    simp only [List.mem_cons, not_or] at h
    rw [List.cons_append, cutLine, if_neg (Ne.symm h.1), ih h.2]

theorem dropMarker_append (marker body : List Char) : dropMarker marker (body ++ marker) = body := by
  rw [dropMarker, if_pos (by simp)]
  simp

/-- The marker at the end of a text is the end of the heredoc, and the body is what stands between. -/
theorem splitText_of_opening {line before marker : String} (hline : '\n' ∉ line.toList)
    (h : opening? line.toList = some (before.toList, marker.toList)) (body : String) :
    splitText (line ++ "\n" ++ (body ++ marker)) = (before, some body) := by
  have htext : (line ++ "\n" ++ (body ++ marker)).toList
      = line.toList ++ '\n' :: (body.toList ++ marker.toList) := by simp
  rw [splitText, split, htext, cutLine_of_newline hline]
  simp [h, dropMarker_append]

end TopicShell.Line.Heredoc

namespace TopicShell.Line

/-- The body of a heredoc is one more argument of the last command, if the words before it end in a command. -/
theorem chainOf_body {ws : List String} {c : Chain} (hc : chainOf ws none = .ok c) (hws : ws ≠ [])
    (hlast : ∀ w ∈ ws.getLast?, w ∉ linkWords ∧ w ≠ longTermWord) (body : String) :
    ∃ ks k, c.commands = ks ++ [k] ∧ chainOf ws (some body)
      = .ok ⟨ks ++ [{ k with arguments := k.arguments ++ [body] }], c.links, c.words ++ [body], true⟩ := by
  have hunmarked : ws.getLast? ≠ some longTermWord := fun h => (hlast _ h).2 rfl
  have hword : (groups ws).getLast?.getD [] ≠ [] := by
    rw [ne_eq, getLast?_groups_eq_nil_iff]
    intro h
    obtain ⟨before, w, rfl⟩ := (List.eq_nil_or_concat ws).resolve_left hws
    rw [List.concat_eq_append] at h hlast
    exact (hlast w List.getLast?_concat).1 (h w List.getLast?_concat)
  obtain ⟨front, last, hgroups⟩ : ∃ front last, groups ws = front ++ [last] :=
    ⟨_, _, (List.dropLast_concat_getLast (groups_ne_nil ws)).symm⟩
  rw [hgroups, List.getLast?_concat] at hword
  obtain ⟨n, arguments, rfl⟩ := List.exists_cons_of_ne_nil hword
  have hsome := chainOf_some (not_storesEarly_of_ok hc) body
  rw [eq_of_chainOf_none hc, hsome, unmarked_of_ne hunmarked, addBody, hgroups, List.getLast?_concat,
    List.dropLast_concat, List.filterMap_append, List.filterMap_append]
  exact ⟨front.filterMap Command.ofWords?, ⟨n, arguments⟩, rfl, rfl⟩

end TopicShell.Line

namespace TopicShell.LineReader

open Line

/-! ## Typed lines -/

theorem endsWith_iff (marker line : String) : endsWith marker line = true ↔ marker.toList <:+ line.toList := by
  rw [endsWith, List.isPrefixOf_iff_prefix, List.reverse_prefix]

theorem printable_of_mem_purge {line : String} {c : Char} (h : c ∈ (purge line).toList) :
    Text.isPrintable c = true := by
  rw [purge, String.toList_ofList, Text.trim, Text.trimRight, List.mem_reverse] at h
  have htrimmed := (List.dropWhile_suffix _).subset h
  rw [List.mem_reverse] at htrimmed
  exact (List.mem_filter.mp ((List.dropWhile_suffix _).subset htrimmed)).2

theorem newline_not_mem_purge (line : String) : '\n' ∉ (purge line).toList :=
  fun h => absurd (printable_of_mem_purge h) (by decide)

theorem joinLines_cons (line : String) {lines : List String} (h : lines ≠ []) :
    joinLines (line :: lines) = line ++ "\n" ++ joinLines lines :=
  String.intercalate_cons_of_ne_nil h

theorem joinLines_concat_append (lines : List String) (last marker : String) :
    joinLines (lines ++ [last ++ marker]) = joinLines (lines ++ [last]) ++ marker := by
  induction lines with
  | nil => rfl
  | cons line lines ih =>
    rw [List.cons_append, List.cons_append, joinLines_cons line (by simp), joinLines_cons line (by simp), ih]
    simp only [String.append_assoc]

/-- A text with a character that stands in no built-in word is handed on. -/
theorem complete_of_mem {c : Char} (hc : ∀ b : Builtin, c ∉ b.word.toList) {text : String} (h : c ∈ text.toList) :
    complete text = .line text := by
  have hword : ∀ b : Builtin, (text == b.word) = false := by
    intro b
    rw [beq_eq_false_iff_ne]
    rintro rfl
    exact hc b h
  rw [complete, hword, hword]
  rfl

theorem newline_not_mem_word (b : Builtin) : '\n' ∉ b.word.toList := by
  cases b <;> decide

/-! ## Reading a heredoc -/

/-- A reader after some inputs, and what each of them led to. -/
def feedAll : LineReader → List Input → LineReader × List Step
  | r, [] => (r, [])
  | r, i :: rest => (((r.feed i).1.feedAll rest).1, (r.feed i).2 :: ((r.feed i).1.feedAll rest).2)

theorem feedAll_append (r : LineReader) (inputs more : List Input) :
    r.feedAll (inputs ++ more) =
      (((r.feedAll inputs).1.feedAll more).1, (r.feedAll inputs).2 ++ ((r.feedAll inputs).1.feedAll more).2) := by
  induction inputs generalizing r with
  | nil => rfl
  | cons i inputs ih =>
    rw [List.cons_append, feedAll, ih]
    rfl

theorem feed_of_marker {line marker : String} (h : Heredoc.marker? (purge line) = some marker) :
    idle.feed (.typed line) = (heredoc marker [purge line], .more) := by
  have hsome : (purge line).isEmpty = false := by
    rw [Bool.eq_false_iff]
    intro hempty
    rw [String.isEmpty_iff.mp hempty] at h
    cases h
  rw [feed, start, hsome, h]
  rfl

/-- Lines that do not end with the marker are kept. -/
theorem feedAll_open {marker : String} {lines : List String} (h : ∀ l ∈ lines, ¬ marker.toList <:+ l.toList)
    (before : List String) :
    (heredoc marker before).feedAll (lines.map .typed)
      = (heredoc marker (before ++ lines), List.replicate lines.length .more) := by
  induction lines generalizing before with
  | nil => rw [List.append_nil]; rfl
  | cons l lines ih =>
    have hl : endsWith marker l = false := by
      rw [Bool.eq_false_iff, ne_eq, endsWith_iff]
      exact h l List.mem_cons_self
    have hfeed : (heredoc marker before).feed (.typed l) = (heredoc marker (before ++ [l]), .more) := by
      simp only [feed, hl]
      rfl
    rw [List.map_cons, feedAll, hfeed, ih fun l' hl' => h l' (List.mem_cons_of_mem l hl')]
    simp [List.replicate_succ]

/-- The first line that ends with the marker ends the heredoc, and all its lines are handed on as one text. -/
theorem feedAll_heredoc {first marker : String} (hmarker : Heredoc.marker? (purge first) = some marker)
    {lines : List String} (h : ∀ l ∈ lines, ¬ marker.toList <:+ l.toList) (last : String) :
    idle.feedAll ((first :: lines ++ [last ++ marker]).map .typed)
      = (idle, List.replicate (lines.length + 1) .more
          ++ [.line (joinLines (purge first :: lines ++ [last ++ marker]))]) := by
  have hends : endsWith marker (last ++ marker) = true := by
    rw [endsWith_iff, String.toList_append]
    exact List.suffix_append _ _
  have hnewline : '\n' ∈ (joinLines (purge first :: lines ++ [last ++ marker])).toList := by
    rw [List.cons_append, joinLines_cons _ (by simp)]
    simp
  have hend : (heredoc marker (purge first :: lines)).feed (.typed (last ++ marker))
      = (idle, .line (joinLines (purge first :: lines ++ [last ++ marker]))) := by
    rw [feed, hends, complete_of_mem newline_not_mem_word hnewline]
    rfl
  rw [List.cons_append, List.map_cons, List.map_append, feedAll, feed_of_marker hmarker, feedAll_append, feedAll_open h,
    List.singleton_append, List.map_singleton, feedAll, hend, feedAll, List.replicate_succ]
  rfl

/-- A text that starts like a command with arguments is no matter of the macros. -/
theorem expand_of_prefix {ε σ : Type} {b : Builtin} (hb : b.takesArguments = true) {text : String}
    (h : (b.word ++ " ").toList <+: text.toList) (engine : Macro.Engine ε σ) (specs : List (String × Macro.Spec))
    (w : σ) : (Macro.expand engine specs text).run w = (.ok [text], w) := by
  have hbelongs : Macro.belongsTo text b = true := by
    rw [Macro.belongsTo, hb, List.isPrefixOf_iff_prefix.mpr h]
    simp
  have hcandidate : ¬ Macro.isCandidate text = true := by
    have hmem : b ∈ Builtin.all := by cases b <;> decide
    rw [Macro.isCandidate, List.any_eq_true.mpr ⟨b, hmem, hbelongs⟩]
    decide
  rw [Macro.expand, if_neg hcandidate]
  rfl

/-- The name of the command stands before the heredoc. -/
theorem letter_mem_of_opening {b : Builtin} (hb : b.takesArguments = true) {line : List Char}
    (hstart : (b.word ++ " ").toList <+: line) {before marker : List Char}
    (hopening : Heredoc.opening? line = some (before, marker)) : ∃ x ∈ before, Words.isSpecial x = false := by
  obtain ⟨x, hx, hspecial, hword⟩ : ∃ x, (Text.isBlank x = false ∧ x ≠ '<') ∧ Words.isSpecial x = false ∧
      (b.word ++ " ").toList.head? = some x := by
    cases b with
    | pub => exact ⟨'p', by decide, by decide, by decide⟩
    | sub => exact ⟨'s', by decide, by decide, by decide⟩
    | unsub => exact ⟨'u', by decide, by decide, by decide⟩
    | _ => cases hb
  have hfirst : line.head? = some x := by
    obtain ⟨more, rfl⟩ := hstart
    rw [List.head?_append, hword]
    rfl
  exact ⟨x, Heredoc.mem_of_opening hopening hx hfirst, hspecial⟩

theorem words_ne_nil_of_opening {b : Builtin} (hb : b.takesArguments = true) {line : List Char}
    (hstart : (b.word ++ " ").toList <+: line) {before : String} {marker : List Char}
    (hopening : Heredoc.opening? line = some (before.toList, marker)) {ws : List String}
    (hws : Words.split before = .ok ws) : ws ≠ [] := by
  obtain ⟨x, hmem, hspecial⟩ := letter_mem_of_opening hb hstart hopening
  rintro rfl
  exact List.count_eq_zero.mp (Words.countIn_split hspecial hws).symm hmem

/-- **A typed heredoc is one more argument, word for word.**  The first line, purged, starts like a command with
arguments and opens a heredoc; the text before it can be interpreted, and it ends neither in a link nor in an `&`.
Then the reader takes exactly the lines up to the first one that ends with the marker and hands them on as one
text, which is no matter of the macros.  The chain of this text is that of the text before the heredoc with one
argument more: the lines as they were typed, up to the marker. -/
theorem typed_heredoc_is_last_argument {first before marker : String} {b : Builtin} (hb : b.takesArguments = true)
    (hstart : (b.word ++ " ").toList <+: (purge first).toList)
    (hopening : Heredoc.opening? (purge first).toList = some (before.toList, marker.toList)) {ws : List String}
    (hws : Words.split before = .ok ws) (hlast : ∀ w ∈ ws.getLast?, w ∉ linkWords ∧ w ≠ longTermWord) {c : Chain}
    (hc : interpret before = .ok c) {lines : List String} (hlines : ∀ l ∈ lines, ¬ marker.toList <:+ l.toList)
    (last : String) :
    let text := joinLines (purge first :: lines ++ [last ++ marker])
    let body := joinLines (lines ++ [last])
    Heredoc.marker? (purge first) = some marker ∧
    idle.feedAll ((first :: lines ++ [last ++ marker]).map .typed)
      = (idle, List.replicate (lines.length + 1) .more ++ [.line text]) ∧
    (∀ (ε σ : Type) (engine : Macro.Engine ε σ) (specs : List (String × Macro.Spec)) (w : σ),
      (Macro.expand engine specs text).run w = (.ok [text], w)) ∧
    ∃ ks k d, c.commands = ks ++ [k] ∧ interpret text = .ok d ∧
      d.commands = ks ++ [{ k with arguments := k.arguments ++ [body] }] ∧ d.links = c.links ∧
      d.isLongTerm = false := by
  intro text body
  have hpurged := newline_not_mem_purge first
  have hmarker : Heredoc.marker? (purge first) = some marker := by
    rw [Heredoc.marker?, Heredoc.cutLine_of_not_mem hpurged, hopening]
    simp
  have htext : text = purge first ++ "\n" ++ (body ++ marker) := by
    show joinLines (purge first :: (lines ++ [last ++ marker])) = _
    rw [joinLines_cons _ (by simp), joinLines_concat_append]
  refine ⟨hmarker, feedAll_heredoc hmarker hlines last, ?_, ?_⟩
  · intro ε σ engine specs w
    refine expand_of_prefix hb (hstart.trans ?_) engine specs w
    rw [htext, String.append_assoc, String.toList_append]
    exact List.prefix_append _ _
  · have hbefore : '\n' ∉ before.toList := Heredoc.newline_not_mem_of_opening hopening hpurged
    rw [interpret_of_no_newline hbefore hws] at hc
    obtain ⟨ks, k, hks, hd⟩ := chainOf_body hc (words_ne_nil_of_opening hb hstart hopening hws) hlast body
    have hsplit := Heredoc.splitText_of_opening hpurged hopening body
    have hwords : Words.split (Heredoc.splitText text).1 = .ok ws := by rw [htext, hsplit, hws]
    rw [interpret_of_split hwords, htext, hsplit]
    exact ⟨ks, k, _, hks, hd, rfl, rfl, rfl⟩

/-- Pipes, quotes, an `&` and the marker itself in the lines, and what is not printable before the first one. -/
theorem typed_lines_kept :
    idle.feedAll (["\x07 sub t | tr a-z A-Z <<EOF ", "\t\"two words | &", "EOF ", "last EOF"].map .typed)
      = (idle, [.more, .more, .more, .line "sub t | tr a-z A-Z <<EOF\n\t\"two words | &\nEOF \nlast EOF"]) ∧
    ∃ d, interpret "sub t | tr a-z A-Z <<EOF\n\t\"two words | &\nEOF \nlast EOF" = .ok d ∧
      d.commands = [⟨"sub", ["t"]⟩, ⟨"tr", ["a-z", "A-Z", "\t\"two words | &\nEOF \nlast "]⟩] ∧
      d.links = [.pipe] ∧ d.isLongTerm = false := by
  have hpurge : purge "\x07 sub t | tr a-z A-Z <<EOF " = "sub t | tr a-z A-Z <<EOF" := by decide +kernel
  have hchain : interpret "sub t | tr a-z A-Z" = .ok ⟨[⟨"sub", ["t"]⟩] ++ [⟨"tr", ["a-z", "A-Z"]⟩], [.pipe],
      ["sub", "t", "|", "tr", "a-z", "A-Z"], false⟩ := by decide +kernel
  obtain ⟨_, hread, _, ks, k, d, hks, hd, hcommands, hlinks, hlong⟩ :=
    @typed_heredoc_is_last_argument "\x07 sub t | tr a-z A-Z <<EOF " "sub t | tr a-z A-Z" "EOF" .sub rfl
      (by rw [hpurge]; decide +kernel) (by rw [hpurge]; decide +kernel) ["sub", "t", "|", "tr", "a-z", "A-Z"]
      (by decide +kernel) (by decide) _ hchain ["\t\"two words | &", "EOF "] (by decide +kernel) "last "
  have htext : joinLines ("sub t | tr a-z A-Z <<EOF" :: ["\t\"two words | &", "EOF "] ++ ["last " ++ "EOF"])
      = "sub t | tr a-z A-Z <<EOF\n\t\"two words | &\nEOF \nlast EOF" := by decide +kernel
  have hbody : joinLines (["\t\"two words | &", "EOF "] ++ ["last "]) = "\t\"two words | &\nEOF \nlast " := by
    decide +kernel
  obtain ⟨rfl, hk⟩ := List.append_inj' hks rfl
  cases hk
  rw [hpurge, htext] at hread hd
  rw [hbody] at hcommands
  exact ⟨hread, d, hd, hcommands, hlinks, hlong⟩

end TopicShell.LineReader
