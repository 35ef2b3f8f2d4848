import TopicShell.Proofs.Macro.Invocations

/-!
# Pipes of invocations

What stands after the first bar of an invocation is put behind the lines that subscribe.  The bar is looked for
in the text as it is, while a line is read with its quotes.  `CutsAtLink` says that both views agree on where
the pipe begins; `resolve_continues_iff` shows that the pipe of an invocation goes on behind a line exactly
then.
-/

namespace TopicShell.Macro

open Line

variable {ε σ : Type}

/-! ## The first bar of a line -/

/-- The text from the first bar on, read on its own, has the words of the line from its first link on.  Some word
stands before this link, and something stands after the bar. -/
def CutsAtLink (line : String) : Prop :=
  pipeOf line ≠ "" ∧ ∃ before link more, before ≠ [] ∧ (∀ w ∈ before, w ∉ linkWords) ∧ link ∈ linkWords ∧
    Words.split line = .ok (before ++ link :: more) ∧ Words.split ("|" ++ pipeOf line) = .ok (link :: more)

theorem exists_front_of_bar {line : String} (h : '|' ∈ line.toList) :
    ∃ front, '|' ∉ front ∧ line.toList = front ++ '|' :: (pipeOf line).toList := by
  obtain ⟨front, rest, heq, hfront⟩ := List.eq_append_cons_of_mem h
  refine ⟨front, hfront, ?_⟩
  rw [pipeOf, heq, Text.cut_append hfront]
  simp

theorem pipeOf_subset (line : String) : (pipeOf line).toList ⊆ line.toList := by
  by_cases h : '|' ∈ line.toList
  · obtain ⟨front, _, heq⟩ := exists_front_of_bar h
    intro x hx
    rw [heq]
    exact List.mem_append_right _ (List.mem_cons_of_mem _ hx)
  · rw [pipeOf_of_not_mem h]
    exact List.nil_subset _

/-- A link that begins with a bar has no other one, and nothing in it means anything to the reader. -/
theorem exists_rest_of_link {link : String} (h : link = "|" ∨ link = "|&") :
    ∃ rest, link.toList = '|' :: rest ∧ ∀ c ∈ rest, Words.isSpecial c = false := by
  rcases h with rfl | rfl
  · exact ⟨[], rfl, fun _ h => absurd h List.not_mem_nil⟩
  · refine ⟨['&'], rfl, fun c hc => ?_⟩
    rw [List.mem_singleton.mp hc]
    rfl

/-- If no word before the first link has a bar, and the text from the first bar on begins with a link as well,
then both readings agree from the link on. -/
theorem split_pipe_of_first_bar {line link link' : String} {before more more' : List String}
    (hwords : Words.split line = .ok (before ++ link :: more)) (hbefore : Words.countIn '|' before = 0)
    (hlink : link = "|" ∨ link = "|&") (hlink' : link' = "|" ∨ link' = "|&")
    (halone : Words.split ("|" ++ pipeOf line) = .ok (link' :: more')) :
    link' :: more' = link :: more := by
  obtain ⟨rest, hrest, hplain⟩ := exists_rest_of_link hlink
  obtain ⟨rest', hrest', hplain'⟩ := exists_rest_of_link hlink'
  have hbar : Words.isSpecial '|' = false := by decide
  have hmem : '|' ∈ line.toList := by
    rw [← List.count_pos_iff, ← Words.countIn_split hbar hwords, Words.countIn_append, Words.countIn_cons, hrest,
      List.count_cons_self]
    omega
  obtain ⟨front, hfront, hline⟩ := exists_front_of_bar hmem
  have hscan := Words.split_eq_ok_iff.mp hwords
  have hscan' := Words.split_eq_ok_iff.mp halone
  have htext : ("|" ++ pipeOf line).toList = '|' :: (pipeOf line).toList := by simp
  rw [htext] at hscan'
  rw [hline, List.map_append, List.map_cons, hrest] at hscan
  have hbegins : Words.BeginsPlainly (Words.scan .gap [] ('|' :: (pipeOf line).toList)) := by
    rw [hscan', List.map_cons, hrest']
    intro c hc
    rcases List.mem_cons.mp hc with rfl | hc
    · exact hbar
    · exact hplain' c hc
  have hfirst : ∀ w ∈ before.map String.toList, '|' ∉ w := by
    intro w hw
    obtain ⟨v, hv, rfl⟩ := List.mem_map.mp hw
    exact Words.countIn_eq_zero_iff.mp hbefore v hv
  have hagree := Words.scan_from_first hbar hfront hscan hfirst hplain hbegins
  rw [hscan', ← hrest, ← List.map_cons, Except.ok.injEq] at hagree
  exact (List.map_injective_iff.mpr fun _ _ => String.toList_inj.mp) hagree

/-- The first bar and what stands after it have all bars of the line. -/
theorem countIn_bar_of_pipe {line : String} {ws us : List String} (hpipe : pipeOf line ≠ "")
    (hws : Words.split line = .ok ws) (hus : Words.split ("|" ++ pipeOf line) = .ok us) :
    Words.countIn '|' ws = Words.countIn '|' us := by
  have hbar : Words.isSpecial '|' = false := by decide
  have hmem : '|' ∈ line.toList := by
    by_contra h
    exact hpipe (pipeOf_of_not_mem h)
  obtain ⟨front, hfront, hline⟩ := exists_front_of_bar hmem
  have htext : ("|" ++ pipeOf line).toList = '|' :: (pipeOf line).toList := by simp
  rw [Words.countIn_split hbar hws, Words.countIn_split hbar hus, hline, htext, List.count_append,
    List.count_eq_zero.mpr hfront, Nat.zero_add]

/-- The bars of a line are those of the links and of the words of the commands. -/
theorem countIn_bar_of_keeps {ws : List String} {c : Chain} (h : Keeps ws none c) :
    Words.countIn '|' ws =
      Words.countIn '|' (c.links.map Link.text) + Words.countIn '|' (c.commands.flatMap Command.words) := by
  have hlong : Words.countIn '|' (if c.isLongTerm then [longTermWord] else []) = 0 := by
    split_ifs <;> rfl
  rw [Words.countIn_filter '|' (· ∈ linkWords), ← h.links, ← List.append_nil (ws.filter _)]
  show _ + Words.countIn '|' (_ ++ (none : Option String).toList) = _
  rw [← h.words, Words.countIn_append, hlong, Nat.add_zero]

/-- The words of chains with the same commands and links have as many bars. -/
theorem countIn_bar_eq {ws ws' : List String} {c c' : Chain} (h : chainOf ws none = .ok c)
    (h' : chainOf ws' none = .ok c') (hcommands : c.commands = c'.commands) (hlinks : c.links = c'.links) :
    Words.countIn '|' ws = Words.countIn '|' ws' := by
  rw [countIn_bar_of_keeps (chainOf_keeps h), countIn_bar_of_keeps (chainOf_keeps h'), hcommands, hlinks]

/-- The first link of a chain is the first one among its words. -/
theorem text_of_first_link {before : List String} (h : ∀ w ∈ before, w ∉ linkWords) {link : String}
    (hlink : link ∈ linkWords) (more : List String) :
    (linksOf (before ++ link :: more)).head?.map Link.text = some link := by
  obtain ⟨l, hl, rfl⟩ := Link.ofWord?_of_mem hlink
  rw [linksOf_append, (linksOf_eq_nil_iff before).mpr h, linksOf_cons_of_mem hl]
  rfl

/-! ## Lines that subscribe -/

/-- A line that subscribes is one command when it has neither a link nor a heredoc and does not go on in the
background. -/
theorem exists_command {line : String} {k : Chain} (hsub : subscribes line = true) (hk : interpret line = .ok k)
    (hlinks : k.links = []) (hlong : k.isLongTerm = false) (hbody : k.heredoc = false) :
    ∃ n arguments, Words.split line = .ok (n :: arguments) ∧ (∀ w ∈ n :: arguments, w ∉ linkWords) ∧
      k.commands = [⟨n, arguments⟩] ∧ Heredoc.splitText line = (line, none) := by
  obtain ⟨ws, hs, hk⟩ := exists_words_of_interpret hk
  obtain ⟨htaken, hwords, hheredoc⟩ := chainOf_takes hk
  have hnone : (Heredoc.splitText line).2 = none := by
    rw [← Option.not_isSome_iff_eq_none, ← hheredoc, hbody]
    exact Bool.false_ne_true
  have hsplit := Heredoc.splitText_of_none hnone
  rw [hsplit] at hs
  rw [hnone] at hk hwords
  have hlinkless : ∀ w ∈ ws, w ∉ linkWords := (linksOf_eq_nil_iff ws).mp (htaken.symm.trans hlinks)
  have hlast : ws.getLast? ≠ some longTermWord := by
    intro hlast
    rw [Chain.isLongTerm, hbody, hwords] at hlong
    simp [hlast] at hlong
  cases ws with
  | nil =>
    -- The `s` in front is in some word.
    have hcount := Words.countIn_split (by decide : Words.isSpecial 's' = false) hs
    obtain ⟨rest, hrest⟩ := List.isPrefixOf_iff_prefix.mp hsub
    have hfront : (Builtin.sub.word ++ " ").toList = ['s', 'u', 'b', ' '] := by decide
    rw [← hrest, hfront, List.cons_append, List.count_cons_self] at hcount
    exact absurd hcount (Nat.succ_ne_zero _).symm
  | cons n arguments =>
    rw [chainOf_linkless hlinkless hlast] at hk
    cases hk
    exact ⟨n, arguments, hs, hlinkless, rfl, hsplit⟩

/-- Behind a heredoc a pipe is not read. -/
theorem links_of_heredoc {line more : String} {k e : Chain} (hk : interpret line = .ok k)
    (hbody : k.heredoc = true) (he : interpret (line ++ more) = .ok e) : e.links = k.links := by
  obtain ⟨ws, hs, hk⟩ := exists_words_of_interpret hk
  obtain ⟨htaken, _, hheredoc⟩ := chainOf_takes hk
  obtain ⟨body, hsome⟩ := Option.isSome_iff_exists.mp (hheredoc.symm.trans hbody)
  obtain ⟨body', hmore⟩ := Heredoc.splitText_append_of_some hsome more
  rw [interpret_of_split (by rw [hmore]; exact hs)] at he
  rw [(chainOf_takes he).1, htaken]

theorem attachPipe_of_subscribes {pipe line : String} (hpipe : pipe ≠ "") (hsub : subscribes line = true) :
    attachPipe pipe line = line ++ " " ++ ("|" ++ pipe) := by
  have hboth : (decide (pipe ≠ "") && subscribes line) = true := by simp [hpipe, hsub]
  rw [attachPipe, if_pos hboth, ← String.toList_inj]
  simp

theorem attachPipe_eq_iff {pipe line : String} (hsub : subscribes line = true) :
    attachPipe pipe line = line ↔ pipe = "" := by
  by_cases hpipe : pipe = ""
  · subst hpipe
    simp [attachPipe]
  · rw [attachPipe_of_subscribes hpipe hsub]
    refine ⟨fun h => ?_, fun h => absurd h hpipe⟩
    have hlength := congrArg (fun t => t.toList.length) h
    simp at hlength

/-- The chain begins with the first command of the chain `k`, and goes on like the chain `c`. -/
structure Continues (k c e : Chain) : Prop where
  first : e.commands.head? = k.commands.head?
  others : e.commands.tail = c.commands.tail
  links : e.links = c.links
  longTerm : e.isLongTerm = c.isLongTerm

/-- The words of a line without a line feed, and their chain. -/
theorem exists_words {line : String} {c : Chain} (hline : '\n' ∉ line.toList) (hc : interpret line = .ok c) :
    ∃ ws, Words.split line = .ok ws ∧ chainOf ws none = .ok c := by
  have hwords := exists_words_of_interpret hc
  rw [Heredoc.splitText_of_not_mem hline] at hwords
  exact hwords

/-- A chain with words in front of its first link is theirs and the chain from the link on. -/
theorem exists_chain_from_link {n : String} {arguments more : List String} {link : String} {c : Chain}
    (h : ∀ w ∈ n :: arguments, w ∉ linkWords) (hlink : link ∈ linkWords)
    (hc : chainOf (n :: arguments ++ link :: more) none = .ok c) :
    ∃ d, chainOf (link :: more) none = .ok d ∧ c.commands = ⟨n, arguments⟩ :: d.commands ∧ c.links = d.links ∧
      c.isLongTerm = d.isLongTerm := by
  rw [chainOf_append_link h hlink] at hc
  cases hd : chainOf (link :: more) none with
  | error e =>
    rw [hd] at hc
    cases hc
  | ok d =>
    rw [hd] at hc
    cases hc
    obtain ⟨_, hwords, hheredoc⟩ := chainOf_takes hd
    refine ⟨d, rfl, rfl, rfl, ?_⟩
    rw [Chain.isLongTerm, Chain.isLongTerm, hwords, hheredoc, List.getLast?_append]
    simp

/-- A chain with a link whose first command has some words begins with them, and the link follows. -/
theorem exists_link_after_first {n : String} {arguments us : List String} {e : Chain}
    (h : ∀ w ∈ n :: arguments, w ∉ linkWords) (he : chainOf (n :: arguments ++ us) none = .ok e)
    (hlinks : e.links ≠ []) (hfirst : e.commands.head? = some ⟨n, arguments⟩) :
    ∃ link more d, us = link :: more ∧ link ∈ linkWords ∧ chainOf us none = .ok d ∧ e.commands.tail = d.commands ∧
      e.links = d.links := by
  rw [(chainOf_takes he).1, linksOf_append, (linksOf_eq_nil_iff _).mpr h] at hlinks
  obtain ⟨added, link, more, rfl, hadded, hlink⟩ := exists_first_link hlinks
  have hlonger : ∀ w ∈ n :: (arguments ++ added), w ∉ linkWords := by
    intro w hw
    rw [← List.cons_append] at hw
    exact (List.mem_append.mp hw).elim (h w) (hadded w)
  rw [← List.append_assoc, List.cons_append] at he
  obtain ⟨d, hd, hcommands, hdlinks, -⟩ := exists_chain_from_link hlonger hlink he
  have hsame : arguments ++ added = arguments := by
    rw [hcommands] at hfirst
    exact congrArg Command.arguments (Option.some.inj hfirst)
  have hnone : added = [] := List.append_right_eq_self.mp hsame
  subst hnone
  exact ⟨link, more, d, rfl, hlink, hd, by rw [hcommands]; rfl, hdlinks⟩

/-! ## The pipe of an invocation -/

section Cutting

variable {line : String} {c : Chain}

/-- No bar stands before the first link, if the chain goes on after it like the text from the first bar on. -/
theorem no_bar_before_link {before more us : List String} {link : String} {d : Chain}
    (hws : Words.split line = .ok (before ++ link :: more)) (hbefore : ∀ w ∈ before, w ∉ linkWords)
    (hlink : link ∈ linkWords) (hc : chainOf (before ++ link :: more) none = .ok c) (hpipe : pipeOf line ≠ "")
    (halone : Words.split ("|" ++ pipeOf line) = .ok us) (hd : chainOf us none = .ok d)
    (hothers : c.commands.tail = d.commands) (hlinks : c.links = d.links) : Words.countIn '|' before = 0 := by
  cases before with
  | nil => rfl
  | cons n arguments =>
    obtain ⟨d', hd', hcommands, hlinks', -⟩ := exists_chain_from_link hbefore hlink hc
    rw [hcommands] at hothers
    have hbars := countIn_bar_eq hd' hd hothers (hlinks'.symm.trans hlinks)
    have hall := countIn_bar_of_pipe hpipe hws halone
    rw [Words.countIn_append, hbars] at hall
    omega

/-- The text from the first bar on agrees with the words from the first link on as soon as its chain has the links
and the other commands of the whole chain. -/
theorem cutsAtLink_of_chain (hline : '\n' ∉ line.toList) (hc : interpret line = .ok c) (hcommands : c.commands ≠ [])
    (hfirst : c.links.head? = some .pipe ∨ c.links.head? = some .pipeBoth) (hpipe : pipeOf line ≠ "")
    {link' : String} {more' : List String} {d : Chain} (hlink' : link' ∈ linkWords)
    (halone : Words.split ("|" ++ pipeOf line) = .ok (link' :: more')) (hd : chainOf (link' :: more') none = .ok d)
    (hothers : c.commands.tail = d.commands) (hlinks : c.links = d.links) : CutsAtLink line := by
  obtain ⟨ws, hws, hchain⟩ := exists_words hline hc
  have hlinksOf := (chainOf_takes hchain).1
  have hsome : linksOf ws ≠ [] := by
    intro h
    rw [hlinksOf, h] at hfirst
    simp at hfirst
  obtain ⟨before, link, more, rfl, hbefore, hlink⟩ := exists_first_link hsome
  have hhead := text_of_first_link hbefore hlink more
  rw [← hlinksOf] at hhead
  have htext : link = "|" ∨ link = "|&" := by
    rcases hfirst with hfirst | hfirst
    · rw [hfirst] at hhead
      exact .inl (Option.some.inj hhead).symm
    · rw [hfirst] at hhead
      exact .inr (Option.some.inj hhead).symm
  have hsame : link' = link := by
    have hhead' := text_of_first_link (fun w hw => absurd hw List.not_mem_nil) hlink' more'
    rw [List.nil_append, ← (chainOf_takes hd).1, ← hlinks, hhead] at hhead'
    exact (Option.some.inj hhead').symm
  have hcount := no_bar_before_link hws hbefore hlink hchain hpipe halone hd hothers hlinks
  have hagree := split_pipe_of_first_bar hws hcount htext (hsame ▸ htext) halone
  rw [hagree] at halone hd
  refine ⟨hpipe, before, link, more, ?_, hbefore, hlink, hws, halone⟩
  -- With a link in front, the first command would be one of the others.
  rintro rfl
  rw [List.nil_append, hd] at hchain
  cases hchain
  have hlength := congrArg List.length hothers
  rw [List.length_tail] at hlength
  have hpos := List.length_pos_iff.mpr hcommands
  omega

end Cutting

section Attaching

variable {line g : String} {k c : Chain} {n : String} {arguments : List String}

/-- The reading of a command with a pipe behind it. -/
theorem interpret_attachPipe (hline : '\n' ∉ line.toList) (hsplit : Heredoc.splitText g = (g, none))
    (hwords : Words.split g = .ok (n :: arguments)) (hsub : subscribes g = true) (hpipe : pipeOf line ≠ "") :
    interpret (attachPipe (pipeOf line) g) =
      match Words.split ("|" ++ pipeOf line) with
      | .ok us => chainOf (n :: arguments ++ us) none
      | .error e => .error (.split e) := by
  have hmore : '\n' ∉ (" " ++ ("|" ++ pipeOf line)).toList := by
    simp only [String.toList_append, List.mem_append, not_or]
    exact ⟨by decide, by decide, fun h => hline (pipeOf_subset line h)⟩
  have hnone : (Heredoc.splitText g).2 = none := by rw [hsplit]
  have hwhole := Heredoc.splitText_append_of_none hnone hmore
  rw [← String.append_assoc] at hwhole
  have happend := Words.split_append_space hwords ("|" ++ pipeOf line)
  rw [attachPipe_of_subscribes hpipe hsub]
  cases hs : Words.split ("|" ++ pipeOf line) with
  | error e =>
    rw [hs] at happend
    exact interpret_of_split_error (by rw [hwhole]; exact happend)
  | ok us =>
    rw [hs] at happend
    rw [interpret_of_split (by rw [hwhole]; exact happend), hwhole]

theorem attachPipe_continues (hline : '\n' ∉ line.toList) (hc : interpret line = .ok c)
    (hsub : subscribes g = true) (hk : interpret g = .ok k) (hlinks : k.links = []) (hlong : k.isLongTerm = false)
    (hbody : k.heredoc = false) (hcuts : CutsAtLink line) :
    ∃ e, interpret (attachPipe (pipeOf line) g) = .ok e ∧ Continues k c e := by
  obtain ⟨hpipe, before, link, more, hbefore, hlinkless, hlink, hwords, halone⟩ := hcuts
  obtain ⟨n, arguments, hgwords, hg, hkcommands, hgsplit⟩ := exists_command hsub hk hlinks hlong hbody
  obtain ⟨ws, hws, hchain⟩ := exists_words hline hc
  rw [hwords] at hws
  cases hws
  obtain ⟨n₀, arguments₀, rfl⟩ := List.exists_cons_of_ne_nil hbefore
  obtain ⟨d, hd, hccommands, hclinks, hclong⟩ := exists_chain_from_link hlinkless hlink hchain
  have he : chainOf (n :: arguments ++ link :: more) none = .ok _ :=
    (chainOf_append_link hg hlink).trans (by rw [hd]; rfl)
  obtain ⟨d', hd', hecommands, helinks, helong⟩ := exists_chain_from_link hg hlink he
  rw [hd] at hd'
  cases hd'
  refine ⟨_, ?_, ?_, ?_, helinks.trans hclinks.symm, helong.trans hclong.symm⟩
  · rw [interpret_attachPipe hline hgsplit hgwords hsub hpipe, halone]
    exact he
  · rw [hecommands, hkcommands]
    rfl
  · rw [hecommands, hccommands]
    rfl

theorem cutsAtLink_of_continues (hline : '\n' ∉ line.toList) (hc : interpret line = .ok c)
    (hcommands : c.commands ≠ []) (hfirst : c.links.head? = some .pipe ∨ c.links.head? = some .pipeBoth)
    (hsub : subscribes g = true) (hk : interpret g = .ok k) (hlinks : k.links = []) (hlong : k.isLongTerm = false)
    {e : Chain} (he : interpret (attachPipe (pipeOf line) g) = .ok e) (hcontinues : Continues k c e) :
    k.heredoc = false ∧ CutsAtLink line := by
  have hclinks : c.links ≠ [] := by
    rintro h
    rw [h] at hfirst
    simp at hfirst
  have helinks : e.links ≠ [] := hcontinues.links ▸ hclinks
  have hpipe : pipeOf line ≠ "" := by
    intro hempty
    rw [(attachPipe_eq_iff hsub).mpr hempty, hk] at he
    cases he
    exact helinks hlinks
  have hbody : k.heredoc = false := by
    rw [Bool.eq_false_iff]
    intro hbody
    rw [attachPipe_of_subscribes hpipe hsub, String.append_assoc] at he
    exact helinks ((links_of_heredoc hk hbody he).trans hlinks)
  obtain ⟨n, arguments, hgwords, hg, hkcommands, hgsplit⟩ := exists_command hsub hk hlinks hlong hbody
  rw [interpret_attachPipe hline hgsplit hgwords hsub hpipe] at he
  cases halone : Words.split ("|" ++ pipeOf line) with
  | error cause =>
    rw [halone] at he
    cases he
  | ok us =>
    rw [halone] at he
    obtain ⟨link, more, d, rfl, hlink, hd, hothers, hdlinks⟩ := exists_link_after_first hg he helinks
      (by rw [hcontinues.first, hkcommands]; rfl)
    refine ⟨hbody, cutsAtLink_of_chain hline hc hcommands hfirst hpipe hlink halone hd ?_ ?_⟩
    · rw [← hothers, hcontinues.others]
    · rw [← hdlinks, hcontinues.links]

end Attaching

/-! ## Macros that subscribe -/

/-- Words without a link are at most one command. -/
theorem tail_commands_of_linkless {ws : List String} {c : Chain} (hc : chainOf ws none = .ok c)
    (hlinks : c.links = []) : c.commands.tail = [] := by
  rw [eq_of_chainOf_none hc] at hlinks ⊢
  have hlinkless := (linksOf_eq_nil_iff (unmarked ws)).mp ((linksOf_unmarked ws).trans hlinks)
  rw [groups_of_forall hlinkless]
  cases unmarked ws <;> rfl

/-- No bar in the words of the only command: nothing is put behind any line. -/
theorem pipeOf_of_linkless {line n : String} {c : Chain} {arguments : List String} (hline : '\n' ∉ line.toList)
    (hc : interpret line = .ok c) (hcommand : c.commands.head? = some ⟨n, arguments⟩) (hlinks : c.links = [])
    (hbars : ∀ w ∈ n :: arguments, '|' ∉ w.toList) : pipeOf line = "" := by
  obtain ⟨ws, hws, hchain⟩ := exists_words hline hc
  have honly : c.commands = [⟨n, arguments⟩] := by
    have htail := tail_commands_of_linkless hchain hlinks
    obtain ⟨k, ks, hks⟩ := List.exists_cons_of_ne_nil (l := c.commands) (by rintro h; simp [h] at hcommand)
    rw [hks] at hcommand htail ⊢
    rw [Option.some.inj hcommand, show ks = [] from htail]
  have hcount := countIn_bar_of_keeps (chainOf_keeps hchain)
  rw [hlinks, honly, Words.countIn_split (by decide) hws] at hcount
  refine pipeOf_of_not_mem (List.count_eq_zero.mp ?_)
  rw [hcount, List.map_nil, List.flatMap_singleton]
  exact (Nat.zero_add _).trans (Words.countIn_eq_zero_iff.mpr hbars)

/-- **When the pipe of an invocation goes on behind the lines of its macro.**  The lines of a macro of commands
come out with the pipe attached.  A line `g` that subscribes, is no pipeline itself and does not go on in the
background becomes the first command of a chain that continues like the chain of the invocation exactly when it
has no heredoc and the invocation cuts at its link.  It comes out as it is exactly when nothing stands after the
first bar, so for an invocation without a link when no word of it has a bar. -/
theorem resolve_continues_iff {specs : List (String × Spec)} {line n : String} {c : Chain} {s : Spec}
    {arguments : List String} (h : Invokes specs line c n s arguments) (hline : '\n' ∉ line.toList)
    (hcommands : s.commands ≠ []) (hfits : s.fits arguments.length = true) {gs : List String}
    (hgs : generated s arguments = .ok gs) (engine : Engine ε σ) (w : σ) :
    (resolve engine specs line).run w = (.ok (gs.map (attachPipe (pipeOf line))), w) ∧
    ∀ g ∈ gs, subscribes g = true →
      ∀ k, interpret g = .ok k → k.links = [] → k.isLongTerm = false →
        (c.links.head? = some .pipe ∨ c.links.head? = some .pipeBoth →
          ((∃ e, interpret (attachPipe (pipeOf line) g) = .ok e ∧ Continues k c e) ↔
            k.heredoc = false ∧ CutsAtLink line)) ∧
        (c.links = [] →
          (attachPipe (pipeOf line) g = g ↔ pipeOf line = "") ∧
          ((∀ a ∈ n :: arguments, '|' ∉ a.toList) → pipeOf line = "")) := by
  constructor
  · rw [h.resolve, if_pos hfits, resolveBody_computes engine n hcommands, hgs]
    rfl
  · intro g _ hsub k hk hlinks hlong
    refine ⟨fun hfirst => ⟨?_, ?_⟩, fun hnone => ⟨attachPipe_eq_iff hsub, ?_⟩⟩
    · rintro ⟨e, he, hcontinues⟩
      have hsome : c.commands ≠ [] := by
        intro hempty
        have hcommand := h.command
        rw [hempty] at hcommand
        cases hcommand
      exact cutsAtLink_of_continues hline h.chain hsome hfirst hsub hk hlinks hlong he hcontinues
    · rintro ⟨hbody, hcuts⟩
      exact attachPipe_continues hline h.chain hsub hk hlinks hlong hbody hcuts
    · exact pipeOf_of_linkless hline h.chain h.command hnone

/-- A macro that subscribes. -/
def watch : Spec :=
  { arguments := ["topic"], commands := ["sub $1"] }

/-- A bar in quotes behind the first link does no harm. -/
theorem watch_continues :
    (resolve scripts [("watch", watch)] "watch 'a b' |& grep 'x|y' &").run {}
      = (.ok ["sub a b |& grep 'x|y' &"], {}) ∧
    ∃ e, interpret "sub a b |& grep 'x|y' &" = .ok e ∧
      Continues ⟨[⟨"sub", ["a", "b"]⟩], [], ["sub", "a", "b"], false⟩
        ⟨[⟨"watch", ["a b"]⟩, ⟨"grep", ["x|y"]⟩], [.pipeBoth], ["watch", "a b", "|&", "grep", "x|y", "&"], false⟩ e := by
  have h : Invokes [("watch", watch)] "watch 'a b' |& grep 'x|y' &"
      ⟨[⟨"watch", ["a b"]⟩, ⟨"grep", ["x|y"]⟩], [.pipeBoth], ["watch", "a b", "|&", "grep", "x|y", "&"], false⟩
      "watch" watch ["a b"] := ⟨by decide +kernel, rfl, rfl⟩
  have hgenerated : generated watch ["a b"] = .ok ["sub a b"] := by decide +kernel
  have hattached : attachPipe (pipeOf "watch 'a b' |& grep 'x|y' &") "sub a b" = "sub a b |& grep 'x|y' &" := by
    decide +kernel
  have hcuts : CutsAtLink "watch 'a b' |& grep 'x|y' &" :=
    ⟨by decide +kernel, ["watch", "a b"], "|&", ["grep", "x|y", "&"], by decide, by decide, by decide,
      by decide +kernel, by decide +kernel⟩
  obtain ⟨hrun, hlines⟩ := resolve_continues_iff h (by decide +kernel) (by decide) (by decide) hgenerated scripts {}
  obtain ⟨hcontinues, -⟩ := hlines "sub a b" List.mem_cons_self (by decide +kernel)
    ⟨[⟨"sub", ["a", "b"]⟩], [], ["sub", "a", "b"], false⟩ (by decide +kernel) rfl rfl
  have hemitted := (hcontinues (.inr rfl)).mpr ⟨rfl, hcuts⟩
  rw [hattached] at hemitted
  rw [List.map_singleton, hattached] at hrun
  exact ⟨hrun, hemitted⟩

/-- A bar in an argument is taken for a link: without a link something is put behind the line, and with one the
line is no chain any more. -/
theorem quoted_bar_attached :
    Invokes [("watch", watch)] "watch 'a|b'" ⟨[⟨"watch", ["a|b"]⟩], [], ["watch", "a|b"], false⟩ "watch" watch
      ["a|b"] ∧
    Invokes [("watch", watch)] "watch 'a|b' | cat"
      ⟨[⟨"watch", ["a|b"]⟩, ⟨"cat", []⟩], [.pipe], ["watch", "a|b", "|", "cat"], false⟩ "watch" watch ["a|b"] ∧
    generated watch ["a|b"] = .ok ["sub a|b"] ∧
    interpret "sub a|b" = .ok ⟨[⟨"sub", ["a|b"]⟩], [], ["sub", "a|b"], false⟩ ∧
    (resolve scripts [("watch", watch)] "watch 'a|b'").run {} = (.ok ["sub a|b |b'"], {}) ∧
    (resolve scripts [("watch", watch)] "watch 'a|b' | cat").run {} = (.ok ["sub a|b |b' | cat"], {}) ∧
    interpret "sub a|b |b' | cat" = .error (.split .openSingleQuote) := by
  have h : Invokes [("watch", watch)] "watch 'a|b'" ⟨[⟨"watch", ["a|b"]⟩], [], ["watch", "a|b"], false⟩ "watch"
      watch ["a|b"] := ⟨by decide +kernel, rfl, rfl⟩
  have h' : Invokes [("watch", watch)] "watch 'a|b' | cat"
      ⟨[⟨"watch", ["a|b"]⟩, ⟨"cat", []⟩], [.pipe], ["watch", "a|b", "|", "cat"], false⟩ "watch" watch ["a|b"] :=
    ⟨by decide +kernel, rfl, rfl⟩
  have hgenerated : generated watch ["a|b"] = .ok ["sub a|b"] := by decide +kernel
  have hattached : attachPipe (pipeOf "watch 'a|b'") "sub a|b" = "sub a|b |b'" := by decide +kernel
  have hattached' : attachPipe (pipeOf "watch 'a|b' | cat") "sub a|b" = "sub a|b |b' | cat" := by decide +kernel
  refine ⟨h, h', hgenerated, by decide +kernel, ?_, ?_, by decide +kernel⟩
  · rw [h.resolve, if_pos (by decide), resolveBody_computes scripts "watch" (by decide), hgenerated]
    show (Except.ok [attachPipe (pipeOf "watch 'a|b'") "sub a|b"], _) = _
    rw [hattached]
  · rw [h'.resolve, if_pos (by decide), resolveBody_computes scripts "watch" (by decide), hgenerated]
    show (Except.ok [attachPipe (pipeOf "watch 'a|b' | cat") "sub a|b"], _) = _
    rw [hattached']

end TopicShell.Macro
