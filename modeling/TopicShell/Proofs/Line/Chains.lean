import TopicShell.Line.Chain

/-!
# What a chain keeps of its line

Reading a chain splits the words of a line at the links, leaves out empty groups, appends the body of a
heredoc and takes the `&` at the end away.  This file shows that no word is lost, made up or moved on the way
(`Keeps`), and which lines are refused: those that cannot be split, those with a storing link before another
link (`StoresEarly`), and those whose last word is an `&` alone in its group (`EndsAlone`).

The two lemmas that carry the induction are `groups_concat_of_mem` and `groups_concat_of_not_mem`: what one more
word at the end does to the groups.  From the front a line is read link by link: the words before its first link
are one more command in front of the chain of the others (`chainOf_append_link`).  What an accepted line is read as
is said at once by `eq_of_chainOf_none` and `eq_of_chainOf_some`: its commands are those of its groups, without the
`&` at the end (`unmarked`) or with the body of the heredoc.
-/

namespace TopicShell.Line

/-! ## Words that are links -/

/-- The words that are links. -/
def linkWords : List String :=
  Link.all.map Link.text

/-- The words that are links to a file. -/
def storingWords : List String :=
  (Link.all.filter Link.stores).map Link.text

example : linkWords = ["|", "|&", ">", ">&", ">>", ">>&"] := by decide
example : storingWords = [">", ">&", ">>", ">>&"] := by decide

theorem Link.mem_all (l : Link) : l ∈ all := by
  cases l <;> decide

theorem Link.isSome_ofWord? (w : String) : (ofWord? w).isSome = true ↔ w ∈ linkWords := by
  rw [ofWord?, List.find?_isSome, linkWords, List.mem_map]
  constructor
  · rintro ⟨l, hl, ht⟩
    exact ⟨l, hl, by simpa using ht⟩
  · rintro ⟨l, hl, rfl⟩
    exact ⟨l, hl, by simp⟩

theorem Link.ofWord?_of_mem {w : String} (h : w ∈ linkWords) : ∃ l, ofWord? w = some l ∧ l.text = w := by
  obtain ⟨l, hl⟩ := Option.isSome_iff_exists.mp ((isSome_ofWord? w).mpr h)
  exact ⟨l, hl, text_of_ofWord? hl⟩

theorem Link.ofWord?_of_not_mem {w : String} (h : w ∉ linkWords) : ofWord? w = none := by
  rw [← Option.not_isSome_iff_eq_none, isSome_ofWord?]
  exact h

theorem Link.text_mem_storingWords (l : Link) : l.text ∈ storingWords ↔ l.stores = true := by
  cases l <;> decide

theorem Link.text_mem_linkWords (l : Link) : l.text ∈ linkWords :=
  List.mem_map.mpr ⟨l, l.mem_all, rfl⟩

theorem longTermWord_not_mem_linkWords : longTermWord ∉ linkWords := by
  decide

theorem linkWords_of_storingWords {w : String} (h : w ∈ storingWords) : w ∈ linkWords := by
  obtain ⟨l, hl, rfl⟩ := List.mem_map.mp h
  exact l.text_mem_linkWords

/-! ## The links of a line -/

theorem linksOf_cons_of_mem {w : String} {l : Link} (h : Link.ofWord? w = some l) (ws : List String) :
    linksOf (w :: ws) = l :: linksOf ws := by
  rw [linksOf, List.filterMap_cons_some h]
  rfl

theorem linksOf_cons_of_not_mem {w : String} (h : w ∉ linkWords) (ws : List String) :
    linksOf (w :: ws) = linksOf ws := by
  rw [linksOf, List.filterMap_cons_none (Link.ofWord?_of_not_mem h)]
  rfl

theorem linksOf_append (ws ws' : List String) : linksOf (ws ++ ws') = linksOf ws ++ linksOf ws' :=
  List.filterMap_append

theorem linksOf_text (ws : List String) :
    (linksOf ws).map Link.text = ws.filter (· ∈ linkWords) := by
  induction ws with
  | nil => rfl
  | cons w ws ih =>
    by_cases h : w ∈ linkWords
    · obtain ⟨l, hl, ht⟩ := Link.ofWord?_of_mem h
      rw [linksOf_cons_of_mem hl, List.map_cons, ih, ht, List.filter_cons_of_pos (by simpa using h)]
    · rw [linksOf_cons_of_not_mem h, ih, List.filter_cons_of_neg (by simpa using h)]

theorem linksOf_eq_nil_iff (ws : List String) : linksOf ws = [] ↔ ∀ w ∈ ws, w ∉ linkWords := by
  rw [← List.map_eq_nil_iff (f := Link.text), linksOf_text, List.filter_eq_nil_iff]
  simp

theorem linksOf_ne_nil_iff (ws : List String) : linksOf ws ≠ [] ↔ ∃ w ∈ linkWords, w ∈ ws := by
  rw [ne_eq, linksOf_eq_nil_iff]
  simp [and_comm]

/-- A link to a file stands somewhere before another link. -/
def StoresEarly (ws : List String) : Prop :=
  ∃ w ∈ storingWords, ∃ l ∈ linkWords, [w, l].Sublist ws

theorem storesEarly_cons_iff (w : String) (ws : List String) :
    StoresEarly (w :: ws) ↔ w ∈ storingWords ∧ (∃ l ∈ linkWords, l ∈ ws) ∨ StoresEarly ws := by
  constructor
  · rintro ⟨w', hw, l, hl, h⟩
    cases h with
    | cons _ h => exact .inr ⟨w', hw, l, hl, h⟩
    | cons_cons _ h => exact .inl ⟨hw, l, hl, List.singleton_sublist.mp h⟩
  · rintro (⟨hw, l, hl, h⟩ | ⟨w', hw, l, hl, h⟩)
    · exact ⟨w, hw, l, hl, .cons_cons _ (List.singleton_sublist.mpr h)⟩
    · exact ⟨w', hw, l, hl, .cons _ h⟩

theorem any_stores_dropLast_iff (ws : List String) :
    (linksOf ws).dropLast.any Link.stores = true ↔ StoresEarly ws := by
  induction ws with
  | nil =>
    constructor
    · intro h
      cases h
    · rintro ⟨w, _, l, _, h⟩
      cases h
  | cons w ws ih =>
    rw [storesEarly_cons_iff, ← ih]
    by_cases h : w ∈ linkWords
    · obtain ⟨l, hl, rfl⟩ := Link.ofWord?_of_mem h
      rw [linksOf_cons_of_mem hl, Link.text_mem_storingWords, ← linksOf_ne_nil_iff]
      cases linksOf ws with
      | nil => simp
      | cons l' ls => simp
    · have hs : w ∉ storingWords := fun hs => h (linkWords_of_storingWords hs)
      rw [linksOf_cons_of_not_mem h]
      simp [hs]

/-! ## Groups -/

theorem groups_cons_of_mem {w : String} (h : w ∈ linkWords) (ws : List String) :
    groups (w :: ws) = [] :: groups ws := by
  rw [groups, if_pos ((Link.isSome_ofWord? w).mpr h)]

theorem groups_cons_of_not_mem {w : String} (h : w ∉ linkWords) (ws : List String) :
    ∃ g gs, groups ws = g :: gs ∧ groups (w :: ws) = (w :: g) :: gs := by
  rw [groups, if_neg (fun hs => h ((Link.isSome_ofWord? w).mp hs))]
  cases hg : groups ws with
  | nil => exact absurd hg (groups_ne_nil ws)
  | cons g gs => exact ⟨g, gs, rfl, rfl⟩

/-- Groups keep all words but the links, in order. -/
theorem flatten_groups (ws : List String) : (groups ws).flatten = ws.filter (· ∉ linkWords) := by
  induction ws with
  | nil => rfl
  | cons w ws ih =>
    by_cases h : w ∈ linkWords
    · rw [groups_cons_of_mem h, List.filter_cons_of_neg (by simpa using h), ← ih]
      rfl
    · obtain ⟨g, gs, hg, hw⟩ := groups_cons_of_not_mem h ws
      rw [hw, List.filter_cons_of_pos (by simpa using h), ← ih, hg]
      rfl

theorem groups_of_forall {ws : List String} (h : ∀ w ∈ ws, w ∉ linkWords) : groups ws = [ws] := by
  induction ws with
  | nil => rfl
  | cons w ws ih =>
    obtain ⟨g, gs, hg, hw⟩ := groups_cons_of_not_mem (h w List.mem_cons_self) ws
    rw [ih fun w' hw' => h w' (List.mem_cons_of_mem w hw')] at hg
    cases hg
    exact hw

/-- A link cuts the groups in two. -/
theorem groups_append_link {l : String} (hl : l ∈ linkWords) (ws more : List String) :
    groups (ws ++ l :: more) = groups ws ++ groups more := by
  induction ws with
  | nil => exact groups_cons_of_mem hl more
  | cons w ws ih =>
    by_cases h : w ∈ linkWords
    · rw [List.cons_append, groups_cons_of_mem h, groups_cons_of_mem h, ih, List.cons_append]
    · obtain ⟨g, gs, hg, hw⟩ := groups_cons_of_not_mem h ws
      obtain ⟨g', gs', hg', hw'⟩ := groups_cons_of_not_mem h (ws ++ l :: more)
      rw [ih, hg, List.cons_append, List.cons.injEq] at hg'
      obtain ⟨rfl, rfl⟩ := hg'
      rw [List.cons_append, hw', hw, List.cons_append]

theorem addBody_cons {gs : List (List String)} (h : gs ≠ []) (g : List String) (b : String) :
    addBody (g :: gs) b = g :: addBody gs b := by
  obtain ⟨g', gs', rfl⟩ := List.exists_cons_of_ne_nil h
  rfl

theorem flatten_addBody (gs : List (List String)) (b : String) :
    (addBody gs b).flatten = gs.flatten ++ [b] := by
  induction gs with
  | nil => rfl
  | cons g gs ih =>
    cases gs with
    | nil => simp [addBody]
    | cons g' gs' =>
      rw [addBody_cons (List.cons_ne_nil g' gs'), List.flatten_cons, ih, ← List.append_assoc]
      rfl

theorem groups_concat_of_mem {w : String} (h : w ∈ linkWords) (ws : List String) :
    groups (ws ++ [w]) = groups ws ++ [[]] := by
  induction ws with
  | nil => exact groups_cons_of_mem h []
  | cons v ws ih =>
    by_cases hv : v ∈ linkWords
    · rw [List.cons_append, groups_cons_of_mem hv, groups_cons_of_mem hv, ih, List.cons_append]
    · obtain ⟨g, gs, hg, hw⟩ := groups_cons_of_not_mem hv ws
      obtain ⟨g', gs', hg', hw'⟩ := groups_cons_of_not_mem hv (ws ++ [w])
      rw [ih, hg] at hg'
      cases hg'
      rw [List.cons_append, hw', hw]
      rfl

theorem groups_concat_of_not_mem {w : String} (h : w ∉ linkWords) (ws : List String) :
    groups (ws ++ [w]) = addBody (groups ws) w := by
  induction ws with
  | nil => exact groups_of_forall (by simpa using h)
  | cons v ws ih =>
    by_cases hv : v ∈ linkWords
    · rw [List.cons_append, groups_cons_of_mem hv, groups_cons_of_mem hv, ih,
        addBody_cons (groups_ne_nil ws)]
    · obtain ⟨g, gs, hg, hw⟩ := groups_cons_of_not_mem hv ws
      obtain ⟨g', gs', hg', hw'⟩ := groups_cons_of_not_mem hv (ws ++ [w])
      rw [ih, hg] at hg'
      rw [List.cons_append, hw', hw]
      cases gs with
      | nil =>
        cases hg'
        rfl
      | cons g₂ gs₂ =>
        rw [addBody_cons (List.cons_ne_nil g₂ gs₂)] at hg'
        cases hg'
        rw [addBody_cons (List.cons_ne_nil g₂ gs₂)]

/-- The last group is empty when no word follows the last link. -/
theorem getLast?_groups_eq_nil_iff (ws : List String) :
    (groups ws).getLast?.getD [] = [] ↔ ∀ w ∈ ws.getLast?, w ∈ linkWords := by
  rcases List.eq_nil_or_concat ws with rfl | ⟨ws, w, rfl⟩
  · simp [groups]
  · rw [List.concat_eq_append]
    by_cases h : w ∈ linkWords
    · simp [groups_concat_of_mem h, h]
    · simp [groups_concat_of_not_mem h, h, addBody]

/-! ## Commands -/

/-- Empty groups give no command, and all others are the words of one. -/
theorem map_words_filterMap (gs : List (List String)) :
    (gs.filterMap Command.ofWords?).map Command.words = gs.filter (· ≠ []) := by
  induction gs with
  | nil => rfl
  | cons g gs ih =>
    cases g with
    | nil =>
      rw [List.filterMap_cons_none rfl, ih]
      rfl
    | cons w g =>
      have hcommand : Command.ofWords? (w :: g) = some ⟨w, g⟩ := rfl
      rw [List.filterMap_cons_some hcommand, List.map_cons, ih]
      rfl

theorem flatMap_words_filterMap (gs : List (List String)) :
    (gs.filterMap Command.ofWords?).flatMap Command.words = gs.flatten := by
  rw [List.flatMap_def, map_words_filterMap, List.flatten_filter_ne_nil]

/-- The last word of the last group is the last word of the last command. -/
theorem filterMap_addBody (gs : List (List String)) (b : String) :
    ∃ k : Command, k.words = gs.getLast?.getD [] ++ [b] ∧
      (addBody gs b).filterMap Command.ofWords? = gs.dropLast.filterMap Command.ofWords? ++ [k] := by
  obtain ⟨k, hk⟩ : ∃ k, Command.ofWords? (gs.getLast?.getD [] ++ [b]) = some k := by
    cases gs.getLast?.getD [] with
    | nil => exact ⟨_, rfl⟩
    | cons w g => exact ⟨_, rfl⟩
  refine ⟨k, Command.words_of_ofWords? hk, ?_⟩
  rw [addBody, List.filterMap_append, List.filterMap_cons_some hk]
  rfl

theorem dropLongTermWord_concat (ks : List Command) (k : Command) :
    dropLongTermWord (ks ++ [k]) = if k.arguments.isEmpty then .error .misplaced
      else .ok (ks ++ [{ k with arguments := k.arguments.dropLast }]) := by
  rw [dropLongTermWord, List.getLast?_concat, List.dropLast_concat]

theorem dropLongTermWord_cons {ks : List Command} (h : ks ≠ []) (k : Command) :
    dropLongTermWord (k :: ks) = (dropLongTermWord ks).map (k :: ·) := by
  rcases List.eq_nil_or_concat ks with rfl | ⟨ks, k', rfl⟩
  · exact absurd rfl h
  · rw [List.concat_eq_append, ← List.cons_append, dropLongTermWord_concat, dropLongTermWord_concat]
    cases k'.arguments.isEmpty <;> rfl

/-- A chain whose last word is `&`: it is refused when its last group has no other word, and else its commands
are those of the words before the `&`. -/
theorem dropLongTermWord_groups (ws : List String) :
    dropLongTermWord ((groups (ws ++ [longTermWord])).filterMap Command.ofWords?) =
      if (groups ws).getLast?.getD [] = [] then .error .misplaced
      else .ok ((groups ws).filterMap Command.ofWords?) := by
  obtain ⟨k, hk, hks⟩ := filterMap_addBody (groups ws) longTermWord
  rw [groups_concat_of_not_mem longTermWord_not_mem_linkWords, hks, dropLongTermWord_concat]
  obtain ⟨front, last, hgroups⟩ : ∃ front last, groups ws = front ++ [last] :=
    ⟨_, _, (List.dropLast_concat_getLast (groups_ne_nil ws)).symm⟩
  rw [hgroups, List.getLast?_concat, Option.getD_some] at hk
  rw [hgroups, List.getLast?_concat, List.dropLast_concat, List.filterMap_append, Option.getD_some]
  cases last with
  | nil =>
    have hargs : k.arguments = [] := (List.cons.inj hk).2
    rw [hargs]
    rfl
  | cons w g =>
    have hname : k.name = w := (List.cons.inj hk).1
    have hargs : k.arguments = g ++ [longTermWord] := (List.cons.inj hk).2
    have hsome : k.arguments.isEmpty = false := by simp [hargs]
    rw [if_neg (List.cons_ne_nil w g), hsome, hname, hargs, List.dropLast_concat]
    rfl

/-! ## What a chain keeps -/

/-- The last word is `&`, and no other word stands between it and the link before it. -/
def EndsAlone (ws : List String) : Prop :=
  ∃ before, ws = before ++ [longTermWord] ∧ ∀ w ∈ before.getLast?, w ∈ linkWords

/-- What a chain keeps of the words of its line and of the body of a heredoc: the links are the words that are
links, only the last one leads to a file, and the words of the commands, with the `&` of a long-term chain
after them, are the other words and the body. -/
structure Keeps (ws : List String) (body : Option String) (c : Chain) : Prop where
  links : c.links.map Link.text = ws.filter (· ∈ linkWords)
  stores : ∀ l ∈ c.links.dropLast, l.stores = false
  commands : ∀ k ∈ c.commands, k.words ≠ []
  words : c.commands.flatMap Command.words ++ (if c.isLongTerm then [longTermWord] else [])
    = ws.filter (· ∉ linkWords) ++ body.toList

theorem Chain.isLongTerm_none (ks : List Command) (ls : List Link) (ws : List String) :
    Chain.isLongTerm ⟨ks, ls, ws, false⟩ = true ↔ ws.getLast? = some longTermWord := by
  simp [isLongTerm]

theorem chainOf_of_storesEarly {ws : List String} (h : StoresEarly ws) (body : Option String) :
    chainOf ws body = .error .misplaced := by
  unfold chainOf
  exact if_pos ((any_stores_dropLast_iff ws).mpr h)

/-- A heredoc is never refused: its body is the last word, whatever it is. -/
theorem chainOf_some {ws : List String} (h : ¬ StoresEarly ws) (b : String) :
    chainOf ws (some b) = .ok ⟨(addBody (groups ws) b).filterMap Command.ofWords?, linksOf ws,
      ws ++ [b], true⟩ := by
  unfold chainOf
  exact if_neg (fun hs => h ((any_stores_dropLast_iff ws).mp hs))

theorem chainOf_none {ws : List String} (h : ¬ StoresEarly ws) :
    chainOf ws none =
      if ws.getLast? = some longTermWord then
        (dropLongTermWord ((groups ws).filterMap Command.ofWords?)).map fun ks => ⟨ks, linksOf ws, ws, false⟩
      else .ok ⟨(groups ws).filterMap Command.ofWords?, linksOf ws, ws, false⟩ := by
  unfold chainOf
  rw [if_neg (fun hs => h ((any_stores_dropLast_iff ws).mp hs))]
  simp only [Option.toList_none, List.append_nil, Option.isSome_none, Chain.isLongTerm_none]

/-- The words without a heredoc that are refused although no link to a file stands early. -/
theorem chainOf_none_error_iff {ws : List String} (h : ¬ StoresEarly ws) :
    (∃ e, chainOf ws none = .error e) ↔ EndsAlone ws := by
  rw [chainOf_none h]
  by_cases hlast : ws.getLast? = some longTermWord
  · obtain ⟨before, rfl⟩ := List.getLast?_eq_some_iff.mp hlast
    have hends : EndsAlone (before ++ [longTermWord]) ↔ ∀ w ∈ before.getLast?, w ∈ linkWords := by
      constructor
      · rintro ⟨before', heq, hw⟩
        rw [List.append_cancel_right heq]
        exact hw
      · intro hw
        exact ⟨before, rfl, hw⟩
    rw [if_pos hlast, hends, ← getLast?_groups_eq_nil_iff, dropLongTermWord_groups]
    by_cases hg : (groups before).getLast?.getD [] = []
    · rw [if_pos hg]
      exact ⟨fun _ => hg, fun _ => ⟨_, rfl⟩⟩
    · rw [if_neg hg]
      constructor
      · rintro ⟨e, he⟩
        cases he
      · intro he
        exact absurd he hg
  · rw [if_neg hlast]
    constructor
    · rintro ⟨e, he⟩
      cases he
    · rintro ⟨before, rfl, _⟩
      exact absurd List.getLast?_concat hlast

theorem chainOf_error_iff (ws : List String) (body : Option String) :
    (∃ e, chainOf ws body = .error e) ↔ StoresEarly ws ∨ body = none ∧ EndsAlone ws := by
  by_cases h : StoresEarly ws
  · exact ⟨fun _ => .inl h, fun _ => ⟨_, chainOf_of_storesEarly h body⟩⟩
  · cases body with
    | none =>
      rw [chainOf_none_error_iff h]
      simp [h]
    | some b =>
      rw [chainOf_some h]
      simp [h]

theorem not_storesEarly_of_ok {ws : List String} {body : Option String} {c : Chain}
    (hc : chainOf ws body = .ok c) : ¬ StoresEarly ws := by
  intro h
  rw [chainOf_of_storesEarly h] at hc
  cases hc

/-- The words of a line without the `&` that makes its chain long term. -/
def unmarked (ws : List String) : List String :=
  if ws.getLast? = some longTermWord then ws.dropLast else ws

theorem unmarked_concat (ws : List String) : unmarked (ws ++ [longTermWord]) = ws := by
  rw [unmarked, if_pos List.getLast?_concat, List.dropLast_concat]

theorem unmarked_of_ne {ws : List String} (h : ws.getLast? ≠ some longTermWord) : unmarked ws = ws :=
  if_neg h

theorem linksOf_unmarked (ws : List String) : linksOf (unmarked ws) = linksOf ws := by
  by_cases hlast : ws.getLast? = some longTermWord
  · obtain ⟨before, rfl⟩ := List.getLast?_eq_some_iff.mp hlast
    rw [unmarked_concat, linksOf_append, linksOf_cons_of_not_mem longTermWord_not_mem_linkWords]
    exact (List.append_nil _).symm
  · rw [unmarked_of_ne hlast]

/-- The chain of a line without a heredoc is that of its words without the `&` at the end. -/
theorem eq_of_chainOf_none {ws : List String} {c : Chain} (hc : chainOf ws none = .ok c) :
    c = ⟨(groups (unmarked ws)).filterMap Command.ofWords?, linksOf ws, ws, false⟩ := by
  rw [chainOf_none (not_storesEarly_of_ok hc)] at hc
  by_cases hlast : ws.getLast? = some longTermWord
  · obtain ⟨before, rfl⟩ := List.getLast?_eq_some_iff.mp hlast
    rw [if_pos hlast, dropLongTermWord_groups] at hc
    rw [unmarked_concat]
    by_cases hg : (groups before).getLast?.getD [] = []
    · rw [if_pos hg] at hc
      cases hc
    · rw [if_neg hg] at hc
      cases hc
      rfl
  · rw [if_neg hlast] at hc
    cases hc
    rw [unmarked_of_ne hlast]

theorem eq_of_chainOf_some {ws : List String} {b : String} {c : Chain} (hc : chainOf ws (some b) = .ok c) :
    c = ⟨(addBody (groups ws) b).filterMap Command.ofWords?, linksOf ws, ws ++ [b], true⟩ := by
  rw [chainOf_some (not_storesEarly_of_ok hc)] at hc
  cases hc
  rfl

theorem chainOf_keeps {ws : List String} {body : Option String} {c : Chain}
    (hc : chainOf ws body = .ok c) : Keeps ws body c := by
  have hstores : ∀ l ∈ (linksOf ws).dropLast, l.stores = false := by
    have hearly := not_storesEarly_of_ok hc
    rw [← any_stores_dropLast_iff, List.any_eq_true] at hearly
    intro l hl
    exact Bool.eq_false_iff.mpr fun hs => hearly ⟨l, hl, hs⟩
  have hnonempty : ∀ ks : List Command, ∀ k ∈ ks, k.words ≠ [] :=
    fun _ k _ => List.cons_ne_nil k.name k.arguments
  cases body with
  | some b =>
    rw [eq_of_chainOf_some hc]
    refine ⟨linksOf_text ws, hstores, hnonempty _, ?_⟩
    rw [flatMap_words_filterMap, flatten_addBody, flatten_groups]
    exact List.append_nil _
  | none =>
    rw [eq_of_chainOf_none hc]
    refine ⟨linksOf_text ws, hstores, hnonempty _, ?_⟩
    rw [flatMap_words_filterMap, flatten_groups]
    by_cases hlast : ws.getLast? = some longTermWord
    · rw [if_pos ((Chain.isLongTerm_none _ _ _).mpr hlast)]
      obtain ⟨before, rfl⟩ := List.getLast?_eq_some_iff.mp hlast
      rw [unmarked_concat, List.filter_append]
      exact (List.append_nil _).symm
    · rw [if_neg fun h => hlast ((Chain.isLongTerm_none _ _ ws).mp h), unmarked_of_ne hlast]
      rfl

/-- What a chain takes over from its words as it is. -/
theorem chainOf_takes {ws : List String} {body : Option String} {c : Chain} (h : chainOf ws body = .ok c) :
    c.links = linksOf ws ∧ c.words = ws ++ body.toList ∧ c.heredoc = body.isSome := by
  cases body with
  | some b =>
    rw [eq_of_chainOf_some h]
    exact ⟨rfl, rfl, rfl⟩
  | none =>
    rw [eq_of_chainOf_none h]
    exact ⟨rfl, (List.append_nil ws).symm, rfl⟩

/-- Words without a link are one command. -/
theorem chainOf_linkless {n : String} {arguments : List String}
    (h : ∀ w ∈ n :: arguments, w ∉ linkWords) (hlast : (n :: arguments).getLast? ≠ some longTermWord) :
    chainOf (n :: arguments) none = .ok ⟨[⟨n, arguments⟩], [], n :: arguments, false⟩ := by
  have hlinks : linksOf (n :: arguments) = [] := (linksOf_eq_nil_iff _).mpr h
  have hearly : ¬ StoresEarly (n :: arguments) := by
    rw [← any_stores_dropLast_iff, hlinks]
    exact Bool.false_ne_true
  rw [chainOf_none hearly, if_neg hlast, groups_of_forall h, hlinks]
  rfl

/-! ## The first and the last link -/

theorem exists_first_link {ws : List String} (h : linksOf ws ≠ []) :
    ∃ before link more, ws = before ++ link :: more ∧ (∀ w ∈ before, w ∉ linkWords) ∧ link ∈ linkWords := by
  induction ws with
  | nil => exact absurd rfl h
  | cons w ws ih =>
    by_cases hw : w ∈ linkWords
    · exact ⟨[], w, ws, rfl, fun _ hv => absurd hv List.not_mem_nil, hw⟩
    · rw [linksOf_cons_of_not_mem hw] at h
      obtain ⟨before, link, more, rfl, hbefore, hlink⟩ := ih h
      refine ⟨w :: before, link, more, rfl, ?_, hlink⟩
      intro v hv
      rcases List.mem_cons.mp hv with rfl | hv
      · exact hw
      · exact hbefore v hv

theorem exists_last_link {ws : List String} (h : linksOf ws ≠ []) :
    ∃ before link after, ws = before ++ link :: after ∧ link ∈ linkWords ∧ ∀ w ∈ after, w ∉ linkWords := by
  induction ws with
  | nil => exact absurd rfl h
  | cons w ws ih =>
    by_cases hmore : linksOf ws = []
    · by_cases hw : w ∈ linkWords
      · exact ⟨[], w, ws, rfl, hw, (linksOf_eq_nil_iff ws).mp hmore⟩
      · exact absurd ((linksOf_cons_of_not_mem hw ws).trans hmore) h
    · obtain ⟨before, link, after, rfl, hlink, hafter⟩ := ih hmore
      exact ⟨w :: before, link, after, rfl, hlink, hafter⟩

/-- After a link, the `&` of a long-term chain stands in a command. -/
theorem commands_ne_nil_of_isLongTerm {link : String} {more : List String} (hlink : link ∈ linkWords)
    (h : (link :: more).getLast? = some longTermWord) : (groups more).filterMap Command.ofWords? ≠ [] := by
  rcases List.eq_nil_or_concat more with rfl | ⟨more, w, rfl⟩
  · have heq : link = longTermWord := Option.some.inj h
    exact absurd hlink (heq ▸ longTermWord_not_mem_linkWords)
  · rw [List.concat_eq_append] at h ⊢
    rw [← List.cons_append, List.getLast?_concat] at h
    cases Option.some.inj h
    obtain ⟨k, _, hks⟩ := filterMap_addBody (groups more) longTermWord
    rw [groups_concat_of_not_mem longTermWord_not_mem_linkWords, hks]
    simp

/-- Words in front of a link are one more command in front of the chain. -/
theorem chainOf_append_link {n : String} {arguments more : List String} {link : String}
    (h : ∀ w ∈ n :: arguments, w ∉ linkWords) (hlink : link ∈ linkWords) :
    chainOf (n :: arguments ++ link :: more) none = (chainOf (link :: more) none).map fun c =>
      ⟨⟨n, arguments⟩ :: c.commands, c.links, n :: arguments ++ link :: more, false⟩ := by
  have hlinks : linksOf (n :: arguments ++ link :: more) = linksOf (link :: more) := by
    rw [linksOf_append, (linksOf_eq_nil_iff _).mpr h, List.nil_append]
  have hgroups : groups (n :: arguments ++ link :: more) = (n :: arguments) :: groups more :=
    by rw [groups_append_link hlink, groups_of_forall h, List.singleton_append]
  have hearly : StoresEarly (n :: arguments ++ link :: more) ↔ StoresEarly (link :: more) := by
    rw [← any_stores_dropLast_iff, ← any_stores_dropLast_iff, hlinks]
  by_cases hstores : StoresEarly (link :: more)
  · rw [chainOf_of_storesEarly hstores, chainOf_of_storesEarly (hearly.mpr hstores)]
    rfl
  have hlast : (n :: arguments ++ link :: more).getLast? = (link :: more).getLast? := by
    rw [List.getLast?_append, List.getLast?_cons]
    rfl
  have hfront : ((n :: arguments) :: groups more).filterMap Command.ofWords?
      = ⟨n, arguments⟩ :: (groups more).filterMap Command.ofWords? := List.filterMap_cons_some rfl
  have hempty : ([] :: groups more).filterMap Command.ofWords? = (groups more).filterMap Command.ofWords? :=
    List.filterMap_cons_none rfl
  rw [chainOf_none hstores, chainOf_none (mt hearly.mp hstores), hlinks, hgroups, groups_cons_of_mem hlink, hlast,
    hfront, hempty]
  by_cases hlong : (link :: more).getLast? = some longTermWord
  · rw [if_pos hlong, if_pos hlong, dropLongTermWord_cons (commands_ne_nil_of_isLongTerm hlink hlong)]
    cases dropLongTermWord ((groups more).filterMap Command.ofWords?) <;> rfl
  · rw [if_neg hlong, if_neg hlong]
    rfl

/-! ## Lines without a line feed -/

theorem Heredoc.cutLine_of_not_mem {cs : List Char} (h : '\n' ∉ cs) : cutLine cs = (cs, none) := by
  induction cs with
  | nil => rfl
  | cons c cs ih =>
    simp only [List.mem_cons, not_or] at h
    rw [cutLine, if_neg (Ne.symm h.1), ih h.2]

theorem Heredoc.splitText_of_not_mem {line : String} (h : '\n' ∉ line.toList) :
    splitText line = (line, none) := by
  rw [splitText, split, cutLine_of_not_mem h]
  simp

theorem Heredoc.not_mem_of_cutLine {cs : List Char} (h : (cutLine cs).2 = none) : '\n' ∉ cs := by
  induction cs with
  | nil => exact List.not_mem_nil
  | cons c cs ih =>
    by_cases hc : c = '\n'
    · rw [cutLine, if_pos hc] at h
      cases h
    · rw [cutLine, if_neg hc] at h
      exact List.not_mem_cons_of_ne_of_not_mem (Ne.symm hc) (ih h)

theorem Heredoc.cutLine_append {cs line below : List Char} (h : cutLine cs = (line, some below))
    (more : List Char) : cutLine (cs ++ more) = (line, some (below ++ more)) := by
  induction cs generalizing line with
  | nil => cases h
  | cons c cs ih =>
    by_cases hc : c = '\n'
    · rw [cutLine, if_pos hc] at h
      cases h
      rw [List.cons_append, cutLine, if_pos hc]
    · rw [cutLine, if_neg hc] at h
      cases hcs : cutLine cs with
      | mk line' below' =>
        rw [hcs] at h
        cases h
        rw [List.cons_append, cutLine, if_neg hc, ih hcs]

theorem Heredoc.splitText_of_none {text : String} (h : (splitText text).2 = none) :
    splitText text = (text, none) := by
  cases hcut : cutLine text.toList with
  | mk line below =>
    cases below with
    | none => exact splitText_of_not_mem (not_mem_of_cutLine (by rw [hcut]))
    | some below =>
      cases hopening : opening? line with
      | none => simp [splitText, split, hcut, hopening]
      | some o => simp [splitText, split, hcut, hopening] at h

/-- A text without a heredoc has none when something without a line feed is put behind it. -/
theorem Heredoc.splitText_append_of_none {text : String} (h : (splitText text).2 = none) {more : String}
    (hmore : '\n' ∉ more.toList) : splitText (text ++ more) = (text ++ more, none) := by
  cases hcut : cutLine text.toList with
  | mk line below =>
    cases below with
    | none =>
      refine splitText_of_not_mem ?_
      rw [String.toList_append, List.mem_append, not_or]
      exact ⟨not_mem_of_cutLine (by rw [hcut]), hmore⟩
    | some below =>
      cases hopening : opening? line with
      | none => simp [splitText, split, cutLine_append hcut, hopening]
      | some o => simp [splitText, split, hcut, hopening] at h

/-- What is put behind a heredoc belongs to its body. -/
theorem Heredoc.splitText_append_of_some {text body : String} (h : (splitText text).2 = some body)
    (more : String) : ∃ body', splitText (text ++ more) = ((splitText text).1, some body') := by
  cases hcut : cutLine text.toList with
  | mk line below =>
    cases below with
    | none => simp [splitText, split, hcut] at h
    | some below =>
      cases hopening : opening? line with
      | none => simp [splitText, split, hcut, hopening] at h
      | some o =>
        refine ⟨String.ofList (dropMarker o.2 (below ++ more.toList)), ?_⟩
        simp [splitText, split, hcut, cutLine_append hcut, hopening]

theorem interpret_of_split {line : String} {ws : List String}
    (h : Words.split (Heredoc.splitText line).1 = .ok ws) :
    interpret line = chainOf ws (Heredoc.splitText line).2 := by
  simp only [interpret, h]

theorem interpret_of_split_error {line : String} {cause : SplitError}
    (h : Words.split (Heredoc.splitText line).1 = .error cause) :
    interpret line = .error (.split cause) := by
  simp only [interpret, h]

/-- The chain of a line is the chain of some words. -/
theorem exists_words_of_interpret {line : String} {c : Chain} (h : interpret line = .ok c) :
    ∃ ws, Words.split (Heredoc.splitText line).1 = .ok ws ∧ chainOf ws (Heredoc.splitText line).2 = .ok c := by
  cases hs : Words.split (Heredoc.splitText line).1 with
  | error cause =>
    rw [interpret_of_split_error hs] at h
    cases h
  | ok ws => exact ⟨ws, rfl, (interpret_of_split hs).symm.trans h⟩

theorem interpret_of_no_newline {line : String} {ws : List String} (h : '\n' ∉ line.toList)
    (hs : Words.split line = .ok ws) : interpret line = chainOf ws none := by
  have hsplit := Heredoc.splitText_of_not_mem h
  rw [interpret_of_split (by rw [hsplit]; exact hs), hsplit]

/-- **No word is lost, and exactly the malformed lines are refused.**  A line is refused when the text before
its heredoc cannot be split, when a link to a file stands before another link, or when there is no heredoc and
the last word is an `&` alone in its group.  The chain of any other line keeps all words of it. -/
theorem interpret_keeps_words (line : String) :
    let (head, body) := Heredoc.splitText line
    ((∃ e, interpret line = .error e) ↔
      (∃ cause, Words.split head = .error cause) ∨
      ∃ ws, Words.split head = .ok ws ∧ (StoresEarly ws ∨ body = none ∧ EndsAlone ws)) ∧
    ∀ c, interpret line = .ok c → ∃ ws, Words.split head = .ok ws ∧ Keeps ws body c := by
  show ((∃ e, interpret line = .error e) ↔
      (∃ cause, Words.split (Heredoc.splitText line).1 = .error cause) ∨
      ∃ ws, Words.split (Heredoc.splitText line).1 = .ok ws ∧
        (StoresEarly ws ∨ (Heredoc.splitText line).2 = none ∧ EndsAlone ws)) ∧
    ∀ c, interpret line = .ok c → ∃ ws, Words.split (Heredoc.splitText line).1 = .ok ws ∧
      Keeps ws (Heredoc.splitText line).2 c
  cases h : Words.split (Heredoc.splitText line).1 with
  | error cause =>
    rw [interpret_of_split_error h]
    exact ⟨⟨fun _ => .inl ⟨cause, rfl⟩, fun _ => ⟨_, rfl⟩⟩, fun _ hc => nomatch hc⟩
  | ok ws =>
    rw [interpret_of_split h, chainOf_error_iff]
    refine ⟨⟨fun he => .inr ⟨ws, rfl, he⟩, ?_⟩, fun c hc => ⟨ws, rfl, chainOf_keeps hc⟩⟩
    rintro (⟨_, he⟩ | ⟨ws', he, hw⟩)
    · cases he
    · cases he
      exact hw

end TopicShell.Line
