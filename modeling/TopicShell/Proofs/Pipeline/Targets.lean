import TopicShell.Proofs.Pipeline.Stages

/-!
# Targets

A chain whose last link stores is written with a file behind this link.  The file is taken to be the last command
of the chain; as empty groups give no command, it is a program when nothing is written behind the link.

The words behind the last link are a group of their own (`groups_around_link`), and this group is the last command
unless it is empty: the `&` of a long-term chain is never its first word (`commands_before_rest`).  From the last
command follow the file that is opened and the stages (`storesIn_of_target`).
-/

namespace TopicShell.Line

/-- The groups of a line that have words. -/
def programs (ws : List String) : List (List String) :=
  (groups ws).filter (· ≠ [])

example : programs ["sub", "t", "|", "|", "cat", "-n"] = [["sub", "t"], ["cat", "-n"]] := by decide

theorem filterMap_concat (gs : List (List String)) (w : String) (arguments : List String) :
    (gs ++ [w :: arguments]).filterMap Command.ofWords? = gs.filterMap Command.ofWords? ++ [⟨w, arguments⟩] := by
  rw [List.filterMap_append]
  rfl

/-! ## The last command -/

variable {before after : List String} {op : String} {c : Chain}

theorem groups_around_link (hop : op ∈ linkWords) (hafter : ∀ w ∈ after, w ∉ linkWords) :
    groups (before ++ op :: after) = groups before ++ [after] := by
  rw [groups_append_link hop, groups_of_forall hafter]

theorem not_endsAlone_of_ok {ws : List String} (hc : chainOf ws none = .ok c) : ¬ EndsAlone ws := by
  intro hends
  obtain ⟨e, he⟩ := (chainOf_error_iff ws none).mpr (.inr ⟨rfl, hends⟩)
  rw [hc] at he
  cases he

/-- An `&` at the end of a line is not the first word behind a link. -/
theorem unmarked_around_link (hop : op ∈ linkWords) {w : String} {more : List String}
    (hc : chainOf (before ++ op :: w :: more) none = .ok c) :
    ∃ arguments, arguments <+: more ∧ unmarked (before ++ op :: w :: more) = before ++ op :: w :: arguments := by
  by_cases hlast : (before ++ op :: w :: more).getLast? = some longTermWord
  · rcases List.eq_nil_or_concat more with rfl | ⟨front, v, rfl⟩
    · have hw : w = longTermWord := by
        rw [List.append_cons, List.getLast?_concat] at hlast
        exact Option.some.inj hlast
      refine absurd ⟨before ++ [op], ?_, ?_⟩ (not_endsAlone_of_ok hc)
      · rw [hw, ← List.append_cons]
      · rw [List.getLast?_concat]
        rintro _ ⟨⟩
        exact hop
    · have hfront : before ++ op :: w :: front.concat v = (before ++ op :: w :: front) ++ [v] := by simp
      rw [hfront, List.getLast?_concat] at hlast
      rw [hfront, Option.some.inj hlast, unmarked_concat, List.concat_eq_append]
      exact ⟨front, List.prefix_append front _, rfl⟩
  · exact ⟨more, List.prefix_rfl, unmarked_of_ne hlast⟩

/-- When words are written behind the last link, or a heredoc, they are the last command. -/
theorem commands_before_rest {body : Option String} (hc : chainOf (before ++ op :: after) body = .ok c)
    (hop : op ∈ linkWords) (hafter : ∀ w ∈ after, w ∉ linkWords) {w : String} {more : List String}
    (hrest : after ++ body.toList = w :: more) :
    ∃ arguments, c.commands = (groups before).filterMap Command.ofWords? ++ [⟨w, arguments⟩] := by
  cases body with
  | some b =>
    refine ⟨more, ?_⟩
    have hbody : addBody (groups before ++ [after]) b = groups before ++ [w :: more] := by
      rw [addBody, List.dropLast_concat, List.getLast?_concat, ← hrest]
      rfl
    rw [eq_of_chainOf_some hc, groups_around_link hop hafter, hbody]
    exact filterMap_concat (groups before) w more
  | none =>
    rw [Option.toList_none, List.append_nil] at hrest
    subst hrest
    obtain ⟨arguments, hprefix, hunmarked⟩ := unmarked_around_link hop hc
    have hleft : ∀ v ∈ w :: arguments, v ∉ linkWords :=
      fun v hv => hafter v (((List.prefix_cons_inj w).mpr hprefix).subset hv)
    refine ⟨arguments, ?_⟩
    rw [eq_of_chainOf_none hc, hunmarked, groups_around_link hop hleft]
    exact filterMap_concat (groups before) w arguments

/-- When nothing is written behind the last link, the last command is written before it. -/
theorem commands_without_rest (hc : chainOf (before ++ [op]) none = .ok c) (hop : op ∈ linkWords) :
    c.commands = (groups before).filterMap Command.ofWords? := by
  have hlast : (before ++ [op]).getLast? ≠ some longTermWord := by
    rw [List.getLast?_concat]
    rintro ⟨⟩
    exact longTermWord_not_mem_linkWords hop
  rw [eq_of_chainOf_none hc, unmarked_of_ne hlast, groups_concat_of_mem hop, List.filterMap_append]
  exact List.append_nil _

end TopicShell.Line

namespace TopicShell.Pipeline

open Line

/-- The chain stores what these programs write in the file with this path: `offset` of the programs are no stages
and all others are, the file is opened as the link says, and only when it cannot be opened there is no pipeline. -/
structure StoresIn (c : Chain) (link : Link) (programs : List (List String)) (path : String) : Prop where
  target : c.target? = some path
  refused : ∀ (source : Source) (sinks : List Sink) (files : Files.Tree) (offset : Nat) (merge : Bool)
    (cause : Files.FileError), files.openTarget path link.keepsContent = .error cause →
      ofChain c source sinks files offset merge = .error (Abort.ofFile (.target path) cause)
  built : ∀ (source : Source) (sinks : List Sink) (files : Files.Tree) (offset : Nat) (merge : Bool)
    (file : Files.Target) (files' : Files.Tree), files.openTarget path link.keepsContent = .ok (file, files') →
      ∃ b, ofChain c source sinks files offset merge = .ok b ∧
        b.pipeline.stages.map (·.command.words) = programs.drop offset ∧
        b.target = some file ∧ b.files = files' ∧ b.pipeline.sinks = sinks ++ [sinkOf file]

variable {c : Chain} {link : Link}

theorem storesIn_of_target {path : String} (htarget : c.target? = some path) (hlink : c.links.getLast? = some link) :
    StoresIn c link ((stageCommands c).map Command.words) path := by
  refine ⟨htarget, ?_, ?_⟩
  · intro source sinks files offset merge cause hopen
    simp only [ofChain, htarget, hlink, Option.any_some, hopen]
  · intro source sinks files offset merge file files' hopen
    refine ⟨⟨⟨stagesOf c offset merge, source, sinks ++ [sinkOf file]⟩, some file, files'⟩, ?_, ?_, rfl, rfl, rfl⟩
    · simp only [ofChain, htarget, hlink, Option.any_some, hopen]
    · rw [← List.map_drop, ← stagesOf_commands c offset merge, List.map_map]
      rfl

/-- The last command is the file, whatever it was written as. -/
theorem storesIn_of_commands {gs : List Command} {w : String} {arguments : List String}
    (hcommands : c.commands = gs ++ [⟨w, arguments⟩]) (hlink : c.links.getLast? = some link)
    (hstores : link.stores = true) : StoresIn c link (gs.map Command.words) w := by
  have hchain : c.stores = true := by rw [Chain.stores, hlink, Option.any_some, hstores]
  have htarget : c.target? = some w := by
    rw [Chain.target?, if_pos hchain, hcommands, List.getLast?_concat]
    rfl
  have hstages : stageCommands c = gs := by rw [stageCommands, if_pos hchain, hcommands, List.dropLast_concat]
  rw [← hstages]
  exact storesIn_of_target htarget hlink

/-- The last link of some words, with the words before it and the words behind it. -/
structure LastLink (ws before : List String) (link : Link) (after : List String) : Prop where
  words : ws = before ++ link.text :: after
  linkless : ∀ w ∈ after, w ∉ linkWords

theorem exists_lastLink {ws : List String} (h : linksOf ws ≠ []) :
    ∃ before link after, LastLink ws before link after := by
  obtain ⟨before, op, after, hws, hop, hafter⟩ := exists_last_link h
  obtain ⟨link, _, rfl⟩ := Link.ofWord?_of_mem hop
  exact ⟨before, link, after, hws, hafter⟩

theorem LastLink.getLast?_linksOf {ws before after : List String} (h : LastLink ws before link after) :
    (linksOf ws).getLast? = some link := by
  rw [h.words, linksOf_append, linksOf_cons_of_mem (Link.ofWord?_text link), (linksOf_eq_nil_iff _).mpr h.linkless,
    List.getLast?_concat]

/-- **A file must be written behind the link that stores.**  An accepted line whose last link stores is built as it
is written, with the first word behind this link as the file and the programs before it as the stages, if and only
if there is a word or a heredoc behind the link.  If there is none the line is not refused: the file that is opened
has the name of the last program before the link, and this program is no stage. -/
theorem stores_as_written_iff {line : String} {c : Chain} (hc : interpret line = .ok c) (hstores : c.stores = true) :
    ∃ ws, Words.split (Heredoc.splitText line).1 = .ok ws ∧ (∃ before link after, LastLink ws before link after) ∧
      ∀ before link after, LastLink ws before link after → link.stores = true ∧
        ((∃ w more, after ++ (Heredoc.splitText line).2.toList = w :: more ∧ StoresIn c link (programs before) w) ↔
          after ++ (Heredoc.splitText line).2.toList ≠ []) ∧
        (after ++ (Heredoc.splitText line).2.toList = [] →
          (∀ front name arguments, programs before = front ++ [name :: arguments] → StoresIn c link front name) ∧
          (programs before = [] → c.commands = [] ∧ c.target? = none)) := by
  obtain ⟨ws, hws, hchain⟩ := exists_words_of_interpret hc
  have hlinks := (chainOf_takes hchain).1
  have hsome : linksOf ws ≠ [] := by
    intro hnone
    rw [Chain.stores, hlinks, hnone] at hstores
    cases hstores
  refine ⟨ws, hws, exists_lastLink hsome, ?_⟩
  intro before link after hcut
  have hlast : c.links.getLast? = some link := by rw [hlinks, hcut.getLast?_linksOf]
  have hlinkStores : link.stores = true := by rwa [Chain.stores, hlast, Option.any_some] at hstores
  have hop := link.text_mem_linkWords
  obtain ⟨rfl, hafter⟩ := hcut
  refine ⟨hlinkStores, ⟨?_, ?_⟩, ?_⟩
  · rintro ⟨w, more, hrest, _⟩
    rw [hrest]
    exact List.cons_ne_nil w more
  · intro hrest
    obtain ⟨w, more, hrest⟩ := List.exists_cons_of_ne_nil hrest
    obtain ⟨arguments, hcommands⟩ := commands_before_rest hchain hop hafter hrest
    refine ⟨w, more, hrest, ?_⟩
    rw [programs, ← map_words_filterMap]
    exact storesIn_of_commands hcommands hlast hlinkStores
  · intro hrest
    obtain ⟨rfl, hbody⟩ := List.append_eq_nil_iff.mp hrest
    rw [Option.toList_eq_nil_iff.mp hbody] at hchain
    rw [programs, ← map_words_filterMap, ← commands_without_rest hchain hop]
    constructor
    · intro front name arguments hprograms
      obtain ⟨gs, last, hgs, rfl, hname⟩ := List.map_eq_append_iff.mp hprograms
      obtain ⟨command, rfl, hwords⟩ := List.map_eq_singleton_iff.mp hname
      obtain ⟨rfl, rfl⟩ := List.cons.inj hwords
      exact storesIn_of_commands hgs hlast hlinkStores
    · intro hprograms
      have hnone : c.commands = [] := List.map_eq_nil_iff.mp hprograms
      refine ⟨hnone, ?_⟩
      rw [Chain.target?, if_pos hstores, hnone]
      rfl

/-- An empty group before the link, a file with a blank in its name, one more word behind it, and an `&`. -/
theorem sorted_stored :
    ∃ c, interpret "sub t | cat -n | | sort >> 'out file' more &" = .ok c ∧ c.stores = true ∧
      StoresIn c .append [["sub", "t"], ["cat", "-n"], ["sort"]] "out file" := by
  have hbody : Heredoc.splitText "sub t | cat -n | | sort >> 'out file' more &"
      = ("sub t | cat -n | | sort >> 'out file' more &", none) := by decide +kernel
  have hwords : Words.split "sub t | cat -n | | sort >> 'out file' more &"
      = .ok ["sub", "t", "|", "cat", "-n", "|", "|", "sort", ">>", "out file", "more", "&"] := by decide +kernel
  have hc : interpret "sub t | cat -n | | sort >> 'out file' more &" = .ok
      ⟨[⟨"sub", ["t"]⟩, ⟨"cat", ["-n"]⟩, ⟨"sort", []⟩, ⟨"out file", ["more"]⟩], [.pipe, .pipe, .pipe, .append],
        ["sub", "t", "|", "cat", "-n", "|", "|", "sort", ">>", "out file", "more", "&"], false⟩ := by decide +kernel
  obtain ⟨ws, hws, _, hstored⟩ := stores_as_written_iff hc rfl
  rw [hbody] at hws hstored
  rw [hwords] at hws
  cases hws
  have hcut : LastLink ["sub", "t", "|", "cat", "-n", "|", "|", "sort", ">>", "out file", "more", "&"]
      ["sub", "t", "|", "cat", "-n", "|", "|", "sort"] .append ["out file", "more", "&"] := ⟨rfl, by decide⟩
  obtain ⟨_, hiff, _⟩ := hstored _ _ _ hcut
  obtain ⟨w, more, hrest, hin⟩ := hiff.mpr (List.cons_ne_nil _ _)
  cases hrest
  exact ⟨_, hc, rfl, hin⟩

/-- Nothing is written behind the link, and the line is accepted: no stage is left, and the file `cat`, with one
octet in it before, is emptied.  With an `&` instead of the file the line is refused. -/
theorem program_overwritten :
    interpret "sub t | cat >" = .ok
      ⟨[⟨"sub", ["t"]⟩, ⟨"cat", []⟩], [.pipe, .write], ["sub", "t", "|", "cat", ">"], false⟩ ∧
    (¬ ∃ e, interpret "sub t | cat >" = .error e) ∧
    (∃ b, ofChain ⟨[⟨"sub", ["t"]⟩, ⟨"cat", []⟩], [.pipe, .write], ["sub", "t", "|", "cat", ">"], false⟩
        .nothing [] ⟨[(["cat"], .file [10] false)]⟩ 1 false = .ok b ∧
      b.pipeline.stages = [] ∧ b.files.node? ["cat"] = some (.file [] false)) ∧
    interpret "sub t | cat > &" = .error .misplaced := by
  have hc : interpret "sub t | cat >" = .ok
      ⟨[⟨"sub", ["t"]⟩, ⟨"cat", []⟩], [.pipe, .write], ["sub", "t", "|", "cat", ">"], false⟩ := by decide +kernel
  have hopen : (⟨[(["cat"], .file [10] false)]⟩ : Files.Tree).openTarget "cat" false
      = .ok (⟨.regular ["cat"], false, 0⟩, ⟨[(["cat"], .file [] false)]⟩) := by rfl
  refine ⟨hc, ?_, ?_, by decide +kernel⟩
  · rintro ⟨e, he⟩
    rw [hc] at he
    cases he
  · have hin : StoresIn ⟨[⟨"sub", ["t"]⟩, ⟨"cat", []⟩], [.pipe, .write], ["sub", "t", "|", "cat", ">"], false⟩ .write
        [["sub", "t"]] "cat" := storesIn_of_target rfl rfl
    obtain ⟨b, hb, hstages, _, hfiles, _⟩ := hin.built .nothing [] _ 1 false _ _ hopen
    refine ⟨b, hb, List.map_eq_nil_iff.mp hstages, ?_⟩
    rw [hfiles]
    rfl

end TopicShell.Pipeline
