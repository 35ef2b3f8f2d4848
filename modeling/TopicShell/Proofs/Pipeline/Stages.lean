import TopicShell.Pipeline.Basic
import TopicShell.Proofs.Line.Chains
import Mathlib.Data.List.Infix

/-!
# Stages and the links behind them

A stage passes its errors on when the link behind its words takes them along.  What a line writes down is
`writtenStages`: its groups, each with the link behind it, without the empty ones.  A pipeline is built from the
commands and the links of a chain by their numbers, and an empty group has a link but no command; so the commands
behind an empty group are paired with earlier links.

`wiredAsWritten_iff` says for which chains this does no harm.  It is enough that no group before the last stage is
empty (`writtenStage_of_full`).
-/

namespace TopicShell.Line

/-- The groups of a line, each with the link that is written behind it. -/
def segments : List String → List (List String × Option Link)
  | [] => [([], none)]
  | w :: ws =>
    match Link.ofWord? w, segments ws with
    | some l, rest => ([], some l) :: rest
    | none, (g, l) :: rest => (w :: g, l) :: rest
    | none, [] => [([w], none)]

theorem segments_cons_of_mem {w : String} {l : Link} (h : Link.ofWord? w = some l) (ws : List String) :
    segments (w :: ws) = ([], some l) :: segments ws := by
  rw [segments, h]

theorem segments_words (ws : List String) : (segments ws).map Prod.fst = groups ws := by
  induction ws with
  | nil => rfl
  | cons w ws ih =>
    by_cases h : w ∈ linkWords
    · obtain ⟨l, hl, _⟩ := Link.ofWord?_of_mem h
      rw [segments_cons_of_mem hl, groups_cons_of_mem h, List.map_cons, ih]
    · obtain ⟨g, gs, hg, hw⟩ := groups_cons_of_not_mem h ws
      rw [hw, segments, Link.ofWord?_of_not_mem h]
      rw [hg] at ih
      cases hs : segments ws with
      | nil =>
        rw [hs] at ih
        cases ih
      | cons s rest =>
        rw [hs, List.map_cons, List.cons.injEq] at ih
        rw [List.map_cons, ih.1, ih.2]

theorem segments_links (ws : List String) : (segments ws).map Prod.snd = (linksOf ws).map some ++ [none] := by
  induction ws with
  | nil => rfl
  | cons w ws ih =>
    by_cases h : w ∈ linkWords
    · obtain ⟨l, hl, _⟩ := Link.ofWord?_of_mem h
      rw [segments_cons_of_mem hl, linksOf_cons_of_mem hl, List.map_cons, ih]
      rfl
    · rw [linksOf_cons_of_not_mem h, ← ih, segments, Link.ofWord?_of_not_mem h]
      cases hs : segments ws with
      | nil =>
        rw [hs] at ih
        simp at ih
      | cons s rest => rfl

/-- Behind the group with a number stands the link with this number. -/
theorem link_of_segment {ws : List String} {k : Nat} {g : List String} {l : Option Link}
    (h : (segments ws)[k]? = some (g, l)) : l = (linksOf ws)[k]? := by
  have hlink : ((segments ws).map Prod.snd)[k]? = some l := by rw [List.getElem?_map, h]; rfl
  rw [segments_links] at hlink
  by_cases hk : k < (linksOf ws).length
  · rw [List.getElem?_append_left (by simpa using hk), List.getElem?_map] at hlink
    rw [List.getElem?_eq_getElem hk] at hlink ⊢
    exact (Option.some.inj hlink).symm
  · rw [List.getElem?_append_right (by simpa using hk)] at hlink
    rw [List.mem_singleton.mp (List.mem_of_getElem? hlink)]
    exact (List.getElem?_eq_none (Nat.le_of_not_lt hk)).symm

end TopicShell.Line

namespace TopicShell.Pipeline

open Line

/-! ## What a line writes down -/

/-- The stages that a line writes down: a group with words is a command, and it passes its errors on when the link
behind it takes them along. -/
def writtenStages (ws : List String) : List Stage :=
  (segments ws).filterMap fun s =>
    (Command.ofWords? s.1).map fun command => { command, mergesErrors := s.2.any Link.takesErrors }

example : writtenStages ["a", "|", "|", "b", "c", "|&", "d"]
    = [⟨⟨"a", []⟩, false⟩, ⟨⟨"b", ["c"]⟩, true⟩, ⟨⟨"d", []⟩, false⟩] := by decide

theorem writtenStages_commands (ws : List String) :
    (writtenStages ws).map Stage.command = (groups ws).filterMap Command.ofWords? := by
  rw [writtenStages, ← segments_words, List.map_filterMap, List.filterMap_map]
  congr 1
  funext s
  rw [Option.map_map]
  exact Option.map_id'

/-- In front of all empty groups, stages and groups have the same numbers. -/
theorem getElem?_filterMap_of_isSome {α β : Type} {f : α → Option β} {xs : List α} {n : Nat}
    (h : ∀ x ∈ xs.take n, (f x).isSome = true) {k : Nat} (hk : k < n) :
    (xs.filterMap f)[k]? = xs[k]?.bind f := by
  induction xs generalizing n k with
  | nil => rfl
  | cons x xs ih =>
    obtain ⟨n, rfl⟩ : ∃ m, n = m + 1 := ⟨n - 1, by omega⟩
    rw [List.take_succ_cons] at h
    obtain ⟨y, hy⟩ := Option.isSome_iff_exists.mp (h x List.mem_cons_self)
    rw [List.filterMap_cons_some hy]
    cases k with
    | zero => exact hy.symm
    | succ k => exact ih (fun z hz => h z (List.mem_cons_of_mem x hz)) (by omega)

theorem writtenStage_of_full {ws : List String} {n : Nat} (h : ∀ g ∈ (groups ws).take n, g ≠ []) {k : Nat}
    (hk : k < n) {s : Stage} (hs : (writtenStages ws)[k]? = some s) :
    s.mergesErrors = (linksOf ws)[k]?.any Link.takesErrors := by
  have hfull : ∀ x ∈ (segments ws).take n, ((Command.ofWords? x.1).map fun command : Command =>
      ({ command, mergesErrors := x.2.any Link.takesErrors } : Stage)).isSome = true := by
    intro x hx
    have hgroup : x.1 ∈ (groups ws).take n := by
      rw [← segments_words, ← List.map_take]
      exact List.mem_map_of_mem hx
    obtain ⟨w, g, hw⟩ := List.exists_cons_of_ne_nil (h x.1 hgroup)
    rw [hw]
    rfl
  rw [writtenStages, getElem?_filterMap_of_isSome hfull hk, Option.bind_eq_some_iff] at hs
  obtain ⟨⟨g, l⟩, hsegment, hstage⟩ := hs
  obtain ⟨command, _, rfl⟩ := Option.map_eq_some_iff.mp hstage
  rw [link_of_segment hsegment]

/-! ## What is built -/

variable {c : Chain} {offset : Nat}

theorem getElem?_stagesOf (c : Chain) (offset : Nat) (merge : Bool) (i : Nat) :
    (stagesOf c offset merge)[i]? = (stageCommands c)[offset + i]?.map fun command =>
      { command
        mergesErrors := (c.links[offset + i]?.any Link.takesErrors)
          || (merge && offset + i + 1 = (stageCommands c).length) } := by
  simp only [stagesOf, List.getElem?_map, List.getElem?_drop, List.getElem?_zipIdx, Option.map_map, Nat.zero_add]
  rfl

theorem stagesOf_commands (c : Chain) (offset : Nat) (merge : Bool) :
    (stagesOf c offset merge).map Stage.command = (stageCommands c).drop offset := by
  rw [stagesOf, List.map_map, List.map_drop]
  show ((stageCommands c).zipIdx.map Prod.fst).drop offset = _
  rw [List.zipIdx_map_fst]

theorem ofChain_stages {source : Source} {sinks : List Sink} {files : Files.Tree} {merge : Bool} {b : Built}
    (h : ofChain c source sinks files offset merge = .ok b) : b.pipeline.stages = stagesOf c offset merge := by
  unfold ofChain at h
  split at h
  · cases h
    rfl
  · split at h
    · cases h
    · cases h
      rfl

theorem stageCommands_prefix (c : Chain) : stageCommands c <+: c.commands := by
  rw [stageCommands]
  split
  · exact List.dropLast_prefix _
  · exact List.prefix_rfl

/-- A stage of a chain is the stage that is written at its place, up to the errors; these it passes on when the
link with its number takes them along. -/
theorem written_of_stage {ws : List String} (hcommands : c.commands = (groups ws).filterMap Command.ofWords?)
    {i : Nat} {s : Stage} (h : (stagesOf c offset false)[i]? = some s) :
    ∃ s', (writtenStages ws)[offset + i]? = some s' ∧ s'.command = s.command ∧
      s.mergesErrors = c.links[offset + i]?.any Link.takesErrors := by
  rw [getElem?_stagesOf, Option.map_eq_some_iff] at h
  obtain ⟨command, hcommand, rfl⟩ := h
  have hsame : ((writtenStages ws).map Stage.command)[offset + i]? = some command := by
    rw [writtenStages_commands, ← hcommands]
    obtain ⟨more, hmore⟩ := stageCommands_prefix c
    rw [← hmore, List.getElem?_append_left (List.getElem?_eq_some_iff.mp hcommand).1, hcommand]
  rw [List.getElem?_map, Option.map_eq_some_iff] at hsame
  obtain ⟨s', hs', hcommand'⟩ := hsame
  exact ⟨s', hs', hcommand', by simp⟩

/-- Every stage is the one that is written at its place, behind the `offset` commands that are no stages, and it
passes its errors on as the link behind its words says. -/
def WiredAsWritten (ws : List String) (offset : Nat) (p : Pipeline) : Prop :=
  ∀ i s, p.stages[i]? = some s → (writtenStages ws)[offset + i]? = some s

theorem wiredAsWritten_iff {ws : List String} (hcommands : c.commands = (groups ws).filterMap Command.ofWords?)
    {p : Pipeline} (hp : p.stages = stagesOf c offset false) :
    WiredAsWritten ws offset p ↔
      ∀ i s, i < p.stages.length → (writtenStages ws)[offset + i]? = some s →
        s.mergesErrors = c.links[offset + i]?.any Link.takesErrors := by
  constructor
  · intro h i s hi hs
    obtain ⟨stage, hstage⟩ : ∃ stage, p.stages[i]? = some stage := ⟨_, List.getElem?_eq_getElem hi⟩
    have hwritten := h i stage hstage
    rw [hs] at hwritten
    cases hwritten
    rw [hp] at hstage
    obtain ⟨_, _, _, herrors⟩ := written_of_stage hcommands hstage
    exact herrors
  · intro h i s hs
    have hi : i < p.stages.length := (List.getElem?_eq_some_iff.mp hs).1
    rw [hp] at hs
    obtain ⟨⟨command, merges⟩, hwritten, rfl, herrors⟩ := written_of_stage hcommands hs
    have hmerges : merges = s.mergesErrors := (h i _ hi hwritten).trans herrors.symm
    rw [hwritten, hmerges]

/-- **When errors go the way that is written.**  The stages of a line without a heredoc pass their errors on as the
links behind their words say if and only if, for every stage, the link with the number of the stage takes errors
along exactly when the link behind its words does.  This is so whenever no group before the last stage is empty. -/
theorem errors_follow_links_iff {line : String} {c : Chain} (hbody : (Heredoc.splitText line).2 = none)
    (hc : interpret line = .ok c) {source : Source} {sinks : List Sink} {files : Files.Tree} {offset : Nat}
    {b : Built} (hb : ofChain c source sinks files offset false = .ok b) :
    ∃ ws, Words.split line = .ok ws ∧
      (WiredAsWritten (unmarked ws) offset b.pipeline ↔
        ∀ i s, i < b.pipeline.stages.length → (writtenStages (unmarked ws))[offset + i]? = some s →
          s.mergesErrors = c.links[offset + i]?.any Link.takesErrors) ∧
      ((∀ g ∈ (groups (unmarked ws)).take (offset + b.pipeline.stages.length), g ≠ []) →
        WiredAsWritten (unmarked ws) offset b.pipeline) := by
  obtain ⟨ws, hws, hchain⟩ := exists_words_of_interpret hc
  rw [Heredoc.splitText_of_none hbody] at hws hchain
  have hcommands : c.commands = (groups (unmarked ws)).filterMap Command.ofWords? := by
    rw [eq_of_chainOf_none hchain]
  have hlinks : c.links = linksOf (unmarked ws) := by
    rw [linksOf_unmarked]
    exact (chainOf_takes hchain).1
  have hiff := wiredAsWritten_iff hcommands (ofChain_stages hb)
  refine ⟨ws, hws, hiff, fun hfull => hiff.mpr ?_⟩
  intro i s hi hs
  rw [hlinks]
  exact writtenStage_of_full hfull (by omega) hs

/-- The errors of two programs are passed on; the line ends with a link. -/
theorem listing_wired :
    ∃ c b, interpret "sub t | ls x |& sort | wc -l |&" = .ok c ∧ ofChain c .nothing [] {} 1 false = .ok b ∧
      b.pipeline.stages = [⟨⟨"ls", ["x"]⟩, true⟩, ⟨⟨"sort", []⟩, false⟩, ⟨⟨"wc", ["-l"]⟩, true⟩] ∧
      WiredAsWritten ["sub", "t", "|", "ls", "x", "|&", "sort", "|", "wc", "-l", "|&"] 1 b.pipeline := by
  have hbody : (Heredoc.splitText "sub t | ls x |& sort | wc -l |&").2 = none := by decide +kernel
  have hwords : Words.split "sub t | ls x |& sort | wc -l |&"
      = .ok ["sub", "t", "|", "ls", "x", "|&", "sort", "|", "wc", "-l", "|&"] := by decide +kernel
  have hc : interpret "sub t | ls x |& sort | wc -l |&" = .ok
      ⟨[⟨"sub", ["t"]⟩, ⟨"ls", ["x"]⟩, ⟨"sort", []⟩, ⟨"wc", ["-l"]⟩], [.pipe, .pipeBoth, .pipe, .pipeBoth],
        ["sub", "t", "|", "ls", "x", "|&", "sort", "|", "wc", "-l", "|&"], false⟩ := by decide +kernel
  have hb : ofChain ⟨[⟨"sub", ["t"]⟩, ⟨"ls", ["x"]⟩, ⟨"sort", []⟩, ⟨"wc", ["-l"]⟩],
        [.pipe, .pipeBoth, .pipe, .pipeBoth], ["sub", "t", "|", "ls", "x", "|&", "sort", "|", "wc", "-l", "|&"], false⟩
      .nothing [] {} 1 false = .ok ⟨⟨[⟨⟨"ls", ["x"]⟩, true⟩, ⟨⟨"sort", []⟩, false⟩, ⟨⟨"wc", ["-l"]⟩, true⟩],
        .nothing, []⟩, none, {}⟩ := rfl
  obtain ⟨ws, hws, _, hwired⟩ := errors_follow_links_iff hbody hc hb
  rw [hwords] at hws
  cases hws
  exact ⟨_, _, hc, hb, rfl, hwired (by decide)⟩

/-- Behind an empty group the links are those of the stages before: `sh` loses its errors, and `cat` passes its
own on. -/
theorem displaced_link :
    interpret "sub t | | sh -c 'echo err >&2' |& cat" = .ok
      ⟨[⟨"sub", ["t"]⟩, ⟨"sh", ["-c", "echo err >&2"]⟩, ⟨"cat", []⟩], [.pipe, .pipe, .pipeBoth],
        ["sub", "t", "|", "|", "sh", "-c", "echo err >&2", "|&", "cat"], false⟩ ∧
    ∃ b, ofChain ⟨[⟨"sub", ["t"]⟩, ⟨"sh", ["-c", "echo err >&2"]⟩, ⟨"cat", []⟩], [.pipe, .pipe, .pipeBoth],
        ["sub", "t", "|", "|", "sh", "-c", "echo err >&2", "|&", "cat"], false⟩ (.octets []) [] {} 1 false = .ok b ∧
      b.pipeline.stages = [⟨⟨"sh", ["-c", "echo err >&2"]⟩, false⟩, ⟨⟨"cat", []⟩, true⟩] ∧
      (writtenStages ["sub", "t", "|", "|", "sh", "-c", "echo err >&2", "|&", "cat"]).drop 1
        = [⟨⟨"sh", ["-c", "echo err >&2"]⟩, true⟩, ⟨⟨"cat", []⟩, false⟩] ∧
      ¬ WiredAsWritten ["sub", "t", "|", "|", "sh", "-c", "echo err >&2", "|&", "cat"] 1 b.pipeline := by
  refine ⟨by decide +kernel, _, rfl, rfl, by decide +kernel, ?_⟩
  intro h
  have hfirst := h 0 _ rfl
  revert hfirst
  decide +kernel

end TopicShell.Pipeline
