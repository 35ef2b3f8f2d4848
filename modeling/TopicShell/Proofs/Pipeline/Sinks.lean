import TopicShell.Proofs.Pipeline.Processes

/-!
# Sinks that refuse

A run hands chunks to its sinks: what is read behind the last stage, or the source where there are no stages
(`Hands`).  Each chunk goes to all sinks in order, and in the end all of them are flushed; the run stops where a sink
refuses for the first time, at a chunk or when it is flushed (`Refuses`).  `copy_refuses_iff` says that handing over
finds exactly these refusals, by induction over the chunks with the chunks that all sinks have taken in front.

A refusal becomes a failure of the pipeline if there are stages, and stays a bare error otherwise
(`refusal_is_failure_iff`).
-/

namespace TopicShell.Pipeline

open Files Line

/-- The sink takes each of some chunks, behind those before it. -/
def Sink.Takes (sink : Sink) (chunks : List Octets) : Prop :=
  ∀ before chunk after, chunks = before ++ chunk :: after → sink.write before chunk = none

/-- All sinks take the chunks before one, and this one is refused by a sink; or they take all chunks, and one sink
refuses to be flushed.  The message is that of the first such sink. -/
inductive Refuses (sinks : List Sink) (chunks : List Octets) (message : String) : Prop where
  | write {before after : List Octets} {chunk : Octets} (hchunks : chunks = before ++ chunk :: after)
      (hbefore : ∀ sink ∈ sinks, sink.Takes before) (h : sinks.findSome? (·.write before chunk) = some message)
  | flush (htaken : ∀ sink ∈ sinks, sink.Takes chunks) (h : sinks.findSome? (·.flush chunks) = some message)

/-- The chunks that a run hands to its sinks, if it comes to that. -/
inductive Hands (p : Pipeline) (b : Behaviour) : List Octets → Prop where
  | output (hstages : p.stages ≠ []) (hstart : ∀ i < p.stages.length, b.refusal i = none) : Hands p b b.chunks
  | octets {content : Octets} (hstages : p.stages = []) (hsource : p.source = .octets content) : Hands p b [content]
  | stream {content : Octets} (hstages : p.stages = []) (hsource : p.source = .stream content) : Hands p b b.chunks

/-! ## Handing over -/

section Copy

variable {sinks : List Sink} {taken : List Octets} {chunk : Octets} {message : String}

theorem Sink.takes_nil (sink : Sink) : sink.Takes [] := by
  intro before chunk after h
  exact absurd h.symm (List.append_ne_nil_of_right_ne_nil _ (List.cons_ne_nil _ _))

theorem Sink.Takes.snoc {sink : Sink} (h : sink.Takes taken) (hchunk : sink.write taken chunk = none) :
    sink.Takes (taken ++ [chunk]) := by
  intro before chunk' after heq
  rcases List.eq_nil_or_concat after with rfl | ⟨after, last, rfl⟩
  · obtain ⟨rfl, hlast⟩ := List.append_inj' heq rfl
    cases hlast
    exact hchunk
  · rw [List.concat_eq_append, ← List.cons_append, ← List.append_assoc] at heq
    exact h before chunk' after (List.append_inj' heq rfl).1

theorem offer_of_takes (h : ∀ sink ∈ sinks, sink.write taken chunk = none) :
    offer chunk (sinks.map fun sink => { sink, taken })
      = (sinks.map fun sink => { sink, taken := taken ++ [chunk] }, none) := by
  induction sinks with
  | nil => rfl
  | cons sink sinks ih =>
    have hhere := h sink List.mem_cons_self
    simp only [List.map_cons, offer, hhere, ih fun s hs => h s (List.mem_cons_of_mem _ hs)]

theorem offer_refusal (sinks : List Sink) (taken : List Octets) (chunk : Octets) :
    (offer chunk (sinks.map fun sink => { sink, taken })).2 = sinks.findSome? (·.write taken chunk) := by
  induction sinks with
  | nil => rfl
  | cons sink sinks ih =>
    rw [List.map_cons, offer, List.findSome?_cons, ← ih]
    cases sink.write taken chunk <;> rfl

theorem flush_refusal (sinks : List Sink) (taken : List Octets) :
    flush (sinks.map fun sink => { sink, taken }) = sinks.findSome? (·.flush taken) := by
  rw [flush, List.findSome?_map]
  rfl

theorem exists_of_refusal {f : Sink → Option String} (h : sinks.findSome? f = some message) :
    ∃ sink ∈ sinks, f sink ≠ none := by
  obtain ⟨sink, hmem, hsink⟩ := List.exists_of_findSome?_eq_some h
  exact ⟨sink, hmem, hsink ▸ Option.some_ne_none message⟩

/-- A chunk that is refused behind chunks that all sinks take is the only one that is. -/
theorem refuses_of_write {rest : List Octets} (htaken : ∀ sink ∈ sinks, sink.Takes taken) {m : String}
    (hchunk : sinks.findSome? (·.write taken chunk) = some m) :
    Refuses sinks (taken ++ chunk :: rest) message ↔ m = message := by
  obtain ⟨refusing, hmem, hrefusing⟩ := exists_of_refusal hchunk
  constructor
  · intro h
    cases h with
    | flush hall _ => exact absurd (hall refusing hmem taken chunk rest rfl) hrefusing
    | @write before after chunk' hchunks hbefore h =>
      obtain ⟨refusing', hmem', hrefusing'⟩ := exists_of_refusal h
      have hsame : before = taken ∧ chunk' = chunk := by
        rcases List.append_eq_append_iff.mp hchunks with ⟨more, rfl, heq⟩ | ⟨more, rfl, heq⟩
        · cases more with
          | nil => exact ⟨List.append_nil _, (List.cons.inj heq).1.symm⟩
          | cons c more =>
            obtain ⟨rfl, _⟩ := List.cons.inj heq
            exact absurd (hbefore refusing hmem taken chunk more rfl) hrefusing
        · cases more with
          | nil => exact ⟨(List.append_nil _).symm, (List.cons.inj heq).1⟩
          | cons c more =>
            obtain ⟨rfl, _⟩ := List.cons.inj heq
            exact absurd (htaken refusing' hmem' before chunk' more rfl) hrefusing'
      obtain ⟨rfl, rfl⟩ := hsame
      exact Option.some.inj (hchunk.symm.trans h)
  · rintro rfl
    exact .write rfl htaken hchunk

/-- Handing over finds the refusals of sinks that have taken some chunks already. -/
theorem copy_refuses {rest : List Octets} (htaken : ∀ sink ∈ sinks, sink.Takes taken) :
    (copy rest (sinks.map fun sink => { sink, taken })).2 = some message ↔ Refuses sinks (taken ++ rest) message := by
  induction rest generalizing taken with
  | nil =>
    rw [copy_nil, flush_refusal, List.append_nil]
    constructor
    · exact .flush htaken
    · intro h
      cases h with
      | flush _ h => exact h
      | write hchunks _ h =>
        obtain ⟨sink, hmem, hsink⟩ := exists_of_refusal h
        exact absurd (htaken sink hmem _ _ _ hchunks) hsink
  | cons chunk rest ih =>
    cases hchunk : sinks.findSome? (·.write taken chunk) with
    | none =>
      have hall : ∀ sink ∈ sinks, sink.write taken chunk = none := List.findSome?_eq_none_iff.mp hchunk
      have hbehind : taken ++ chunk :: rest = taken ++ [chunk] ++ rest := List.append_cons taken chunk rest
      rw [copy, offer_of_takes hall, hbehind]
      exact ih fun sink hsink => (htaken sink hsink).snoc (hall sink hsink)
    | some m =>
      have hoffer := (offer_refusal sinks taken chunk).trans hchunk
      rw [copy, refuses_of_write htaken hchunk]
      cases ho : offer chunk (sinks.map fun sink => { sink, taken }) with
      | mk intakes refusal =>
        rw [ho] at hoffer
        cases hoffer
        exact Option.some_inj

theorem copy_refuses_iff {chunks : List Octets} :
    (copy chunks (sinks.map fun sink => { sink })).2 = some message ↔ Refuses sinks chunks message :=
  copy_refuses fun sink _ => sink.takes_nil

end Copy

/-! ## Runs -/

section Runs

variable {p : Pipeline} {b : Behaviour} {chunks : List Octets} {message : String}

/-- What a run hands to its sinks decides how it ends if a sink refuses. -/
theorem abort_of_refuses (hhands : Hands p b chunks) (h : Refuses p.sinks chunks message) :
    (p.run b).abort = some (if p.stages = [] then .refusal message else .failure (.sink p.text message)) := by
  have hcopy := copy_refuses_iff.mpr h
  cases hc : copy chunks (p.sinks.map fun sink => { sink }) with
  | mk intakes refusal =>
    rw [hc] at hcopy
    cases hcopy
    cases hhands with
    | output hstages hstart =>
      rw [run_of_stages hstages, runStages, start_all hstart, if_neg hstages, hc]
    | octets hstages hsource | stream hstages hsource =>
      rw [run_of_no_stages hstages, runCopy, hsource, if_pos hstages]
      simp only [hc, Option.map_some]

/-- **When a sink that refuses makes the pipeline fail.**  Whenever a sink refuses what the run hands to it, or to be
flushed, the run ends with a failure of the pipeline exactly if it has stages; this failure has the message of the
sink.  Without stages the run ends with the bare refusal. -/
theorem refusal_is_failure_iff (hhands : Hands p b chunks) (h : Refuses p.sinks chunks message) :
    ((∃ cause, (p.run b).abort = some (.failure cause)) ↔ p.stages ≠ []) ∧
    (p.run b).abort = some (if p.stages = [] then .refusal message else .failure (.sink p.text message)) := by
  have habort := abort_of_refuses hhands h
  refine ⟨?_, habort⟩
  rw [habort]
  split_ifs with hstages
  · simp [hstages]
  · simp [hstages]

end Runs

/-! ## A device that fails -/

/-- A device that fails refuses to be flushed when it has taken a chunk that fits into the buffer. -/
theorem refuses_failing (fault : FileError) (chunk : Octets) (hne : chunk ≠ []) (hfits : chunk.length ≤ bufferSize) :
    Refuses [Sink.failing fault] [chunk] fault.numbered := by
  refine .flush ?_ ?_
  · intro sink hsink
    cases List.mem_singleton.mp hsink
    refine (Sink.takes_nil (Sink.failing fault)).snoc ?_
    simp only [Sink.failing, List.flatten_nil, List.length_nil, Nat.zero_add, if_pos hfits]
  · have htaken : [chunk].flatten.isEmpty = false := by
      rw [List.flatten_singleton, List.isEmpty_eq_false_iff]
      exact hne
    simp only [List.findSome?_cons, Sink.failing, htaken, Bool.false_eq_true, if_false]

-- any file can be on such a device
example : ((ofChain ⟨[⟨"sub", ["t"]⟩, ⟨"f", []⟩], [.write], ["sub", "t", ">", "f"], false⟩ (.octets [120]) []
    ⟨[(["f"], .failing [] .inputOutput)]⟩ 1 false).toOption.map fun built =>
      (built.pipeline.run ⟨fun _ => none, [[120]], fun _ => 0⟩).abort)
    = some (some (.refusal "[Errno 5] Input/output error")) := by
  decide +kernel

/-- With a stage in front of the full device the pipeline fails. -/
theorem staged_into_full : ∃ c built,
    interpret "sub t | cat > /dev/full" = .ok c ∧ ofChain c (.octets [120]) [] {} 1 false = .ok built ∧
      ∃ b, Hands built.pipeline b [[120]] ∧ Refuses built.pipeline.sinks [[120]] FileError.full.numbered ∧
        (built.pipeline.run b).abort = some (.failure (.sink "cat" "[Errno 28] No space left on device")) := by
  have hc : interpret "sub t | cat > /dev/full" = .ok
      ⟨[⟨"sub", ["t"]⟩, ⟨"cat", []⟩, ⟨"/dev/full", []⟩], [.pipe, .write],
        ["sub", "t", "|", "cat", ">", "/dev/full"], false⟩ := by
    decide +kernel
  have hhands : Hands ⟨[⟨⟨"cat", []⟩, false⟩], .octets [120], [Sink.failing .full]⟩
      ⟨fun _ => none, [[120]], fun _ => 0⟩ [[120]] := .output (List.cons_ne_nil _ _) fun _ _ => rfl
  have hrefuses := refuses_failing .full [120] (List.cons_ne_nil _ _) (by decide)
  exact ⟨_, _, hc, rfl, _, hhands, hrefuses, (refusal_is_failure_iff hhands hrefuses).2⟩

/-- Without a stage the bare refusal comes out. -/
theorem copied_into_full : ∃ c built,
    interpret "sub t > /dev/full" = .ok c ∧ ofChain c (.octets [120]) [] {} 1 false = .ok built ∧
      ∀ b, Hands built.pipeline b [[120]] ∧ Refuses built.pipeline.sinks [[120]] FileError.full.numbered ∧
        (built.pipeline.run b).abort = some (.refusal "[Errno 28] No space left on device") := by
  have hc : interpret "sub t > /dev/full" = .ok
      ⟨[⟨"sub", ["t"]⟩, ⟨"/dev/full", []⟩], [.write], ["sub", "t", ">", "/dev/full"], false⟩ := by
    decide +kernel
  have hrefuses := refuses_failing .full [120] (List.cons_ne_nil _ _) (by decide)
  refine ⟨_, _, hc, rfl, fun b => ?_⟩
  have hhands : Hands ⟨[], .octets [120], [Sink.failing .full]⟩ b [[120]] := .octets rfl rfl
  exact ⟨hhands, hrefuses, abort_of_refuses hhands hrefuses⟩

end TopicShell.Pipeline
