import TopicShell.Macro.Script
import TopicShell.Proofs.Line.Chains
import TopicShell.Proofs.Line.Words
import TopicShell.Proofs.Macro.Placeholders
import TopicShell.Proofs.Running

/-!
# Invocations of macros

An invocation (`Invokes`) of a macro of commands comes to its commands, filled (`generated`) and with the pipe
of the invocation behind those that subscribe (`resolveBody_computes`).  Written with quotes where they are
needed, an invocation reaches its macro with the arguments as they are, and each command is filled for each
value in one pass (`expand_literal`).
-/

namespace TopicShell.Macro

open Line Placeholder

variable {ε σ : Type}

/-! ## Running expansions -/

section Running

variable {α β : Type}

/-- The expansion leaves the world alone: it yields a value, or ends at a number too long to be read. -/
def Computes (a : Expanding ε σ α) (r : Except TooLong α) : Prop :=
  ∀ w, a.run w = (r.mapError .placeholder, w)

theorem Computes.map {a : Expanding ε σ α} {r : Except TooLong α} (h : Computes a r) (f : α → β) :
    Computes (f <$> a) (r.map f) := by
  intro w
  rw [map_eq_pure_bind, run_bind, h]
  cases r <;> rfl

theorem Computes.mapM {f : α → Expanding ε σ β} {g : α → Except TooLong β}
    (h : ∀ x, Computes (f x) (g x)) (xs : List α) : Computes (xs.mapM f) (xs.mapM g) := by
  induction xs with
  | nil => exact fun w => rfl
  | cons x xs ih =>
    intro w
    rw [List.mapM_cons, List.mapM_cons, run_bind, h]
    cases g x with
    | error e => rfl
    | ok y =>
      show ((xs.mapM f >>= fun ys => pure (y :: ys)) : Expanding ε σ (List β)).run w = _
      rw [run_bind, ih]
      cases xs.mapM g <;> rfl

end Running

section Mapping

variable {κ α β γ : Type}

theorem mapM_map (f : β → γ) (g : α → Except κ β) (xs : List α) :
    (xs.mapM fun x => (g x).map f) = (xs.mapM g).map (List.map f) := by
  induction xs with
  | nil => rfl
  | cons x xs ih =>
    rw [List.mapM_cons, List.mapM_cons, ih]
    cases g x with
    | error e => rfl
    | ok y => cases xs.mapM g <;> rfl

theorem mapM_ok {g : α → Except κ β} {f : α → β} {xs : List α} (h : ∀ x ∈ xs, g x = .ok (f x)) :
    xs.mapM g = .ok (xs.map f) := by
  induction xs with
  | nil => rfl
  | cons x xs ih =>
    rw [List.mapM_cons, h x List.mem_cons_self, ih fun y hy => h y (List.mem_cons_of_mem x hy)]
    rfl

end Mapping

/-! ## Macros of commands -/

/-- The lines that the commands of a macro stand for, before the pipe of the invocation is attached. -/
def generated (s : Spec) (arguments : List String) : Except TooLong (List String) :=
  if s.arguments.isEmpty then .ok s.commands
  else ((s.divide arguments).2.mapM fun value =>
    s.commands.mapM (fillText ((s.divide arguments).1 ++ [value]))).map List.flatten

theorem fillCommand_computes (values : List String) (pipe command : String) :
    Computes (fillCommand values pipe command : Expanding ε σ String)
      ((fillText values command).map (attachPipe pipe)) := by
  intro w
  rw [fillCommand]
  cases fillText values command <;> rfl

theorem resolveCommands_computes (s : Spec) (fixed tail : List String) (pipe : String) :
    Computes (resolveCommands s fixed tail pipe : Expanding ε σ (List String))
      (((tail.mapM fun value => s.commands.mapM (fillText (fixed ++ [value]))).map List.flatten).map
        (List.map (attachPipe pipe))) := by
  have hfill := Computes.mapM (fun value => Computes.mapM
    (fun command => fillCommand_computes (ε := ε) (σ := σ) (fixed ++ [value]) pipe command) s.commands) tail
  simp only [mapM_map] at hfill
  have hflat := hfill.map List.flatten
  rw [map_eq_pure_bind] at hflat
  intro w
  rw [resolveCommands, hflat w]
  congr 1
  cases tail.mapM fun value => s.commands.mapM (fillText (fixed ++ [value])) with
  | error e => rfl
  | ok lines => simp [Except.map, Except.mapError, List.map_flatten]

theorem resolveBody_computes (engine : Engine ε σ) (name : String) {s : Spec} (h : s.commands ≠ [])
    (arguments : List String) (pipe : String) :
    Computes (resolveBody engine name s arguments pipe)
      ((generated s arguments).map (List.map (attachPipe pipe))) := by
  have hsome : s.commands.isEmpty = false := by simpa using h
  simp only [resolveBody, generated, hsome, Bool.false_eq_true, if_false]
  split_ifs with harguments
  · exact fun w => rfl
  · exact resolveCommands_computes s _ _ pipe

/-! ## Reaching a macro -/

/-- The line is an invocation of this macro, with these arguments. -/
structure Invokes (specs : List (String × Spec)) (line : String) (c : Chain) (n : String) (s : Spec)
    (arguments : List String) : Prop where
  chain : interpret line = .ok c
  command : c.commands.head? = some ⟨n, arguments⟩
  spec : specs.lookup n = some s

theorem Invokes.resolve {specs : List (String × Spec)} {line n : String} {c : Chain} {s : Spec}
    {arguments : List String} (h : Invokes specs line c n s arguments) (engine : Engine ε σ) (w : σ) :
    (resolve engine specs line).run w =
      if s.fits arguments.length then (resolveBody engine n s arguments (pipeOf line)).run w
      else (.ok [], engine.write (usage n s) (engine.write "invalid macro arguments\n" w)) := by
  have hhead : (interpret line).toOption.bind (·.commands.head?) = some ⟨n, arguments⟩ := by
    rw [h.chain]
    exact h.command
  rw [Macro.resolve, hhead]
  simp only [h.spec]
  split_ifs <;> rfl

theorem Grammar.check_of_lookup {g : Grammar} {specs : List (String × Spec)} (h : g.validate specs = .ok ())
    {n : String} {s : Spec} (hs : specs.lookup n = some s) : g.check n s = .ok () := by
  induction specs with
  | nil => cases hs
  | cons p specs ih =>
    obtain ⟨n', s'⟩ := p
    have hcons : g.validate ((n', s') :: specs) = (g.check n' s' >>= fun _ => g.validate specs) := rfl
    rw [hcons] at h
    cases hv : g.check n' s' with
    | error e =>
      rw [hv] at h
      cases h
    | ok u =>
      rw [hv] at h
      rw [List.lookup_cons] at hs
      split at hs
      · next heq =>
        cases hs
        rw [eq_of_beq heq]
        exact hv
      · exact ih h hs

/-- Whatever the engine, the name of a macro of a valid set is not taken by a built-in command. -/
theorem Grammar.isReserved_of_validate {g : Grammar} {specs : List (String × Spec)} (h : g.validate specs = .ok ())
    {n : String} {s : Spec} (hs : specs.lookup n = some s) : isReserved n = false := by
  have hcheck := Grammar.check_of_lookup h hs
  rw [Grammar.check] at hcheck
  split_ifs at hcheck with hr
  all_goals simpa using hr

theorem belongsTo_eq_false_iff (line : String) (b : Builtin) :
    belongsTo line b = false ↔
      line ≠ b.word ∧ (b.takesArguments = true → ¬ b.word.toList ++ [' '] <+: line.toList) := by
  have hlist : (b.word ++ " ").toList = b.word.toList ++ [' '] := by simp
  rw [← Bool.not_eq_true, belongsTo, hlist, Bool.or_eq_true, Bool.and_eq_true, beq_iff_eq,
    List.isPrefixOf_iff_prefix, not_or, not_and]

theorem Builtin.space_not_mem_word (b : Builtin) : ' ' ∉ b.word.toList := by
  cases b <;> decide

/-- Two texts that go on with a separator after parts without one have the same first part. -/
theorem eq_of_append_prefix {x : Char} {front front' rest : List Char} (h : x ∉ front) (h' : x ∉ front')
    (hp : front ++ [x] <+: front' ++ x :: rest) : front = front' := by
  obtain ⟨more, hmore⟩ := hp
  rw [List.append_assoc, List.singleton_append] at hmore
  have hcut := Text.cut_append h more
  rw [hmore, Text.cut_append h'] at hcut
  exact (congrArg Prod.fst hcut).symm

/-- A line that begins with the name of a macro is not the line of a built-in command. -/
theorem isCandidate_join {n : String} (hr : isReserved n = false) (hn : Words.quoteText n = n)
    (arguments : List String) : isCandidate (Words.join (n :: arguments)) = true := by
  have hspace : ' ' ∉ n.toList := fun h => absurd (Words.plain_of_quoteText hn _ h) (by decide)
  simp only [isReserved, Bool.not_eq_false', Bool.and_eq_true, isCandidate, Bool.not_eq_true',
    List.any_eq_false, Bool.not_eq_true] at hr ⊢
  intro b hb
  obtain ⟨hname, hname'⟩ := hr
  cases arguments with
  | nil =>
    have hline : Words.join [n] = n := by
      rw [← String.toList_inj, Words.toList_join_singleton, ← String.toList_ofList (l := Words.quote _)]
      exact congrArg String.toList hn
    rw [hline]
    exact hname b hb
  | cons a arguments =>
    have hquote : Words.quote n.toList = n.toList := by
      rw [← String.toList_ofList (l := Words.quote n.toList)]
      exact congrArg String.toList hn
    have hline := Words.toList_join_cons n a arguments
    rw [hquote] at hline
    rw [belongsTo_eq_false_iff]
    constructor
    · intro heq
      refine Builtin.space_not_mem_word b ?_
      rw [← heq, hline]
      simp
    · intro htakes hp
      rw [hline] at hp
      have hword : b.word.toList = n.toList := eq_of_append_prefix (Builtin.space_not_mem_word b) hspace hp
      have hbelongs := (belongsTo_eq_false_iff _ _).mp (hname' b hb)
      refine hbelongs.2 htakes ?_
      rw [hword]
      simp

/-! ## Invocations in quotes -/

/-- Words without a bar or a line feed, none of them a link to a file and the last of them no `&`, are the
arguments of the macro that they are written after. -/
theorem invokes_join {specs : List (String × Spec)} {n : String} {s : Spec} (hs : specs.lookup n = some s)
    (hn : Words.quoteText n = n) {arguments : List String}
    (hwords : ∀ a ∈ arguments, '|' ∉ a.toList ∧ '\n' ∉ a.toList)
    (hstoring : ∀ a ∈ arguments, a ∉ storingWords) (hlast : arguments.getLast? ≠ some longTermWord) :
    '|' ∉ (Words.join (n :: arguments)).toList ∧
    Invokes specs (Words.join (n :: arguments)) ⟨[⟨n, arguments⟩], [], n :: arguments, false⟩ n s arguments := by
  have hplain := Words.plain_of_quoteText hn
  have hjoin : ∀ x, Words.isPlain x = false → x ∉ ['\'', '"', ' '] →
      (∀ a ∈ arguments, x ∉ a.toList) → x ∉ (Words.join (n :: arguments)).toList := by
    intro x hx hquotes ha
    refine Words.not_mem_join hquotes ?_
    intro w hw hc
    rcases List.mem_cons.mp hw with rfl | hw
    · rw [hplain x hc] at hx
      cases hx
    · exact ha w hw hc
  have hname : ∀ w ∈ longTermWord :: linkWords, n ≠ w := by
    rintro w hw rfl
    have hodd : ∀ v ∈ longTermWord :: linkWords, v.toList.all Words.isPlain = false := by decide +kernel
    have hall : n.toList.all Words.isPlain = true := List.all_eq_true.mpr hplain
    rw [hodd n hw] at hall
    cases hall
  have hlink : ∀ w ∈ n :: arguments, w ∉ linkWords := by
    intro w hw hl
    rcases List.mem_cons.mp hw with rfl | hw
    · exact hname w (List.mem_cons_of_mem _ hl) rfl
    · have hbar : ∀ v ∈ linkWords, v ∉ storingWords → '|' ∈ v.toList := by decide
      exact (hwords w hw).1 (hbar w hl (hstoring w hw))
  have hend : (n :: arguments).getLast? ≠ some longTermWord := by
    cases arguments with
    | nil => simpa using hname longTermWord List.mem_cons_self
    | cons a arguments => simpa using hlast
  refine ⟨hjoin '|' (by decide) (by decide) fun a ha => (hwords a ha).1, ?_, rfl, hs⟩
  have hline : '\n' ∉ (Words.join (n :: arguments)).toList :=
    hjoin '\n' (by decide) (by decide) fun a ha => (hwords a ha).2
  rw [interpret_of_no_newline hline (Words.split_join _), chainOf_linkless hlink hend]

theorem pipeOf_of_not_mem {line : String} (h : '|' ∉ line.toList) : pipeOf line = "" := by
  rw [pipeOf, Text.cut_of_not_mem h]

theorem attachPipe_empty : attachPipe "" = id := by
  funext line
  simp [attachPipe]

theorem fillText_eq_fillOnce {values : List String} (hvalues : ∀ v ∈ values, '\x00' ∉ v.toList)
    {command : String} (hcommand : '\x00' ∉ command.toList) (hshort : ShortNumbers command.toList) :
    fillText values command = .ok (String.ofList (fillOnce values command.toList)) := by
  rw [fillText, fill_eq_fillOnce hvalues hcommand hshort]
  rfl

/-- **What an invocation of a macro of commands yields.**  The name of the macro is not taken by a built-in command,
as it is in every set of macros that passes the check of some engine (`Grammar.isReserved_of_validate`).  The words are
written with quotes where they are needed; none of them has a bar, a line feed or the character of the mark, none is a
link to a file, and the last one is no `&`.  If their number does not fit, the usage is written and no line comes out.
Otherwise all commands come out for each value of the last argument, filled in one pass with the arguments in front and
this value. -/
theorem expand_literal {specs : List (String × Spec)} {n : String} (hname : isReserved n = false)
    {s : Spec} (hs : specs.lookup n = some s) (hcommands : s.commands ≠ []) (harguments : s.arguments ≠ [])
    (hn : Words.quoteText n = n) {arguments : List String}
    (hwords : ∀ a ∈ arguments, '|' ∉ a.toList ∧ '\n' ∉ a.toList ∧ '\x00' ∉ a.toList)
    (hstoring : ∀ a ∈ arguments, a ∉ storingWords) (hlast : arguments.getLast? ≠ some longTermWord)
    (htemplates : ∀ t ∈ s.commands, '\x00' ∉ t.toList ∧ ShortNumbers t.toList)
    (engine : Engine ε σ) (w : σ) :
    (expand engine specs (Words.join (n :: arguments))).run w =
      if arguments.length < s.arguments.length ∨
          s.varargs = false ∧ arguments.length ≠ s.arguments.length then
        (.ok [], engine.write (usage n s) (engine.write "invalid macro arguments\n" w))
      else
        let fixed := arguments.take (s.arguments.length - 1)
        let tail := arguments.drop (s.arguments.length - 1)
        (.ok (tail.flatMap fun value => s.commands.map fun t =>
          String.ofList (fillOnce (fixed ++ [value]) t.toList)), w) := by
  obtain ⟨hbar, hinvokes⟩ := invokes_join hs hn
    (fun a ha => ⟨(hwords a ha).1, (hwords a ha).2.1⟩) hstoring hlast
  have hcandidate := isCandidate_join hname hn arguments
  have hfits : s.fits arguments.length = true ↔ ¬ (arguments.length < s.arguments.length ∨
      s.varargs = false ∧ arguments.length ≠ s.arguments.length) := by
    rw [Spec.fits]
    cases s.varargs
    · simp
      omega
    · simp
  have hgenerated : generated s arguments = .ok ((arguments.drop (s.arguments.length - 1)).flatMap
      fun value => s.commands.map fun t =>
        String.ofList (fillOnce (arguments.take (s.arguments.length - 1) ++ [value]) t.toList)) := by
    have hsome : s.arguments.isEmpty = false := by simpa using harguments
    rw [generated, hsome, mapM_ok (f := fun value => s.commands.map fun t =>
        String.ofList (fillOnce (arguments.take (s.arguments.length - 1) ++ [value]) t.toList))]
    · rw [List.flatMap_def]
      rfl
    · intro value hvalue
      refine mapM_ok fun t ht => fillText_eq_fillOnce ?_ (htemplates t ht).1 (htemplates t ht).2
      intro v hv
      refine (hwords v ?_).2.2
      rcases List.mem_append.mp hv with hv | hv
      · exact List.mem_of_mem_take hv
      · rw [List.mem_singleton.mp hv]
        exact List.mem_of_mem_drop hvalue
  rw [expand, if_pos hcandidate, hinvokes.resolve]
  by_cases hf : s.fits arguments.length = true
  · rw [if_pos hf, if_neg (hfits.mp hf), resolveBody_computes engine n hcommands, hgenerated,
      pipeOf_of_not_mem hbar, attachPipe_empty]
    simp [Except.map, Except.mapError]
  · rw [if_neg hf, if_pos (Decidable.not_not.mp fun h => hf (hfits.mpr h))]

/-- A macro with an escaped dollar, and with a number that counts no argument. -/
def report : Spec :=
  { arguments := ["topic", "value"], varargs := true, commands := ["pub $1 \\$1 $2 $3", "list"] }

/-- Values that look like placeholders come out as they are. -/
theorem expand_report :
    (expand scripts [("report", report)] (Words.join ["report", "it's", "$1 $2", "\\$1"])).run {} =
      (.ok ["pub it's $1 $1 $2 $3", "list", "pub it's $1 \\$1 $3", "list"], {}) := by
  have hshort : ∀ t ∈ report.commands, '\x00' ∉ t.toList ∧ ShortNumbers t.toList := by
    intro t ht
    refine ⟨(by decide +kernel : ∀ t ∈ report.commands, '\x00' ∉ t.toList) t ht, .of_length ?_⟩
    exact (by decide +kernel : ∀ t ∈ report.commands, t.toList.length ≤ Text.Integer.digitLimit) t ht
  have hspec : [("report", report)].lookup "report" = some report := rfl
  have hwords : ∀ a ∈ ["it's", "$1 $2", "\\$1"], '|' ∉ a.toList ∧ '\n' ∉ a.toList ∧ '\x00' ∉ a.toList := by
    decide +kernel
  have hvalid : scripts.validate [("report", report)] = .ok () := by decide +kernel
  have hname := Grammar.isReserved_of_validate hvalid hspec
  have hexpand := expand_literal hname hspec (by decide) (by decide) (by decide +kernel)
    hwords (by decide +kernel) (by decide +kernel) hshort scripts {}
  rw [if_neg (by decide)] at hexpand
  have hlines : ["$1 $2", "\\$1"].flatMap (fun value => report.commands.map fun t =>
      String.ofList (fillOnce (["it's"] ++ [value]) t.toList))
      = ["pub it's $1 $1 $2 $3", "list", "pub it's $1 \\$1 $3", "list"] := by
    decide +kernel
  rw [← hlines]
  exact hexpand

end TopicShell.Macro
