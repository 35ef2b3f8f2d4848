import TopicShell.Proofs.Line.Chains
import TopicShell.Proofs.Line.Words

/-!
# Quotes and links

A line is split into words first, and then the words that are links are looked for; so a word is a link whether
it was written with quotes or without.  Any two lines with the same words have the same chain
(`interpret_eq_interpret_join`).  Words that are written with quotes come back as one command exactly when none of
them is a link and the last one is no `&` (`isCommand_of_linkless`, `linkless_of_isCommand`).  Splitting alone gives
back the words of any command (`Command.split_text`).
-/

namespace TopicShell.Line

/-- **Splitting undoes quoting.**  The text of a command is split into its name and its arguments again, whatever
characters they have, and it is so too in front of any other text that a space sets apart. -/
theorem Command.split_text (c : Command) :
    Words.split c.text = .ok (c.name :: c.arguments) ∧
    ∀ rest, Words.split (c.text ++ " " ++ rest) = (Words.split rest).map (c.name :: c.arguments ++ ·) := by
  have htext : Words.split c.text = .ok (c.name :: c.arguments) := Words.split_join c.words
  exact ⟨htext, Words.split_append_space htext⟩

example : Command.text ⟨"", ["it's", "\\", "\n", "é"]⟩ = "'' 'it'\"'\"'s' '\\' '\n' 'é'" := by decide +kernel

theorem interpret_join {ws : List String} (h : ∀ w ∈ ws, '\n' ∉ w.toList) :
    interpret (Words.join ws) = chainOf ws none :=
  interpret_of_no_newline (Words.not_mem_join (by decide) h) (Words.split_join ws)

/-- How the words of a line are quoted makes no difference. -/
theorem interpret_eq_interpret_join {line : String} {ws : List String} (hline : '\n' ∉ line.toList)
    (h : ∀ w ∈ ws, '\n' ∉ w.toList) (hs : Words.split line = .ok ws) :
    interpret line = interpret (Words.join ws) := by
  rw [interpret_join h, interpret_of_no_newline hline hs]

/-- The chain is one command with these words, and nothing else. -/
def IsCommand (ws : List String) (c : Chain) : Prop :=
  c.commands.map Command.words = [ws] ∧ c.links = [] ∧ c.isLongTerm = false

theorem isCommand_of_linkless {n : String} {arguments : List String} (h : ∀ w ∈ n :: arguments, w ∉ linkWords)
    (hlast : (n :: arguments).getLast? ≠ some longTermWord) :
    ∃ c, chainOf (n :: arguments) none = .ok c ∧ IsCommand (n :: arguments) c := by
  refine ⟨_, chainOf_linkless h hlast, rfl, rfl, ?_⟩
  rw [Bool.eq_false_iff]
  exact mt (Chain.isLongTerm_none _ _ _).mp hlast

theorem linkless_of_isCommand {ws : List String} {c : Chain} (hc : chainOf ws none = .ok c) (h : IsCommand ws c) :
    (∀ w ∈ ws, w ∉ linkWords) ∧ ws.getLast? ≠ some longTermWord := by
  obtain ⟨_, hlinks, hlong⟩ := h
  rw [eq_of_chainOf_none hc] at hlinks hlong
  constructor
  · exact (linksOf_eq_nil_iff ws).mp hlinks
  · rw [Bool.eq_false_iff] at hlong
    exact fun hlast => hlong ((Chain.isLongTerm_none _ _ ws).mpr hlast)

/-- **Quotes keep words together, but they do not keep a word from being a link.**  Some words, written with
quotes where they need them, are read as one command with exactly these words if and only if none of them is a
link and the last one is no `&`.  Every other line with the same words, however it is quoted, is read as the same
chain. -/
theorem quoted_words_command_iff (ws : List String) (hws : ws ≠ []) (h : ∀ w ∈ ws, '\n' ∉ w.toList) :
    ((∃ c, interpret (Words.join ws) = .ok c ∧ IsCommand ws c) ↔
      (∀ w ∈ ws, w ∉ linkWords) ∧ ws.getLast? ≠ some longTermWord) ∧
    ∀ line : String, '\n' ∉ line.toList → Words.split line = .ok ws →
      interpret line = interpret (Words.join ws) := by
  obtain ⟨n, arguments, rfl⟩ := List.exists_cons_of_ne_nil hws
  refine ⟨?_, fun line hline hs => interpret_eq_interpret_join hline h hs⟩
  rw [interpret_join h]
  constructor
  · rintro ⟨c, hc, hcommand⟩
    exact linkless_of_isCommand hc hcommand
  · rintro ⟨hlinkless, hlast⟩
    exact isCommand_of_linkless hlinkless hlast

/-- Empty words, quotes, backslashes, and links and `&` within words. -/
theorem printf_quoted :
    Words.join ["printf", "", "it's", "\\\"", "a | b", "&&"] = "printf '' 'it'\"'\"'s' '\\\"' 'a | b' '&&'" ∧
    (∃ c, interpret "printf '' 'it'\"'\"'s' '\\\"' 'a | b' '&&'" = .ok c ∧
      IsCommand ["printf", "", "it's", "\\\"", "a | b", "&&"] c) ∧
    interpret "printf \"\" it\\'s \\\\\\\" a\" | \"b &&" = interpret "printf '' 'it'\"'\"'s' '\\\"' 'a | b' '&&'" := by
  have hjoin : Words.join ["printf", "", "it's", "\\\"", "a | b", "&&"]
      = "printf '' 'it'\"'\"'s' '\\\"' 'a | b' '&&'" := by decide +kernel
  obtain ⟨hcommand, hsame⟩ := quoted_words_command_iff ["printf", "", "it's", "\\\"", "a | b", "&&"]
    (List.cons_ne_nil _ _) (by decide +kernel)
  rw [hjoin] at hcommand hsame
  exact ⟨hjoin, hcommand.mpr ⟨by decide, by decide⟩, hsame _ (by decide +kernel) (by decide +kernel)⟩

/-- A bar in quotes is a link, an `&` in quotes at the end makes a chain long term, and `>` in quotes turns the
command before it into a file. -/
theorem quoted_link_is_link :
    Words.join ["sub", "t", "|"] = "sub t '|'" ∧
    interpret "sub t '|'" = .ok ⟨[⟨"sub", ["t"]⟩], [.pipe], ["sub", "t", "|"], false⟩ ∧
    (¬ ∃ c, interpret "sub t '|'" = .ok c ∧ IsCommand ["sub", "t", "|"] c) ∧
    interpret "pub t '&'" = .ok ⟨[⟨"pub", ["t"]⟩], [], ["pub", "t", "&"], false⟩ ∧
    ∃ c, interpret "sub t | grep '>'" = .ok c ∧ c.target? = some "grep" := by
  have hbar : interpret "sub t '|'" = .ok ⟨[⟨"sub", ["t"]⟩], [.pipe], ["sub", "t", "|"], false⟩ := by decide +kernel
  refine ⟨by decide +kernel, hbar, ?_, by decide +kernel,
    ⟨[⟨"sub", ["t"]⟩, ⟨"grep", []⟩], [.pipe, .write], ["sub", "t", "|", "grep", ">"], false⟩, by decide +kernel,
    by decide⟩
  rintro ⟨c, hc, _, hlinks, _⟩
  rw [hbar] at hc
  cases hc
  cases hlinks

end TopicShell.Line
