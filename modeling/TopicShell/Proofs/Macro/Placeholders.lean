import TopicShell.Macro.Placeholder
import Mathlib.Data.List.TakeWhile
import Mathlib.Tactic.SplitIfs

/-!
# Filling in one pass

`fill` goes over a command three times: it marks the escaped dollars, puts the arguments in, and turns the
marks into dollars.  `fillOnce` says in one pass from left to right what should come out, so that nothing that
was put in is looked at again.  The two agree whenever neither the command nor an argument has the character
that the mark is made with, and no run of digits is too long to be read (`fill_eq_fillOnce`).
-/

namespace TopicShell.Macro.Placeholder

open Text

/-! ## One pass -/

def isDecimal (c : Char) : Bool :=
  (digitValue? c).isSome

/-- The number at the front of a text. -/
def numberAt? (cs : List Char) : Option Nat :=
  if cs.takeWhile isDecimal = [] then none
  else some (Integer.value ((cs.takeWhile isDecimal).filterMap digitValue?))

/-- The argument that the number at the front of a text stands for; arguments are counted from one. -/
def argumentAt? (values : List String) (cs : List Char) : Option (List Char) :=
  match numberAt? cs with
  | some n => if 1 ≤ n ∧ n ≤ values.length then (values[n - 1]?).map String.toList else none
  | none => none

/-- A command filled in one pass: an escaped dollar becomes a dollar, a dollar and the number of an argument
become the argument, and everything else stays. -/
def fillOnce (values : List String) : List Char → List Char
  | [] => []
  | '\\' :: '$' :: rest => '$' :: fillOnce values rest
  | '$' :: rest =>
    match argumentAt? values rest with
    | some value => value ++ fillOnce values (rest.dropWhile isDecimal)
    | none => '$' :: fillOnce values rest
  | c :: rest => c :: fillOnce values rest
termination_by cs => cs.length
decreasing_by
  all_goals simp only [List.length_cons]
  · omega
  · exact Nat.lt_succ_of_le (List.dropWhile_suffix _).length_le
  · omega
  · omega

/-! ## Escaped dollars -/

/-- The command with its escaped dollars marked. -/
def marked (cs : List Char) : List Char :=
  replace escapedDollar dollarMark cs

theorem marked_escape (rest : List Char) : marked ('\\' :: '$' :: rest) = dollarMark ++ marked rest := by
  show replace escapedDollar dollarMark (escapedDollar ++ rest) = _
  exact replace_append (by decide) dollarMark rest

theorem marked_cons {c : Char} {rest : List Char} (h : ¬ (c = '\\' ∧ ∃ r, rest = '$' :: r)) :
    marked (c :: rest) = c :: marked rest := by
  refine replace_cons ?_ dollarMark
  rintro ⟨r, hr⟩
  cases hr
  exact h ⟨rfl, r, rfl⟩

/-! ## Runs of digits -/

/-- No digit stands at the front. -/
def NoDigit (cs : List Char) : Prop :=
  ∀ c ∈ cs.head?, isDecimal c = false

/-- The digits at the front of a text, and what comes after them. -/
theorem exists_run (cs : List Char) :
    ∃ run tail, cs = run ++ tail ∧ (∀ c ∈ run, isDecimal c = true) ∧ NoDigit tail := by
  refine ⟨_, _, (List.takeWhile_append_dropWhile (p := isDecimal)).symm,
    fun c hc => List.mem_takeWhile_imp hc, ?_⟩
  intro c hc
  have hnot := List.head?_dropWhile_not isDecimal cs
  rw [Option.mem_def.mp hc] at hnot
  simpa using hnot

section Run

variable {run tail : List Char}

theorem takeWhile_run (hrun : ∀ c ∈ run, isDecimal c = true) (htail : NoDigit tail) :
    (run ++ tail).takeWhile isDecimal = run := by
  rw [List.takeWhile_append_of_pos hrun]
  cases tail with
  | nil => simp
  | cons c tail =>
    have hc : isDecimal c = false := htail c rfl
    rw [List.takeWhile_cons_of_neg (by simp [hc]), List.append_nil]

theorem dropWhile_run (hrun : ∀ c ∈ run, isDecimal c = true) (htail : NoDigit tail) :
    (run ++ tail).dropWhile isDecimal = tail := by
  have h := List.takeWhile_append_dropWhile (p := isDecimal) (l := run ++ tail)
  rw [takeWhile_run hrun htail] at h
  exact List.append_cancel_left h

theorem digitsAt_run (hrun : ∀ c ∈ run, isDecimal c = true) (htail : NoDigit tail) :
    digitsAt (run ++ tail) = run.filterMap digitValue? ∧ (digitsAt (run ++ tail)).length = run.length := by
  induction run with
  | nil =>
    cases tail with
    | nil => exact ⟨rfl, rfl⟩
    | cons c tail =>
      have hc : digitValue? c = none := by simpa [isDecimal] using htail c rfl
      simp [digitsAt, hc]
  | cons c run ih =>
    obtain ⟨d, hd⟩ := Option.isSome_iff_exists.mp (hrun c List.mem_cons_self)
    obtain ⟨hdigits, hlength⟩ := ih fun x hx => hrun x (List.mem_cons_of_mem c hx)
    rw [List.cons_append, digitsAt, hd]
    exact ⟨by rw [List.filterMap_cons_some hd, hdigits], congrArg (· + 1) hlength⟩

/-- Marking leaves the number at the front of a text alone. -/
theorem marked_run (hrun : ∀ c ∈ run, isDecimal c = true) (rest : List Char) :
    marked (run ++ rest) = run ++ marked rest := by
  induction run with
  | nil => rfl
  | cons c run ih =>
    have hc : isDecimal c = true := hrun c List.mem_cons_self
    rw [List.cons_append, marked_cons, ih fun x hx => hrun x (List.mem_cons_of_mem c hx), List.cons_append]
    rintro ⟨rfl, _⟩
    exact absurd hc (by decide)

theorem NoDigit.marked (h : NoDigit tail) : NoDigit (marked tail) := by
  cases tail with
  | nil => exact h
  | cons c rest =>
    by_cases he : c = '\\' ∧ ∃ r, rest = '$' :: r
    · obtain ⟨rfl, r, rfl⟩ := he
      rw [marked_escape]
      intro x hx
      have hmark : dollarMark.head? = some '\x00' := by decide
      rw [List.head?_append, hmark] at hx
      cases hx
      decide
    · rw [marked_cons he]
      exact h

end Run

/-! ## Substituting -/

section Substituting

variable {value? : Nat → Option (List Char)}

theorem substituteFrom_drop (skip : Nat) (cs : List Char) :
    substituteFrom value? skip cs = substitute value? (cs.drop skip) := by
  induction skip generalizing cs with
  | zero => rfl
  | succ skip ih =>
    cases cs with
    | nil => rfl
    | cons c rest => exact ih rest

theorem substitute_cons_of_no_digit {c : Char} {rest : List Char} (h : c = '$' → NoDigit rest) :
    substitute value? (c :: rest) = (substitute value? rest).map (c :: ·) := by
  have hdigits : (if c = '$' then digitsAt rest else []) = [] := by
    split_ifs with hc
    · exact (@digitsAt_run [] rest (by simp) (h hc)).1
    · rfl
  rw [substitute, substituteFrom, hdigits]
  rfl

theorem substitute_append {front : List Char} (h : '$' ∉ front) (rest : List Char) :
    substitute value? (front ++ rest) = (substitute value? rest).map (front ++ ·) := by
  induction front with
  | nil =>
    rw [List.nil_append]
    cases substitute value? rest <;> rfl
  | cons c front ih =>
    simp only [List.mem_cons, not_or] at h
    rw [List.cons_append, substitute_cons_of_no_digit (fun hc => absurd hc.symm h.1), ih h.2]
    cases substitute value? rest <;> rfl

/-- A number after a dollar becomes the value it stands for, or stays. -/
theorem substitute_run {run tail : List Char} (hrun : ∀ c ∈ run, isDecimal c = true) (htail : NoDigit tail)
    (hsome : run ≠ []) (hshort : run.length ≤ Integer.digitLimit) :
    substitute value? ('$' :: (run ++ tail)) = (substitute value? tail).map
      ((value? (Integer.value (run.filterMap digitValue?))).getD ('$' :: run) ++ ·) := by
  obtain ⟨hdigits, hlength⟩ := digitsAt_run hrun htail
  have hne : (digitsAt (run ++ tail)).isEmpty = false := by
    rw [← Bool.not_eq_true, List.isEmpty_iff_length_eq_zero, hlength]
    simpa using hsome
  have hindex : indexOf (digitsAt (run ++ tail)) = .ok (Integer.value (run.filterMap digitValue?)) := by
    rw [indexOf, if_pos (by rw [hlength]; exact hshort), hdigits]
  rw [substitute, substituteFrom]
  simp only [if_true, hne, Bool.false_eq_true, if_false, hindex, substituteFrom_drop, hlength,
    List.drop_left, List.take_left]
  rfl

/-- A dollar before no number, or before one that stands for no value, stays. -/
theorem substitute_dollar {run tail : List Char} (hrun : ∀ c ∈ run, isDecimal c = true)
    (htail : NoDigit tail) (hshort : run.length ≤ Integer.digitLimit)
    (hnone : run ≠ [] → value? (Integer.value (run.filterMap digitValue?)) = none) :
    substitute value? ('$' :: (run ++ tail)) = (substitute value? (run ++ tail)).map ('$' :: ·) := by
  by_cases hsome : run = []
  · subst hsome
    exact substitute_cons_of_no_digit fun _ => htail
  · have hdollar : '$' ∉ run := fun h => absurd (hrun _ h) (by decide)
    rw [substitute_run hrun htail hsome hshort, hnone hsome, substitute_append hdollar]
    cases substitute value? tail <;> rfl

end Substituting

/-! ## The three passes as one -/

/-- The marks turned into dollars. -/
def unmarked (cs : List Char) : List Char :=
  replace dollarMark ['$'] cs

theorem unmarked_mark (rest : List Char) : unmarked (dollarMark ++ rest) = '$' :: unmarked rest :=
  replace_append (by decide) ['$'] rest

theorem unmarked_append {front : List Char} (h : '\x00' ∉ front) (rest : List Char) :
    unmarked (front ++ rest) = front ++ unmarked rest := by
  induction front with
  | nil => rfl
  | cons c front ih =>
    simp only [List.mem_cons, not_or] at h
    rw [List.cons_append, unmarked, replace_cons, ← unmarked, ih h.2, List.cons_append]
    rintro ⟨r, hr⟩
    exact h.1 (List.cons.inj hr).1

theorem valueOf?_eq (values : List String) (n : Nat) :
    valueOf? values n
      = if 1 ≤ n ∧ n ≤ values.length then (values[n - 1]?).map String.toList else none := by
  cases n with
  | zero => rfl
  | succ i =>
    by_cases h : i + 1 ≤ values.length
    · rw [if_pos ⟨Nat.le_add_left 1 i, h⟩]
      rfl
    · rw [if_neg fun hn => h hn.2, valueOf?, List.getElem?_eq_none (by omega)]
      rfl

theorem argumentAt?_run {run tail : List Char} (hrun : ∀ c ∈ run, isDecimal c = true) (htail : NoDigit tail)
    (hsome : run ≠ []) (values : List String) :
    argumentAt? values (run ++ tail) = valueOf? values (Integer.value (run.filterMap digitValue?)) := by
  rw [argumentAt?, numberAt?, takeWhile_run hrun htail, if_neg hsome, valueOf?_eq]

theorem argumentAt?_of_no_digit {cs : List Char} (h : NoDigit cs) (values : List String) :
    argumentAt? values cs = none := by
  have hrun : cs.takeWhile isDecimal = [] := @takeWhile_run [] cs (by simp) h
  rw [argumentAt?, numberAt?, if_pos hrun]

theorem not_mem_argumentAt? {values : List String} {x : Char} (h : ∀ v ∈ values, x ∉ v.toList)
    {cs value : List Char} (hv : argumentAt? values cs = some value) : x ∉ value := by
  rw [argumentAt?] at hv
  split at hv
  · split_ifs at hv
    obtain ⟨v, hget, rfl⟩ := Option.map_eq_some_iff.mp hv
    exact h v (List.mem_of_getElem? hget)
  · cases hv

/-- No number in the text is too long to be read. -/
def ShortNumbers (cs : List Char) : Prop :=
  ∀ run, run <:+: cs → (∀ c ∈ run, isDecimal c = true) → run.length ≤ Integer.digitLimit

theorem ShortNumbers.of_suffix {cs cs' : List Char} (h : ShortNumbers cs) (hs : cs' <:+ cs) :
    ShortNumbers cs' :=
  fun run hr => h run (hr.trans hs.isInfix)

theorem ShortNumbers.of_length {cs : List Char} (h : cs.length ≤ Integer.digitLimit) : ShortNumbers cs :=
  fun _ hr _ => hr.length_le.trans h

/-- What is substituted in the marked command is, but for the marks, what one pass makes of the command. -/
theorem substitute_marked {values : List String} (hvalues : ∀ v ∈ values, '\x00' ∉ v.toList) {cs : List Char}
    (hcs : '\x00' ∉ cs) (hshort : ShortNumbers cs) :
    ∃ out, substitute (valueOf? values) (marked cs) = .ok out ∧ unmarked out = fillOnce values cs := by
  induction cs using fillOnce.induct values with
  | case1 => exact ⟨[], rfl, by rw [fillOnce]; rfl⟩
  | case2 rest ih =>
    simp only [List.mem_cons, not_or] at hcs
    obtain ⟨out, hout, hfill⟩ := ih hcs.2.2 (hshort.of_suffix ⟨['\\', '$'], rfl⟩)
    refine ⟨dollarMark ++ out, ?_, ?_⟩
    · rw [marked_escape, substitute_append (by decide), hout]
      rfl
    · rw [unmarked_mark, hfill, fillOnce]
  | case3 rest value hvalue ih =>
    obtain ⟨run, tail, rfl, hrun, htail⟩ := exists_run rest
    rw [dropWhile_run hrun htail] at ih
    simp only [List.mem_cons, List.mem_append, not_or] at hcs
    have hsome : run ≠ [] := by
      rintro rfl
      rw [List.nil_append, argumentAt?_of_no_digit htail] at hvalue
      cases hvalue
    have hlength : run.length ≤ Integer.digitLimit := hshort run ⟨['$'], tail, by simp⟩ hrun
    obtain ⟨out, hout, hfill⟩ := ih hcs.2.2 (hshort.of_suffix ⟨'$' :: run, by simp⟩)
    refine ⟨value ++ out, ?_, ?_⟩
    · rw [argumentAt?_run hrun htail hsome] at hvalue
      rw [marked_cons (by simp), marked_run hrun, substitute_run hrun htail.marked hsome hlength, hvalue,
        hout]
      rfl
    · rw [unmarked_append (not_mem_argumentAt? hvalues hvalue), hfill, fillOnce, hvalue]
      rw [dropWhile_run hrun htail]
  | case4 rest hnone ih =>
    simp only [List.mem_cons, not_or] at hcs
    obtain ⟨out, hout, hfill⟩ := ih hcs.2 (hshort.of_suffix ⟨['$'], rfl⟩)
    refine ⟨'$' :: out, ?_, ?_⟩
    · obtain ⟨run, tail, rfl, hrun, htail⟩ := exists_run rest
      rw [marked_cons (by simp), marked_run hrun, substitute_dollar hrun htail.marked, ← marked_run hrun, hout]
      · rfl
      · exact hshort run ⟨['$'], tail, by simp⟩ hrun
      · intro hsome
        rw [← argumentAt?_run hrun htail hsome, hnone]
    · rw [← List.singleton_append, unmarked_append (by decide), hfill, fillOnce, hnone]
      · rfl
  | case5 c rest hescape hdollar ih =>
    simp only [List.mem_cons, not_or] at hcs
    obtain ⟨out, hout, hfill⟩ := ih hcs.2 (hshort.of_suffix ⟨[c], rfl⟩)
    have hkeep : ¬ (c = '\\' ∧ ∃ r, rest = '$' :: r) := by
      rintro ⟨rfl, r, rfl⟩
      exact hescape r rfl rfl
    refine ⟨c :: out, ?_, ?_⟩
    · rw [marked_cons hkeep, substitute_cons_of_no_digit (fun hc => absurd hc hdollar), hout]
      rfl
    · rw [← List.singleton_append, unmarked_append (by simpa using hcs.1), hfill, fillOnce]
      · rfl
      · exact hescape
      · exact hdollar

/-- **Filling is one pass.**  The three passes of `fill` come to the same as one pass from left to right. -/
theorem fill_eq_fillOnce {values : List String} (hvalues : ∀ v ∈ values, '\x00' ∉ v.toList)
    {command : List Char} (hcommand : '\x00' ∉ command) (hshort : ShortNumbers command) :
    fill (valueOf? values) command = .ok (fillOnce values command) := by
  obtain ⟨out, hout, hfill⟩ := substitute_marked hvalues hcommand hshort
  rw [← hfill]
  show (substitute (valueOf? values) (marked command) >>= fun filled => pure (unmarked filled)) = _
  rw [hout]
  rfl

example : fillOnce ["a", "$1"] "x$2 $3\\$1".toList = "x$1 $3$1".toList := by decide +kernel

end TopicShell.Macro.Placeholder
