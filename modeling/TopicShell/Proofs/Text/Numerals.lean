import TopicShell.Text.Integer
import Mathlib.Data.Nat.Digits.Defs
import Mathlib.Data.List.Induction
import Mathlib.Data.List.TakeWhile

/-!
# Texts that are numbers

`Spells` says which texts stand for which numbers, without saying how a number is found: white space around, a sign or
none, and digits of any script with single underscores between them, worth what they are worth in base ten.  The reader
of numbers takes these texts and no others (`read?_eq_some_iff`).
-/

namespace TopicShell.Text

/-! ## Digits -/

/-- The character stands at the place `d` in one of the runs of ten digits. -/
def IsDigit (c : Char) (d : Nat) : Prop :=
  d < 10 ∧ ∃ z ∈ decimalZeros, c.toNat = z + d

/-- No two runs of digits share a character. -/
theorem decimalZeros_apart : ∀ z ∈ decimalZeros, ∀ y ∈ decimalZeros, z = y ∨ z + 10 ≤ y ∨ y + 10 ≤ z := by
  decide +kernel

theorem digitValue?_eq_some_iff {c : Char} {d : Nat} : digitValue? c = some d ↔ IsDigit c d := by
  constructor
  · intro h
    obtain ⟨z, hfind, rfl⟩ := Option.map_eq_some_iff.mp h
    have hin := List.find?_some hfind
    simp only [Bool.and_eq_true, decide_eq_true_eq] at hin
    exact ⟨by omega, z, List.mem_of_find?_eq_some hfind, by omega⟩
  · rintro ⟨hd, z, hz, hc⟩
    cases hfind : decimalZeros.find? fun z => z ≤ c.toNat && c.toNat < z + 10 with
    | none =>
      have hout := List.find?_eq_none.mp hfind z hz
      simp only [Bool.and_eq_true, decide_eq_true_eq] at hout
      omega
    | some y =>
      have hin := List.find?_some hfind
      simp only [Bool.and_eq_true, decide_eq_true_eq] at hin
      have hapart := decimalZeros_apart z hz y (List.mem_of_find?_eq_some hfind)
      have hsame : c.toNat - y = d := by omega
      rw [digitValue?, hfind, Option.map_some, hsame]

/-- White space, the signs and the underscore are below the digits or between two runs of them. -/
theorem not_isDigit_of_isWhite {c : Char} (h : isWhite c = true) (d : Nat) : ¬ IsDigit c d := by
  rintro ⟨hd, z, hz, hc⟩
  have houtside : ∀ z ∈ decimalZeros, 0x30 ≤ z ∧ (z + 10 ≤ 0x85 ∨ 0xa0 < z) ∧
      (z + 10 ≤ 0x1680 ∨ 0x1680 < z) ∧ (z + 10 ≤ 0x2000 ∨ 0x3000 < z) := by decide +kernel
  have hz := houtside z hz
  simp only [isWhite, Bool.or_eq_true, Bool.and_eq_true, decide_eq_true_eq, beq_iff_eq] at h
  omega

theorem IsDigit.not_mark {c : Char} {d : Nat} (h : IsDigit c d) : c ≠ '-' ∧ c ≠ '+' ∧ c ≠ '_' := by
  obtain ⟨hd, z, hz, hc⟩ := h
  have houtside : ∀ z ∈ decimalZeros, 0x30 ≤ z ∧ (z + 10 ≤ 0x5f ∨ 0x5f < z) := by decide +kernel
  have hz := houtside z hz
  refine ⟨?_, ?_, ?_⟩ <;>
    · rintro rfl
      revert hc
      simp only [show '-'.toNat = 0x2d from rfl, show '+'.toNat = 0x2b from rfl, show '_'.toNat = 0x5f from rfl]
      omega

/-! ## Trimming -/

section Trimming

variable {drop : Char → Bool}

/-- What is trimmed away stood at the two ends. -/
theorem exists_trim (drop : Char → Bool) (cs : List Char) :
    ∃ before after, cs = before ++ trim drop cs ++ after ∧ (∀ c ∈ before ++ after, drop c = true) := by
  refine ⟨cs.takeWhile drop, ((trimLeft drop cs).reverse.takeWhile drop).reverse, ?_, ?_⟩
  · have hback : trimLeft drop cs = trim drop cs ++ ((trimLeft drop cs).reverse.takeWhile drop).reverse := by
      rw [trim, trimRight, ← List.reverse_append]
      exact List.reverse_eq_iff.mp List.takeWhile_append_dropWhile.symm
    rw [List.append_assoc, ← hback]
    exact List.takeWhile_append_dropWhile.symm
  · intro c hc
    rcases List.mem_append.mp hc with hc | hc
    · exact List.mem_takeWhile_imp hc
    · exact List.mem_takeWhile_imp (List.mem_reverse.mp hc)

theorem trimLeft_append {before cs : List Char} (hbefore : ∀ c ∈ before, drop c = true) :
    trimLeft drop (before ++ cs) = trimLeft drop cs := by
  rw [trimLeft, List.dropWhile_append_of_pos hbefore, trimLeft]

theorem trimLeft_eq_self {c : Char} {cs : List Char} (h : drop c = false) : trimLeft drop (c :: cs) = c :: cs := by
  rw [trimLeft, List.dropWhile_cons_of_neg (by simp [h])]

/-- A text between two characters that are not trimmed is all that is left. -/
theorem trim_eq_of_ends {before after cs : List Char} (h : ∀ c ∈ before ++ after, drop c = true)
    (hhead : ∃ c ∈ cs.head?, drop c = false) (hlast : ∃ c ∈ cs.getLast?, drop c = false) :
    trim drop (before ++ cs ++ after) = cs := by
  obtain ⟨hbefore, hafter⟩ := List.forall_mem_append.mp h
  obtain ⟨c, hc, hcdrop⟩ := hhead
  obtain ⟨e, he, hedrop⟩ := hlast
  obtain ⟨rest, rfl⟩ := List.head?_eq_some_iff.mp hc
  obtain ⟨front, hfront⟩ := List.getLast?_eq_some_iff.mp he
  have hleft : trimLeft drop (before ++ (c :: rest) ++ after) = (c :: rest) ++ after := by
    rw [List.append_assoc, trimLeft_append hbefore, List.cons_append, trimLeft_eq_self hcdrop]
  have hafter' : ∀ c ∈ after.reverse, drop c = true := fun c hc => hafter c (List.mem_reverse.mp hc)
  rw [trim, hleft, trimRight, List.reverse_append, trimLeft_append hafter', hfront, List.reverse_append,
    List.reverse_singleton, List.singleton_append, trimLeft_eq_self hedrop, List.reverse_cons, List.reverse_reverse]

end Trimming

namespace Integer

/-! ## What a numeral is -/

/-- Digits with single underscores between them, and what each of them is worth. -/
inductive Numeral : List Char → List Nat → Prop where
  | digit {c : Char} {d : Nat} : IsDigit c d → Numeral [c] [d]
  | next {c : Char} {d : Nat} {cs : List Char} {ds : List Nat} :
      IsDigit c d → Numeral cs ds → Numeral (c :: cs) (d :: ds)
  | underscore {c : Char} {d : Nat} {cs : List Char} {ds : List Nat} :
      IsDigit c d → Numeral cs ds → Numeral (c :: '_' :: cs) (d :: ds)

/-- The text stands for the number. -/
def Spells (text : List Char) (n : Int) : Prop :=
  ∃ before sign numeral after digits,
    text = before ++ (sign ++ numeral) ++ after ∧
    (∀ c ∈ before ++ after, isWhite c = true) ∧
    Numeral numeral digits ∧ digits.length ≤ digitLimit ∧
    ((sign = [] ∨ sign = ['+']) ∧ n = (Nat.ofDigits 10 digits.reverse : Nat) ∨
      sign = ['-'] ∧ n = -((Nat.ofDigits 10 digits.reverse : Nat) : Int))

/-- A digit alone stands for what it is worth. -/
theorem spells_digit {c : Char} {d : Nat} (h : IsDigit c d) : Spells [c] d := by
  have hlength : 1 ≤ digitLimit := by decide
  refine ⟨[], [], [c], [], [d], rfl, nofun, .digit h, hlength, .inl ⟨.inl rfl, ?_⟩⟩
  rw [List.reverse_singleton, Nat.ofDigits_singleton]

/-! ## What the reader finds -/

theorem value_eq_ofDigits (digits : List Nat) : value digits = Nat.ofDigits 10 digits.reverse := by
  induction digits using List.reverseRecOn with
  | nil => rfl
  | append_singleton digits d ih =>
    rw [value_append_one, ih, List.reverse_append, List.reverse_singleton, List.singleton_append, Nat.ofDigits_cons,
      Nat.add_comm]

theorem Numeral.head_isDigit {cs : List Char} {ds : List Nat} (h : Numeral cs ds) :
    ∃ c rest d, cs = c :: rest ∧ IsDigit c d := by
  cases h with
  | digit hc | next hc _ | underscore hc _ => exact ⟨_, _, _, rfl, hc⟩

theorem Numeral.last_isDigit {cs : List Char} {ds : List Nat} (h : Numeral cs ds) :
    ∃ front c d, cs = front ++ [c] ∧ IsDigit c d := by
  induction h with
  | digit hc => exact ⟨[], _, _, rfl, hc⟩
  | @next c _ _ _ _ _ ih =>
    obtain ⟨front, e, d, rfl, he⟩ := ih
    exact ⟨c :: front, e, d, rfl, he⟩
  | @underscore c _ _ _ _ _ ih =>
    obtain ⟨front, e, d, rfl, he⟩ := ih
    exact ⟨c :: '_' :: front, e, d, rfl, he⟩

theorem readDigits_of_numeral {cs : List Char} {ds : List Nat} (h : Numeral cs ds) (after : Bool) :
    readDigits digitValue? after cs = some ds := by
  induction h generalizing after with
  | digit hc => rw [readDigits, digitValue?_eq_some_iff.mpr hc]; rfl
  | next hc _ ih => rw [readDigits, digitValue?_eq_some_iff.mpr hc, ih]; rfl
  | underscore hc _ ih =>
    have hmark : digitValue? '_' = none := by decide
    have hrest := ih false
    rw [readDigits, digitValue?_eq_some_iff.mpr hc, readDigits, hmark]
    simp [hrest]

/-- The digit in front is what allows an underscore, so the two states of the reader are taken together. -/
theorem numeral_of_readDigits (cs : List Char) :
    (∀ ds, readDigits digitValue? false cs = some ds → Numeral cs ds) ∧
    ∀ ds, readDigits digitValue? true cs = some ds → ∀ c d, IsDigit c d → Numeral (c :: cs) (d :: ds) := by
  induction cs with
  | nil =>
    refine ⟨nofun, fun ds h c d hc => ?_⟩
    cases h
    exact .digit hc
  | cons e rest ih =>
    cases hvalue : digitValue? e with
    | some d =>
      have he : IsDigit e d := digitValue?_eq_some_iff.mp hvalue
      have hnumeral : ∀ after ds, readDigits digitValue? after (e :: rest) = some ds → Numeral (e :: rest) ds := by
        intro after ds h
        simp only [readDigits, hvalue, Option.map_eq_some_iff] at h
        obtain ⟨ds, hds, rfl⟩ := h
        exact ih.2 ds hds e d he
      exact ⟨hnumeral false, fun ds h c d hc => .next hc (hnumeral true ds h)⟩
    | none =>
      refine ⟨fun ds h => ?_, fun ds h c d hc => ?_⟩
      · simp [readDigits, hvalue] at h
      · simp only [readDigits, hvalue, Bool.and_true, decide_eq_true_eq, Option.ite_none_right_eq_some] at h
        obtain ⟨rfl, hds⟩ := h
        exact .underscore hc (ih.1 ds hds)

theorem readDigits_eq_some_iff {cs : List Char} {ds : List Nat} :
    readDigits digitValue? false cs = some ds ↔ Numeral cs ds :=
  ⟨(numeral_of_readDigits cs).1 ds, fun h => readDigits_of_numeral h false⟩

theorem signOf_append {sign numeral : List Char} {ds : List Nat} (h : Numeral numeral ds)
    (hsign : sign = [] ∨ sign = ['+'] ∨ sign = ['-']) :
    signOf (sign ++ numeral) = (decide (sign = ['-']), numeral) := by
  obtain ⟨c, rest, d, rfl, hc⟩ := h.head_isDigit
  obtain ⟨hminus, hplus, _⟩ := hc.not_mark
  rcases hsign with rfl | rfl | rfl
  · rw [List.nil_append, signOf.eq_def]
    split <;> simp_all
  · rfl
  · rfl

theorem exists_signOf (cs : List Char) : ∃ sign, cs = sign ++ (signOf cs).2 ∧
    ((signOf cs).1 = false ∧ (sign = [] ∨ sign = ['+']) ∨ (signOf cs).1 = true ∧ sign = ['-']) := by
  unfold signOf
  split
  · exact ⟨['-'], rfl, .inr ⟨rfl, rfl⟩⟩
  · exact ⟨['+'], rfl, .inl ⟨rfl, .inr rfl⟩⟩
  · exact ⟨[], rfl, .inl ⟨rfl, .inl rfl⟩⟩

/-- The end of a number is a digit, and its start is a sign or a digit. -/
theorem trim_signed {before sign numeral after : List Char} {ds : List Nat} (h : Numeral numeral ds)
    (hsign : sign = [] ∨ sign = ['+'] ∨ sign = ['-']) (hwhite : ∀ c ∈ before ++ after, isWhite c = true) :
    trim isWhite (before ++ (sign ++ numeral) ++ after) = sign ++ numeral := by
  have hdigit : ∀ {c d}, IsDigit c d → isWhite c = false := fun hc =>
    Bool.eq_false_iff.mpr fun hw => not_isDigit_of_isWhite hw _ hc
  refine trim_eq_of_ends hwhite ?_ ?_
  · obtain ⟨c, rest, d, rfl, hc⟩ := h.head_isDigit
    rcases hsign with rfl | rfl | rfl
    · exact ⟨c, rfl, hdigit hc⟩
    · exact ⟨'+', rfl, rfl⟩
    · exact ⟨'-', rfl, rfl⟩
  · obtain ⟨front, c, d, rfl, hc⟩ := h.last_isDigit
    refine ⟨c, ?_, hdigit hc⟩
    rw [← List.append_assoc, List.getLast?_concat]
    rfl

/-- A text is read as a number if and only if it stands for it. -/
theorem read?_eq_some_iff {s : String} {n : Int} : read? s = some n ↔ Spells s.toList n := by
  constructor
  · intro h
    obtain ⟨before, after, htext, hwhite⟩ := exists_trim isWhite s.toList
    obtain ⟨sign, hsigned, hsign⟩ := exists_signOf (trim isWhite s.toList)
    simp only [read?] at h
    cases hdigits : readDigits digitValue? false (signOf (trim isWhite s.toList)).2 with
    | none => simp [hdigits] at h
    | some digits =>
      simp only [hdigits, Option.ite_none_right_eq_some, Option.some.injEq] at h
      obtain ⟨hlength, rfl⟩ := h
      refine ⟨before, sign, _, after, digits, ?_, hwhite, readDigits_eq_some_iff.mp hdigits, hlength, ?_⟩
      · rw [← hsigned, ← htext]
      · rw [← value_eq_ofDigits, signed]
        rcases hsign with ⟨hpositive, hsign⟩ | ⟨hnegative, hsign⟩
        · exact .inl ⟨hsign, if_neg (by simp [hpositive])⟩
        · exact .inr ⟨hsign, if_pos hnegative⟩
  · rintro ⟨before, sign, numeral, after, digits, htext, hwhite, hnumeral, hlength, hvalue⟩
    have hsign : sign = [] ∨ sign = ['+'] ∨ sign = ['-'] := by
      rcases hvalue with ⟨hsign | hsign, _⟩ | ⟨hsign, _⟩
      · exact .inl hsign
      · exact .inr (.inl hsign)
      · exact .inr (.inr hsign)
    simp only [read?, htext, trim_signed hnumeral hsign hwhite, signOf_append hnumeral hsign,
      readDigits_of_numeral hnumeral, if_pos hlength, Option.some.injEq]
    rw [value_eq_ofDigits]
    rcases hvalue with ⟨rfl | rfl, rfl⟩ | ⟨rfl, rfl⟩ <;> rfl

theorem spells_unique {text : List Char} {n m : Int} (hn : Spells text n) (hm : Spells text m) : n = m := by
  have hread : ∀ k, Spells text k → read? (String.ofList text) = some k := fun k hk =>
    read?_eq_some_iff.mpr (by rwa [String.toList_ofList])
  exact Option.some.inj ((hread n hn).symm.trans (hread m hm))

end Integer

end TopicShell.Text
