import TopicShell.Text.Escape
import Mathlib.Algebra.Group.Nat.Defs
import Mathlib.Data.List.TakeWhile
import Mathlib.Tactic.SplitIfs

/-!
# What escapes stand for

`Denotes` lists the escapes and what each one stands for; an octal one goes on as far as it can.  `Reads` goes through a
text from left to right, reads every escape, and keeps everything else: characters of any kind, and a backslash that
starts no escape together with the character behind it.

* `Denotes.readEscape_eq`, `readEscape_kept`, `readEscape_cases`: one step of the reading is an escape or such a
  backslash, and no other one succeeds;
* `numbers_eq_ok_iff`: the whole reading succeeds with what the text is read as, and with nothing else;
* `reads_spell_iff`: a character that is written as an escape is read as itself.
-/

namespace TopicShell.Text.Escape

/-! ## Numbers in digits -/

/-- The number that digits come to in a base. -/
def numeral (base : Nat) (digit? : Char → Option Nat) (digits : List Char) : Nat :=
  (digits.filterMap digit?).foldl (fun n d => base * n + d) 0

/-- The digits go on as far as they can, but not beyond the width. -/
structure FillsWidth (digit? : Char → Option Nat) (width : Nat) (digits rest : List Char) : Prop where
  are_digits : ∀ c ∈ digits, (digit? c).isSome = true
  length_le : digits.length ≤ width
  stops : digits.length = width ∨ ∀ c ∈ rest.head?, digit? c = none

section Digits

variable {base width : Nat} {digit? : Char → Option Nat}

theorem exists_fillsWidth (digit? : Char → Option Nat) (width : Nat) (cs : List Char) :
    ∃ digits rest, cs = digits ++ rest ∧ FillsWidth digit? width digits rest := by
  induction width generalizing cs with
  | zero => exact ⟨[], cs, rfl, ⟨fun _ h => absurd h List.not_mem_nil, Nat.le_refl 0, .inl rfl⟩⟩
  | succ width ih =>
    have hnone : (∀ c ∈ cs.head?, digit? c = none) → FillsWidth digit? (width + 1) [] cs := fun h =>
      ⟨fun _ h => absurd h List.not_mem_nil, Nat.zero_le _, .inr h⟩
    cases cs with
    | nil => exact ⟨[], [], rfl, hnone fun _ h => nomatch h⟩
    | cons c cs =>
      cases hc : digit? c with
      | none =>
        refine ⟨[], c :: cs, rfl, hnone fun d hd => ?_⟩
        obtain rfl : c = d := Option.some.inj hd
        exact hc
      | some d =>
        obtain ⟨digits, rest, rfl, hdigits, hlength, hstops⟩ := ih cs
        refine ⟨c :: digits, rest, rfl, List.forall_mem_cons.mpr ⟨hc ▸ rfl, hdigits⟩, Nat.succ_le_succ hlength, ?_⟩
        exact hstops.imp_left (congrArg Nat.succ)

theorem takeDigits_eq {digits rest : List Char} (h : FillsWidth digit? width digits rest) (n : Nat) :
    takeDigits base digit? width n (digits ++ rest)
      = ((digits.filterMap digit?).foldl (fun n d => base * n + d) n, digits.length, rest) := by
  induction digits generalizing width n with
  | nil =>
    cases width with
    | zero => rw [takeDigits]; rfl
    | succ width =>
      have hnone := h.stops.resolve_left (Nat.succ_ne_zero width).symm
      cases rest with
      | nil => rfl
      | cons c rest =>
        rw [List.nil_append, takeDigits, hnone c rfl]
        rfl
  | cons c digits ih =>
    obtain ⟨hc, hdigits⟩ := List.forall_mem_cons.mp h.are_digits
    obtain ⟨d, hd⟩ := Option.isSome_iff_exists.mp hc
    cases width with
    | zero => exact absurd h.length_le (Nat.not_succ_le_zero _)
    | succ width =>
      have hrest : FillsWidth digit? width digits rest :=
        ⟨hdigits, Nat.le_of_succ_le_succ h.length_le, h.stops.imp_left Nat.succ.inj⟩
      rw [List.cons_append, takeDigits, hd]
      dsimp only
      rw [ih hrest, List.filterMap_cons_some hd]
      rfl

end Digits

/-! ## Escapes -/

/-- The escapes of one character behind the backslash; the end of a line stands for nothing. -/
def shortEscapes : List (Char × List Nat) := [
  ('\n', []), ('\\', [0x5c]), ('\'', [0x27]), ('"', [0x22]), ('a', [7]), ('b', [8]), ('f', [12]), ('n', [10]),
  ('r', [13]), ('t', [9]), ('v', [11])]

/-- The letters of hexadecimal escapes, with the number of their digits. -/
def hexEscapes : List (Char × Nat) := [('x', 2), ('u', 4), ('U', 8)]

def octalDigits : List Char := ['0', '1', '2', '3', '4', '5', '6', '7']

/-- What stands behind a backslash, up to `rest`, and the numbers of the characters that it stands for. -/
inductive Denotes (names : Names) (rest : List Char) : List Char → List Nat → Prop
  | short {c : Char} {value : List Nat} : (c, value) ∈ shortEscapes → Denotes names rest [c] value
  | hex {letter : Char} {width : Nat} {digits : List Char} : (letter, width) ∈ hexEscapes → digits.length = width →
      (∀ c ∈ digits, (hexValue? c).isSome = true) → numeral 16 hexValue? digits < 0x110000 →
      Denotes names rest (letter :: digits) [numeral 16 hexValue? digits]
  | octal {digits : List Char} : digits ≠ [] → FillsWidth octalValue? 3 digits rest →
      Denotes names rest digits [numeral 8 octalValue? digits]
  | name {name : List Char} {c : Char} : name ≠ [] → '\x7d' ∉ name → names name = some c →
      Denotes names rest ('N' :: '\x7b' :: (name ++ ['\x7d'])) [c.toNat]

/-- The characters that start an escape behind a backslash. -/
def escapeStarts : List Char :=
  shortEscapes.map Prod.fst ++ hexEscapes.map Prod.fst ++ 'N' :: octalDigits

/-- A text is read from left to right as a row of numbers of characters. -/
inductive Reads (names : Names) : List Char → List Nat → Prop
  | nil : Reads names [] []
  | plain {c : Char} {rest : List Char} {out : List Nat} : c ≠ '\\' → Reads names rest out →
      Reads names (c :: rest) (c.toNat :: out)
  | escape {e rest : List Char} {value out : List Nat} : Denotes names rest e value → Reads names rest out →
      Reads names ('\\' :: (e ++ rest)) (value ++ out)
  | kept {c : Char} {rest : List Char} {out : List Nat} : c ∉ escapeStarts → Reads names rest out →
      Reads names ('\\' :: c :: rest) ('\\'.toNat :: c.toNat :: out)

/-! ## One step -/

theorem readEscape_short (names : Names) {c : Char} {value : List Nat} (h : (c, value) ∈ shortEscapes)
    (rest : List Char) : readEscape names (c :: rest) = .ok (value, 2, rest) := by
  simp only [shortEscapes, List.mem_cons, Prod.mk.injEq, List.not_mem_nil, or_false] at h
  rcases h with ⟨rfl, rfl⟩ | ⟨rfl, rfl⟩ | ⟨rfl, rfl⟩ | ⟨rfl, rfl⟩ | ⟨rfl, rfl⟩ | ⟨rfl, rfl⟩ | ⟨rfl, rfl⟩ | ⟨rfl, rfl⟩ |
    ⟨rfl, rfl⟩ | ⟨rfl, rfl⟩ | ⟨rfl, rfl⟩ <;> rfl

theorem readEscape_hex (names : Names) {letter : Char} {width : Nat} (h : (letter, width) ∈ hexEscapes) :
    ∃ short, ∀ rest, readEscape names (letter :: rest) = numbered width short rest := by
  simp only [hexEscapes, List.mem_cons, Prod.mk.injEq, List.not_mem_nil, or_false] at h
  rcases h with ⟨rfl, rfl⟩ | ⟨rfl, rfl⟩ | ⟨rfl, rfl⟩ <;> exact ⟨_, fun _ => rfl⟩

theorem octalValue?_isSome_iff {c : Char} : (octalValue? c).isSome = true ↔ c ∈ octalDigits := by
  constructor
  · intro h
    have hbounds : '0' ≤ c ∧ c ≤ '7' := by simpa [octalValue?] using h
    have hlow : 48 ≤ c.toNat := hbounds.1
    have hhigh : c.toNat ≤ 55 := hbounds.2
    have hnumber : c.toNat ∈ octalDigits.map Char.toNat := by
      simp only [octalDigits, List.map_cons, List.map_nil, List.mem_cons, Char.reduceToNat]
      omega
    obtain ⟨d, hd, hdc⟩ := List.mem_map.mp hnumber
    exact Char.toNat_inj.mp hdc ▸ hd
  · intro h
    have hall : ∀ d ∈ octalDigits, (octalValue? d).isSome = true := List.all_eq_true.mp (by decide)
    exact hall c h

theorem readEscape_octal (names : Names) {digits rest : List Char} (hne : digits ≠ [])
    (h : FillsWidth octalValue? 3 digits rest) :
    readEscape names (digits ++ rest) = .ok ([numeral 8 octalValue? digits], 1 + digits.length, rest) := by
  obtain ⟨c, digits', rfl⟩ := List.exists_cons_of_ne_nil hne
  have hc : c ∈ octalDigits := octalValue?_isSome_iff.mp (h.are_digits c List.mem_cons_self)
  have hread : ∀ cs, readEscape names (c :: cs)
      = .ok ([(takeDigits 8 octalValue? 3 0 (c :: cs)).1], 1 + (takeDigits 8 octalValue? 3 0 (c :: cs)).2.1,
        (takeDigits 8 octalValue? 3 0 (c :: cs)).2.2) := by
    intro cs
    simp only [octalDigits, List.mem_cons, List.not_mem_nil, or_false] at hc
    rcases hc with rfl | rfl | rfl | rfl | rfl | rfl | rfl | rfl <;> rfl
  rw [List.cons_append, hread, ← List.cons_append, takeDigits_eq h]
  rfl

theorem readEscape_kept (names : Names) {c : Char} (h : c ∉ escapeStarts) (rest : List Char) :
    readEscape names (c :: rest) = .ok (['\\'.toNat, c.toNat], 2, rest) := by
  have hoctal : ¬ (octalValue? c).isSome = true := fun hc =>
    h (List.mem_append_right _ (List.mem_cons_of_mem _ (octalValue?_isSome_iff.mp hc)))
  simp only [escapeStarts, shortEscapes, hexEscapes, List.map_cons, List.map_nil, List.cons_append, List.nil_append,
    List.mem_cons, not_or] at h
  have hshort : short? c = none := by
    unfold short?
    split <;> simp_all only [not_true_eq_false, false_and, and_false]
  rw [readEscape, hshort]
  simp only [h, hoctal, if_false]
  rfl

/-- Digits of a fixed width are a number if there are enough of them and the number is one of a character. -/
theorem numbered_eq {width : Nat} {digits rest : List Char} (short : Reason)
    (h : FillsWidth hexValue? width digits rest) :
    numbered width short (digits ++ rest)
      = if digits.length < width then .error (2 + digits.length, short)
        else if 0x110000 ≤ numeral 16 hexValue? digits then .error (2 + width, .outOfRange)
        else .ok ([numeral 16 hexValue? digits], 2 + width, rest) := by
  rw [numbered, takeDigits_eq h]
  rfl

theorem byName_eq {name rest : List Char} (names : Names) (h : '\x7d' ∉ name) :
    byName names ('\x7b' :: (name ++ '\x7d' :: rest))
      = if name.isEmpty then .error (3, .malformedName)
        else (names name).elim (.error (4 + name.length, .unknownName)) fun c =>
          .ok ([c.toNat], 4 + name.length, rest) := by
  have hname : (name ++ '\x7d' :: rest).takeWhile (· ≠ '\x7d') = name := by
    rw [List.takeWhile_append_of_pos fun c hc => decide_eq_true (ne_of_mem_of_not_mem hc h)]
    simp
  simp only [byName, hname, List.drop_left]
  cases names name <;> rfl

theorem byName_cases (names : Names) {cs : List Char} {value : List Nat} {n : Nat} {rest : List Char}
    (h : byName names cs = .ok (value, n, rest)) :
    ∃ name c, cs = '\x7b' :: (name ++ '\x7d' :: rest) ∧ name ≠ [] ∧ '\x7d' ∉ name ∧ names name = some c ∧
      value = [c.toNat] := by
  match cs with
  | [] => nomatch h
  | d :: cs =>
    by_cases hd : d = '\x7b'
    · subst hd
      by_cases hclosed : '\x7d' ∈ cs
      · obtain ⟨name, after, rfl, hname⟩ := List.eq_append_cons_of_mem hclosed
        rw [byName_eq names hname] at h
        split_ifs at h with hempty
        cases hc : names name with
        | none => rw [hc] at h; nomatch h
        | some c =>
          rw [hc] at h
          cases h
          exact ⟨name, c, rfl, mt List.isEmpty_iff.mpr hempty, hname, hc, rfl⟩
      · have hall : cs.takeWhile (· ≠ '\x7d') = cs :=
          List.takeWhile_eq_self_iff.mpr fun c hc => decide_eq_true (ne_of_mem_of_not_mem hc hclosed)
        simp only [byName, hall, List.drop_length] at h
        nomatch h
    · rw [byName.eq_2 names (d :: cs) fun rest hrest => hd (List.cons.inj hrest).1] at h
      nomatch h

theorem Denotes.readEscape_eq {names : Names} {e rest : List Char} {value : List Nat} (h : Denotes names rest e value) :
    readEscape names (e ++ rest) = .ok (value, 1 + e.length, rest) := by
  cases h with
  | short hmem => exact readEscape_short names hmem rest
  | @hex letter width digits hletter hlength hdigits hlt =>
    obtain ⟨short, hread⟩ := readEscape_hex names hletter
    rw [List.cons_append, hread, numbered_eq short ⟨hdigits, hlength.le, .inl hlength⟩, if_neg hlength.not_lt,
      if_neg (Nat.not_le.mpr hlt), List.length_cons, hlength, show 2 + width = 1 + (width + 1) by omega]
  | octal hne hfill => exact readEscape_octal names hne hfill
  | @name name c hne hclosed hnamed =>
    have hshape : 'N' :: '\x7b' :: (name ++ ['\x7d']) ++ rest = 'N' :: '\x7b' :: (name ++ '\x7d' :: rest) := by simp
    rw [hshape, show readEscape names ('N' :: '\x7b' :: (name ++ '\x7d' :: rest))
      = byName names ('\x7b' :: (name ++ '\x7d' :: rest)) from rfl, byName_eq names hclosed,
      if_neg (mt List.isEmpty_iff.mp hne), hnamed, Option.elim_some]
    have hlength : 4 + name.length = 1 + ('N' :: '\x7b' :: (name ++ ['\x7d'])).length := by
      simp only [List.length_cons, List.length_append, List.length_nil]
      omega
    rw [hlength]

/-- One step of the reading that succeeds is an escape, or a backslash that starts none. -/
theorem readEscape_cases {names : Names} {cs : List Char} {value : List Nat} {n : Nat} {rest : List Char}
    (h : readEscape names cs = .ok (value, n, rest)) :
    (∃ e, cs = e ++ rest ∧ Denotes names rest e value) ∨
      ∃ c, cs = c :: rest ∧ c ∉ escapeStarts ∧ value = ['\\'.toNat, c.toNat] := by
  match cs with
  | [] => nomatch h
  | c :: cs =>
    by_cases hc : c ∉ escapeStarts
    · rw [readEscape_kept names hc] at h
      cases h
      exact .inr ⟨c, rfl, hc, rfl⟩
    left
    simp only [not_not, escapeStarts, List.mem_append, List.mem_cons, List.mem_map, Prod.exists, exists_and_right,
      exists_eq_right] at hc
    rcases hc with (⟨v, hshort⟩ | ⟨width, hhex⟩) | rfl | hoctal
    · rw [readEscape_short names hshort] at h
      cases h
      exact ⟨[c], rfl, .short hshort⟩
    · obtain ⟨short, hread⟩ := readEscape_hex names hhex
      obtain ⟨digits, after, rfl, hfill⟩ := exists_fillsWidth hexValue? width cs
      rw [hread, numbered_eq short hfill] at h
      split_ifs at h with hlength hvalue
      cases h
      exact ⟨c :: digits, rfl, .hex hhex (Nat.le_antisymm hfill.length_le (Nat.not_lt.mp hlength)) hfill.are_digits
        (Nat.not_le.mp hvalue)⟩
    · rw [show readEscape names ('N' :: cs) = byName names cs from rfl] at h
      obtain ⟨name, d, rfl, hne, hclosed, hnamed, rfl⟩ := byName_cases names h
      exact ⟨'N' :: '\x7b' :: (name ++ ['\x7d']), by simp, .name hne hclosed hnamed⟩
    · obtain ⟨digits, after, heq, hfill⟩ := exists_fillsWidth octalValue? 3 (c :: cs)
      have hne : digits ≠ [] := by
        rintro rfl
        obtain rfl : after = c :: cs := heq.symm
        have hstops := hfill.stops.resolve_left (by decide) c rfl
        have hsome := octalValue?_isSome_iff.mpr hoctal
        rw [hstops] at hsome
        nomatch hsome
      rw [heq, readEscape_octal names hne hfill] at h
      cases h
      exact ⟨digits, heq, .octal hne hfill⟩

/-! ## Whole texts -/

/-- What follows one step is shorter than what stands behind the backslash. -/
theorem length_after_le {names : Names} {cs : List Char} {value : List Nat} {n : Nat} {rest : List Char}
    (h : readEscape names cs = .ok (value, n, rest)) : rest.length ≤ cs.length := by
  rcases readEscape_cases h with ⟨e, rfl, _⟩ | ⟨c, rfl, _⟩
  · rw [List.length_append]
    exact Nat.le_add_left _ _
  · exact Nat.le_succ _

theorem reads_of_readEscape {names : Names} {cs : List Char} {value : List Nat} {n : Nat} {rest : List Char}
    (h : readEscape names cs = .ok (value, n, rest)) {out : List Nat} (hrest : Reads names rest out) :
    Reads names ('\\' :: cs) (value ++ out) := by
  rcases readEscape_cases h with ⟨e, rfl, he⟩ | ⟨c, rfl, hc, rfl⟩
  · exact .escape he hrest
  · exact .kept hc hrest

theorem numbersFrom_backslash {names : Names} {fuel position : Nat} {cs : List Char} {value : List Nat} {n : Nat}
    {rest : List Char} (h : readEscape names cs = .ok (value, n, rest)) :
    numbersFrom names (fuel + 1) position ('\\' :: cs)
      = (numbersFrom names fuel (position + n) rest).map (value ++ ·) := by
  rw [numbersFrom, if_pos rfl, h]

theorem map_eq_ok_iff {ε α β : Type} {f : α → β} {x : Except ε α} {b : β} :
    x.map f = .ok b ↔ ∃ a, x = .ok a ∧ f a = b := by
  cases x with
  | error e => exact ⟨fun h => (nomatch h), fun ⟨_, h, _⟩ => (nomatch h)⟩
  | ok a =>
    refine ⟨fun h => ⟨a, rfl, Except.ok.inj h⟩, ?_⟩
    rintro ⟨_, ⟨⟩, rfl⟩
    rfl

theorem reads_of_numbersFrom {names : Names} {fuel position : Nat} {cs : List Char} (hfuel : cs.length ≤ fuel)
    {ns : List Nat} (h : numbersFrom names fuel position cs = .ok ns) : Reads names cs ns := by
  induction fuel generalizing position cs ns with
  | zero =>
    obtain rfl := List.eq_nil_of_length_eq_zero (Nat.le_zero.mp hfuel)
    cases h
    exact .nil
  | succ fuel ih =>
    match cs with
    | [] =>
      cases h
      exact .nil
    | c :: cs =>
      have hlength : cs.length ≤ fuel := Nat.le_of_succ_le_succ hfuel
      by_cases hc : c = '\\'
      · subst hc
        cases hread : readEscape names cs with
        | error e =>
          rw [numbersFrom, if_pos rfl, hread] at h
          nomatch h
        | ok r =>
          rw [numbersFrom_backslash hread] at h
          obtain ⟨out, hout, rfl⟩ := map_eq_ok_iff.mp h
          exact reads_of_readEscape hread (ih ((length_after_le hread).trans hlength) hout)
      · rw [numbersFrom, if_neg hc] at h
        obtain ⟨out, hout, rfl⟩ := map_eq_ok_iff.mp h
        exact .plain hc (ih hlength hout)

theorem Reads.numbersFrom_eq {names : Names} {cs : List Char} {ns : List Nat} (h : Reads names cs ns) {fuel : Nat}
    (hfuel : cs.length ≤ fuel) (position : Nat) : numbersFrom names fuel position cs = .ok ns := by
  induction h generalizing fuel position with
  | nil => cases fuel <;> rfl
  | plain hc _ ih =>
    obtain ⟨fuel, rfl⟩ := Nat.exists_eq_add_one_of_ne_zero (Nat.ne_zero_of_lt hfuel)
    rw [numbersFrom, if_neg hc, ih (Nat.le_of_succ_le_succ hfuel)]
    rfl
  | escape he _ ih =>
    obtain ⟨fuel, rfl⟩ := Nat.exists_eq_add_one_of_ne_zero (Nat.ne_zero_of_lt hfuel)
    have hrest := (length_after_le he.readEscape_eq).trans (Nat.le_of_succ_le_succ hfuel)
    rw [numbersFrom_backslash he.readEscape_eq, ih hrest]
    rfl
  | kept hc _ ih =>
    obtain ⟨fuel, rfl⟩ := Nat.exists_eq_add_one_of_ne_zero (Nat.ne_zero_of_lt hfuel)
    have hrest := (Nat.le_succ _).trans (Nat.le_of_succ_le_succ hfuel)
    rw [numbersFrom_backslash (readEscape_kept names hc _), ih hrest]
    rfl

theorem numbersFrom_eq_ok_iff (names : Names) {fuel : Nat} (position : Nat) {cs : List Char} (hfuel : cs.length ≤ fuel)
    (ns : List Nat) : numbersFrom names fuel position cs = .ok ns ↔ Reads names cs ns :=
  ⟨reads_of_numbersFrom hfuel, fun h => h.numbersFrom_eq hfuel position⟩

/-- The reading succeeds with the numbers that a text is read as, and only with them. -/
theorem numbers_eq_ok_iff (names : Names) (cs : List Char) (ns : List Nat) :
    numbers names cs = .ok ns ↔ Reads names cs ns :=
  numbersFrom_eq_ok_iff names 0 (Nat.le_refl cs.length) ns

/-! ## How a text is read -/

variable {names : Names} {rest : List Char} {out : List Nat}

theorem reads_plain_iff {c : Char} (hc : c ≠ '\\') :
    Reads names (c :: rest) out ↔ ∃ out', out = c.toNat :: out' ∧ Reads names rest out' := by
  constructor
  · intro h
    cases h with
    | plain _ h => exact ⟨_, rfl, h⟩
    | escape _ _ => exact absurd rfl hc
    | kept _ _ => exact absurd rfl hc
  · rintro ⟨out', rfl, h⟩
    exact .plain hc h

theorem reads_backslash_iff {cs : List Char} {value : List Nat} {n : Nat}
    (hread : readEscape names cs = .ok (value, n, rest)) :
    Reads names ('\\' :: cs) out ↔ ∃ out', out = value ++ out' ∧ Reads names rest out' := by
  rw [← numbers_eq_ok_iff, numbers, List.length_cons, numbersFrom_backslash hread, map_eq_ok_iff]
  simp only [numbersFrom_eq_ok_iff names _ (length_after_le hread)]
  exact exists_congr fun _ => by rw [and_comm, eq_comm]

theorem Denotes.reads_iff {e : List Char} {value : List Nat} (h : Denotes names rest e value) :
    Reads names ('\\' :: (e ++ rest)) out ↔ ∃ out', out = value ++ out' ∧ Reads names rest out' :=
  reads_backslash_iff h.readEscape_eq

theorem reads_kept_iff {c : Char} (hc : c ∉ escapeStarts) :
    Reads names ('\\' :: c :: rest) out ↔ ∃ out', out = '\\'.toNat :: c.toNat :: out' ∧ Reads names rest out' :=
  reads_backslash_iff (readEscape_kept names hc rest)

/-- A text behind a backslash that is read starts with an escape or with a character that starts none. -/
theorem reads_backslash_cases {cs : List Char} (h : Reads names ('\\' :: cs) out) :
    (∃ e rest value out', cs = e ++ rest ∧ out = value ++ out' ∧ Denotes names rest e value ∧ Reads names rest out') ∨
      ∃ c rest out', cs = c :: rest ∧ out = '\\'.toNat :: c.toNat :: out' ∧ c ∉ escapeStarts ∧
        Reads names rest out' := by
  generalize hcs : '\\' :: cs = text at h
  cases h with
  | nil => nomatch hcs
  | plain hc _ => exact absurd (List.cons.inj hcs).1.symm hc
  | escape he h => exact .inl ⟨_, _, _, _, (List.cons.inj hcs).2, rfl, he, h⟩
  | kept hc h => exact .inr ⟨_, _, _, (List.cons.inj hcs).2, rfl, hc, h⟩

/-! ## Writing escapes -/

/-- Neither a backslash nor written as an escape. -/
def Untouched (c : Char) : Prop :=
  c ≠ '\\' ∧ c.toNat < 0x100

instance (c : Char) : Decidable (Untouched c) :=
  inferInstanceAs (Decidable (c ≠ '\\' ∧ c.toNat < 0x100))

theorem spell_of_lt {c : Char} (h : c.toNat < 0x100) : spell 0x100 c = [c] :=
  if_pos h

theorem numeral_concat {base : Nat} {digit? : Char → Option Nat} (digits : List Char) {c : Char} {d : Nat}
    (hc : digit? c = some d) : numeral base digit? (digits ++ [c]) = base * numeral base digit? digits + d := by
  rw [numeral, List.filterMap_append, List.foldl_append, List.filterMap_cons_some hc]
  rfl

theorem hexValue?_hexDigit {n : Nat} (h : n < 16) : hexValue? (Literal.hexDigit n) = some n := by
  have hall : ∀ n < 16, hexValue? (Literal.hexDigit n) = some n := by decide
  exact hall n h

theorem length_hex (width n : Nat) : (Literal.hex width n).length = width := by
  induction width generalizing n with
  | zero => rfl
  | succ width ih => rw [Literal.hex, List.length_append, ih, List.length_singleton]

theorem hexValue?_isSome_of_mem_hex {width n : Nat} {c : Char} (h : c ∈ Literal.hex width n) :
    (hexValue? c).isSome = true := by
  induction width generalizing n with
  | zero => exact absurd h List.not_mem_nil
  | succ width ih =>
    rcases List.mem_append.mp h with h | h
    · exact ih h
    · obtain rfl := List.mem_singleton.mp h
      rw [hexValue?_hexDigit (Nat.mod_lt n (by decide))]
      rfl

theorem numeral_hex {width n : Nat} (h : n < 16 ^ width) : numeral 16 hexValue? (Literal.hex width n) = n := by
  induction width generalizing n with
  | zero => exact (Nat.lt_one_iff.mp h).symm
  | succ width ih =>
    have hhigh : n / 16 < 16 ^ width := Nat.div_lt_of_lt_mul (by rwa [Nat.pow_succ, Nat.mul_comm] at h)
    rw [Literal.hex, numeral_concat _ (hexValue?_hexDigit (Nat.mod_lt n (by decide))), ih hhigh]
    exact Nat.div_add_mod n 16

theorem toNat_lt (c : Char) : c.toNat < 0x110000 := by
  rcases c.valid with h | ⟨_, h⟩
  · exact Nat.lt_trans h (by decide)
  · exact h

theorem denotes_hex (names : Names) (rest : List Char) {letter : Char} {width : Nat}
    (hletter : (letter, width) ∈ hexEscapes) {c : Char} (hc : c.toNat < 16 ^ width) :
    Denotes names rest (letter :: Literal.hex width c.toNat) [c.toNat] := by
  have h := @Denotes.hex names rest letter width _ hletter (length_hex width c.toNat)
    (fun _ => hexValue?_isSome_of_mem_hex) (by rw [numeral_hex hc]; exact toNat_lt c)
  rwa [numeral_hex hc] at h

/-- A character that is written as an escape is written as one that denotes it. -/
theorem spell_cases {c : Char} (h : 0x100 ≤ c.toNat) :
    ∃ letter digits, Untouched letter ∧ spell 0x100 c = '\\' :: letter :: digits ∧
      ∀ names rest, Denotes names rest (letter :: digits) [c.toNat] := by
  by_cases hlow : c.toNat < 0x10000
  · refine ⟨'u', Literal.hex 4 c.toNat, ⟨by decide, by decide⟩, ?_, fun names rest =>
      denotes_hex names rest (by decide) hlow⟩
    rw [spell, if_neg h.not_gt, if_neg h.not_gt, if_pos hlow]
  · refine ⟨'U', Literal.hex 8 c.toNat, ⟨by decide, by decide⟩, ?_, fun names rest =>
      denotes_hex names rest (by decide) ((toNat_lt c).trans (by decide))⟩
    rw [spell, if_neg h.not_gt, if_neg h.not_gt, if_neg hlow]

/-- A character is read as itself, whether it is written as an escape or not. -/
theorem reads_spell_iff {c : Char} (hc : c ≠ '\\') :
    Reads names (spell 0x100 c ++ rest) out ↔ ∃ out', out = c.toNat :: out' ∧ Reads names rest out' := by
  by_cases hlow : c.toNat < 0x100
  · rw [spell_of_lt hlow]
    exact reads_plain_iff hc
  · obtain ⟨letter, digits, -, hspell, hdenotes⟩ := spell_cases (Nat.not_lt.mp hlow)
    rw [hspell]
    exact (hdenotes names rest).reads_iff

end TopicShell.Text.Escape
