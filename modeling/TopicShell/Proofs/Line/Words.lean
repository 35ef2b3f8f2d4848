import TopicShell.Line.Words
import Mathlib.Data.List.Infix

/-!
# Reading words

`Place` is where the reader stands after a part of a text, and `Place.step` is what one more character does;
`Place.read_append` cuts a text in two.  A part that ends between words stands for itself
(`scan_append_separator`).  Of the characters that mean nothing to the reader none is lost and none is added
(`count_scan`).  A text does not begin with a word without special characters both within quotes and outside of
them (`scan_single_or_bare`, `scan_double_or_bare`); so a text that is cut at such a character can often be read
from there on as if it began there (`scan_from_first`).

`split` reads back what `join` writes (`split_join`).
-/

namespace TopicShell.Line.Words

/-- The character means something to the reader, in some mode. -/
def isSpecial (c : Char) : Bool :=
  isSeparator c || c = '\'' || c = '"' || c = '\\'

theorem isSeparator_of_not_special {c : Char} (h : isSpecial c = false) : isSeparator c = false := by
  simp only [isSpecial, Bool.or_eq_false_iff] at h
  exact h.1.1.1

theorem ne_of_not_special {c : Char} (h : isSpecial c = false) : '\'' ≠ c ∧ '"' ≠ c ∧ '\\' ≠ c := by
  simp only [isSpecial, Bool.or_eq_false_iff, decide_eq_false_iff_not] at h
  exact ⟨Ne.symm h.1.1.2, Ne.symm h.1.2, Ne.symm h.2⟩

theorem Mode.ofBare_of_not_special {c : Char} (h : isSpecial c = false) : ofBare c = (.bare, [c]) := by
  obtain ⟨h₁, h₂, h₃⟩ := ne_of_not_special h
  rw [ofBare, if_neg h₁.symm, if_neg h₂.symm, if_neg h₃.symm]

theorem scan_gap_of_not_special {c : Char} (h : isSpecial c = false) (word rest : List Char) :
    scan .gap word (c :: rest) = scan .bare [c] rest := by
  rw [scan, isSeparator_of_not_special h, Mode.ofBare_of_not_special h]
  rfl

theorem scan_bare_of_not_special {c : Char} (h : isSpecial c = false) (word rest : List Char) :
    scan .bare word (c :: rest) = scan .bare (c :: word) rest := by
  rw [scan, isSeparator_of_not_special h, Mode.ofBare_of_not_special h]
  rfl

/-! ## Where the reader stands -/

/-- The words that are complete, the mode, and the characters of the open word, last first. -/
structure Place where
  words : List (List Char)
  mode : Mode
  word : List Char

namespace Place

/-- What one character does. -/
def step (p : Place) (c : Char) : Place :=
  match p.mode with
  | .gap =>
    if isSeparator c then p else { p with mode := (Mode.ofBare c).1, word := (Mode.ofBare c).2 }
  | .bare =>
    if isSeparator c then ⟨p.words ++ [p.word.reverse], .gap, []⟩
    else { p with mode := (Mode.ofBare c).1, word := (Mode.ofBare c).2 ++ p.word }
  | .single => if c = '\'' then { p with mode := .bare } else { p with word := c :: p.word }
  | .double =>
    if c = '"' then { p with mode := .bare }
    else if c = '\\' then { p with mode := .escapeInDouble }
    else { p with word := c :: p.word }
  | .escape => { p with mode := .bare, word := c :: p.word }
  | .escapeInDouble =>
    if c = '"' || c = '\\' then { p with mode := .double, word := c :: p.word }
    else { p with mode := .double, word := c :: '\\' :: p.word }

/-- The words of the whole text, when this part of it is still to be read. -/
def read (p : Place) (cs : List Char) : Except SplitError (List (List Char)) :=
  (scan p.mode p.word cs).map (p.words ++ ·)

theorem read_cons (p : Place) (c : Char) (cs : List Char) : p.read (c :: cs) = (p.step c).read cs := by
  obtain ⟨ws, m, word⟩ := p
  cases m with
  | gap =>
    simp only [read, step, scan]
    split
    · cases cs <;> rfl
    · rfl
  | bare =>
    simp only [read, step, scan]
    split
    · cases scan .gap [] cs with
      | error e => rfl
      | ok us => simp [Except.map]
    · rfl
  | single =>
    simp only [read, step, scan]
    split <;> rfl
  | double =>
    simp only [read, step, scan]
    split
    · rfl
    · split <;> rfl
  | escape => rfl
  | escapeInDouble =>
    simp only [read, step, scan]
    split <;> rfl

/-- Reading a text in two parts. -/
theorem read_append (p : Place) (cs rest : List Char) :
    p.read (cs ++ rest) = (cs.foldl step p).read rest := by
  induction cs generalizing p with
  | nil => rfl
  | cons c cs ih =>
    rw [List.cons_append, read_cons, ih]
    rfl

/-- What a character does within a word: it goes on with it, or it is a separator and ends it. -/
theorem step_within {p : Place} (h : p.mode ≠ .gap) (c : Char) :
    ((p.step c).words = p.words ∧ (p.step c).mode ≠ .gap ∧ p.word <:+ (p.step c).word) ∨
    (p.mode = .bare ∧ isSeparator c = true ∧ p.step c = ⟨p.words ++ [p.word.reverse], .gap, []⟩) := by
  obtain ⟨ws, m, word⟩ := p
  cases m with
  | gap => exact absurd rfl h
  | bare =>
    cases hc : isSeparator c with
    | true => exact .inr ⟨rfl, rfl, by simp [step, hc]⟩
    | false =>
      left
      have hmode : (Mode.ofBare c).1 ≠ .gap := by
        unfold Mode.ofBare
        split_ifs <;> simp
      simp only [step, hc, Bool.false_eq_true, if_false]
      exact ⟨trivial, hmode, List.suffix_append _ _⟩
  | single =>
    left
    simp only [step]
    split_ifs <;> simp
  | double =>
    left
    simp only [step]
    split_ifs <;> simp
  | escape =>
    left
    simp [step]
  | escapeInDouble =>
    left
    simp only [step]
    split_ifs
    · simp
    · exact ⟨rfl, by simp, ⟨[c, '\\'], rfl⟩⟩

theorem read_eq_ok_iff {p : Place} {cs : List Char} {ws : List (List Char)} :
    p.read cs = .ok ws ↔ ∃ us, scan p.mode p.word cs = .ok us ∧ p.words ++ us = ws := by
  rw [read]
  cases scan p.mode p.word cs <;> simp [Except.map]

/-- An open word is the front of the next word that is complete. -/
theorem read_open_word {p : Place} (hp : p.mode ≠ .gap) {cs : List Char} {ws : List (List Char)}
    (h : p.read cs = .ok ws) : ∃ w us, ws = p.words ++ w :: us ∧ p.word.reverse <+: w := by
  induction cs generalizing p with
  | nil =>
    obtain ⟨words, m, word⟩ := p
    cases m with
    | bare =>
      cases h
      exact ⟨word.reverse, [], rfl, List.prefix_rfl⟩
    | gap => exact absurd rfl hp
    | _ => cases h
  | cons c cs ih =>
    rw [read_cons] at h
    rcases step_within hp c with ⟨hwords, hmode, hword⟩ | ⟨_, _, hstep⟩
    · obtain ⟨w, us, rfl, hw⟩ := ih hmode h
      rw [hwords]
      exact ⟨w, us, rfl, (List.reverse_prefix.mpr hword).trans hw⟩
    · rw [hstep] at h
      obtain ⟨us, _, rfl⟩ := read_eq_ok_iff.mp h
      exact ⟨p.word.reverse, us, List.append_assoc _ _ _, List.prefix_rfl⟩

/-- Between words no word is open. -/
def Tidy (p : Place) : Prop :=
  p.mode = .gap → p.word = []

theorem Tidy.step {p : Place} (h : p.Tidy) (c : Char) : (p.step c).Tidy := by
  intro hgap
  by_cases hp : p.mode = .gap
  · have hw := h hp
    simp only [Place.step, hp] at hgap ⊢
    split_ifs at hgap ⊢ with hc
    · exact hw
    · simp only [Mode.ofBare] at hgap
      split_ifs at hgap
  · rcases step_within hp c with ⟨_, hmode, _⟩ | ⟨_, _, hstep⟩
    · exact absurd hgap hmode
    · rw [hstep]

/-- How often a character stands in the words so far, the open one included. -/
def count (p : Place) (x : Char) : Nat :=
  p.words.flatten.count x + p.word.count x

theorem count_ofBare {x : Char} (hx : isSpecial x = false) (c : Char) :
    (Mode.ofBare c).2.count x = if c = x then 1 else 0 := by
  obtain ⟨h₁, h₂, h₃⟩ := ne_of_not_special hx
  unfold Mode.ofBare
  split_ifs <;> simp_all

theorem count_step {x : Char} (hx : isSpecial x = false) {p : Place} (h : p.Tidy) (c : Char) :
    (p.step c).count x = p.count x + if c = x then 1 else 0 := by
  obtain ⟨h₁, h₂, h₃⟩ := ne_of_not_special hx
  have hsep : isSeparator c = true → c ≠ x := by
    rintro hc rfl
    rw [isSeparator_of_not_special hx] at hc
    cases hc
  obtain ⟨ws, m, word⟩ := p
  cases m with
  | gap =>
    have hw : word = [] := h rfl
    subst hw
    simp only [step]
    split_ifs with hc
    all_goals simp_all [count, count_ofBare hx]
  | bare =>
    simp only [step]
    split_ifs with hc
    all_goals simp_all [count, count_ofBare hx]
    all_goals omega
  | _ =>
    simp only [step]
    split_ifs
    all_goals simp_all [count]
    all_goals omega

theorem Tidy.foldl {p : Place} (h : p.Tidy) (cs : List Char) : (cs.foldl Place.step p).Tidy := by
  induction cs generalizing p with
  | nil => exact h
  | cons c cs ih => exact ih (h.step c)

theorem count_foldl {x : Char} (hx : isSpecial x = false) {p : Place} (h : p.Tidy) (cs : List Char) :
    (cs.foldl step p).count x = p.count x + cs.count x := by
  induction cs generalizing p with
  | nil => rfl
  | cons c cs ih =>
    rw [List.foldl_cons, ih (h.step c), count_step hx h, List.count_cons]
    simp only [beq_iff_eq]
    omega

/-- The reader neither loses nor adds a character that means nothing to it. -/
theorem count_read {x : Char} (hx : isSpecial x = false) {p : Place} (h : p.Tidy) {cs : List Char}
    {ws : List (List Char)} (hr : p.read cs = .ok ws) : ws.flatten.count x = p.count x + cs.count x := by
  rw [← List.append_nil cs, read_append] at hr
  rw [← count_foldl hx h]
  have htidy := h.foldl cs
  generalize cs.foldl step p = q at hr htidy ⊢
  obtain ⟨words, m, word⟩ := q
  cases m with
  | gap =>
    have hw : word = [] := htidy rfl
    cases hr
    simp [count, hw]
  | bare =>
    cases hr
    simp [count]
  | _ => cases hr

/-- Between words, and at the end of a word that is not quoted, a separator cuts the text. -/
theorem read_separator {p : Place} {ws : List (List Char)} (h : p.read [] = .ok ws) {c : Char}
    (hc : isSeparator c = true) (rest : List Char) :
    p.read (c :: rest) = (scan .gap [] rest).map (ws ++ ·) := by
  obtain ⟨words, m, word⟩ := p
  rw [read_cons]
  cases m with
  | gap =>
    cases h
    simp only [step, hc, if_true, read, List.append_nil]
    cases rest <;> rfl
  | bare =>
    cases h
    simp only [step, hc, if_true]
    rfl
  | _ => cases h

/-- Where the reader begins. -/
def start : Place :=
  ⟨[], .gap, []⟩

theorem read_start (cs : List Char) : start.read cs = scan .gap [] cs := by
  show (scan .gap [] cs).map ([] ++ ·) = _
  cases scan .gap [] cs <;> rfl

theorem start_tidy : start.Tidy :=
  fun _ => rfl

end Place

/-- What comes after a separator is read on its own. -/
theorem scan_append_separator {cs : List Char} {ws : List (List Char)} (h : scan .gap [] cs = .ok ws)
    {c : Char} (hc : isSeparator c = true) (rest : List Char) :
    scan .gap [] (cs ++ c :: rest) = (scan .gap [] rest).map (ws ++ ·) := by
  rw [← Place.read_start, ← List.append_nil cs, Place.read_append] at h
  rw [← Place.read_start, Place.read_append, Place.read_separator h hc]

theorem count_scan {x : Char} (hx : isSpecial x = false) {cs : List Char} {ws : List (List Char)}
    (h : scan .gap [] cs = .ok ws) : ws.flatten.count x = cs.count x := by
  rw [← Place.read_start] at h
  rw [Place.count_read hx Place.start_tidy h]
  exact Nat.zero_add _

/-! ## Quoted or not -/

/-- The first word has no special character. -/
def BeginsPlainly : Except SplitError (List (List Char)) → Prop
  | .ok (w :: _) => ∀ c ∈ w, isSpecial c = false
  | _ => False

theorem not_beginsPlainly {m : Mode} (hm : m ≠ .gap) {word : List Char} {c : Char} (hw : c ∈ word)
    (hc : isSpecial c = true) (cs : List Char) : ¬ BeginsPlainly (scan m word cs) := by
  intro h
  cases hs : scan m word cs with
  | error e =>
    rw [hs] at h
    exact h
  | ok ws =>
    have hread : (⟨[], m, word⟩ : Place).read cs = .ok ws := by
      rw [Place.read, hs]
      rfl
    obtain ⟨w, us, rfl, hfront⟩ := Place.read_open_word hm hread
    rw [hs] at h
    have hplain : isSpecial c = false := h c (hfront.subset (List.mem_reverse.mpr hw))
    rw [hc] at hplain
    cases hplain

/-- A text cannot begin with a word without special characters both within single quotes and outside of them:
whoever comes to a quote changes places with the other, and whoever is in quotes at the end fails. -/
theorem scan_single_or_bare (word cs : List Char) :
    ¬ (BeginsPlainly (scan .single word cs) ∧ BeginsPlainly (scan .bare word cs)) := by
  induction cs generalizing word with
  | nil =>
    rintro ⟨h, _⟩
    exact h
  | cons c cs ih =>
    rintro ⟨hsingle, hbare⟩
    by_cases hquote : c = '\''
    · subst hquote
      exact ih word ⟨hbare, hsingle⟩
    · have hadd : scan .single word (c :: cs) = scan .single (c :: word) cs := by
        rw [scan, if_neg hquote]
      rw [hadd] at hsingle
      by_cases hc : isSpecial c = true
      · exact not_beginsPlainly (by decide) List.mem_cons_self hc cs hsingle
      · rw [scan_bare_of_not_special (by simpa using hc)] at hbare
        exact ih (c :: word) ⟨hsingle, hbare⟩

/-- What has been escaped in double quotes keeps a special character. -/
theorem not_beginsPlainly_escapeInDouble (word cs : List Char) :
    ¬ BeginsPlainly (scan .escapeInDouble word cs) := by
  intro h
  cases cs with
  | nil => exact h
  | cons c cs =>
    rw [scan] at h
    split_ifs at h with hc
    · have hs : isSpecial c = true := by
        simp only [Bool.or_eq_true, decide_eq_true_eq] at hc
        rcases hc with rfl | rfl <;> decide
      exact not_beginsPlainly (by decide) List.mem_cons_self hs cs h
    · exact not_beginsPlainly (by decide) (List.mem_cons_of_mem c List.mem_cons_self)
        (by decide : isSpecial '\\' = true) cs h

/-- The same for double quotes. -/
theorem scan_double_or_bare (word cs : List Char) :
    ¬ (BeginsPlainly (scan .double word cs) ∧ BeginsPlainly (scan .bare word cs)) := by
  induction cs generalizing word with
  | nil =>
    rintro ⟨h, _⟩
    exact h
  | cons c cs ih =>
    rintro ⟨hdouble, hbare⟩
    by_cases hquote : c = '"'
    · subst hquote
      exact ih word ⟨hbare, hdouble⟩
    by_cases hback : c = '\\'
    · subst hback
      exact not_beginsPlainly_escapeInDouble word cs hdouble
    · have hadd : scan .double word (c :: cs) = scan .double (c :: word) cs := by
        rw [scan, if_neg hquote, if_neg hback]
      rw [hadd] at hdouble
      by_cases hc : isSpecial c = true
      · exact not_beginsPlainly (by decide) List.mem_cons_self hc cs hdouble
      · rw [scan_bare_of_not_special (by simpa using hc)] at hbare
        exact ih (c :: word) ⟨hdouble, hbare⟩

/-! ## Cutting at a character -/

/-- Two lists that are one list agree up to its first element of a kind and after it. -/
theorem append_cons_inj_of_first {α : Type} {q : α → Prop} {xs ys xs' ys' : List α} {a b : α}
    (hxs : ∀ x ∈ xs, ¬ q x) (ha : q a) (hys : ∀ y ∈ ys, ¬ q y) (hb : q b)
    (h : xs ++ a :: xs' = ys ++ b :: ys') : xs = ys ∧ a = b ∧ xs' = ys' := by
  induction xs generalizing ys with
  | nil =>
    cases ys with
    | nil =>
      cases h
      exact ⟨rfl, rfl, rfl⟩
    | cons y ys =>
      cases h
      exact absurd ha (hys a List.mem_cons_self)
  | cons x xs ih =>
    cases ys with
    | nil =>
      cases h
      exact absurd hb (hxs b List.mem_cons_self)
    | cons y ys =>
      rw [List.cons_append, List.cons_append, List.cons.injEq] at h
      obtain ⟨rfl, h⟩ := h
      obtain ⟨rfl, rfl, rfl⟩ := ih (fun z hz => hxs z (List.mem_cons_of_mem x hz))
        (fun z hz => hys z (List.mem_cons_of_mem x hz)) h
      exact ⟨rfl, rfl, rfl⟩

/-- A character that means nothing goes into the open word, in quotes behind the backslash before it. -/
theorem Place.step_of_not_special {x : Char} (hx : isSpecial x = false) {p : Place} (h : p.Tidy) :
    (p.step x).words = p.words ∧
    ((p.step x).mode = .bare ∨ (p.step x).mode = .single ∨ (p.step x).mode = .double) ∧
    ∃ added, x ∉ added ∧ (p.step x).word = x :: (added ++ p.word) := by
  obtain ⟨h₁, h₂, h₃⟩ := ne_of_not_special hx
  obtain ⟨ws, m, word⟩ := p
  cases m with
  | gap =>
    have hw : word = [] := h rfl
    subst hw
    simp only [step, isSeparator_of_not_special hx, Mode.ofBare_of_not_special hx]
    exact ⟨rfl, .inl rfl, [], List.not_mem_nil, rfl⟩
  | bare =>
    simp only [step, isSeparator_of_not_special hx, Mode.ofBare_of_not_special hx]
    exact ⟨rfl, .inl rfl, [], List.not_mem_nil, rfl⟩
  | single =>
    simp only [step, if_neg h₁.symm]
    exact ⟨trivial, .inr (.inl trivial), [], List.not_mem_nil, rfl⟩
  | double =>
    simp only [step, if_neg h₂.symm, if_neg h₃.symm]
    exact ⟨trivial, .inr (.inr trivial), [], List.not_mem_nil, rfl⟩
  | escape => exact ⟨rfl, .inl rfl, [], List.not_mem_nil, rfl⟩
  | escapeInDouble =>
    have hkept : (decide (x = '"') || decide (x = '\\')) = false := by simp [h₂.symm, h₃.symm]
    simp only [step, hkept]
    exact ⟨rfl, .inr (.inr rfl), ['\\'], by simpa using h₃.symm, rfl⟩

/-- A text and its part from the first `x` on have the same words from the first word with an `x` on, if this
word begins with the `x` and has no special characters, and so does the first word of the part. -/
theorem scan_from_first {x : Char} (hx : isSpecial x = false) {front rest word : List Char}
    {before more : List (List Char)} (hfront : x ∉ front)
    (h : scan .gap [] (front ++ x :: rest) = .ok (before ++ (x :: word) :: more))
    (hbefore : ∀ w ∈ before, x ∉ w) (hword : ∀ c ∈ word, isSpecial c = false)
    (hrest : BeginsPlainly (scan .gap [] (x :: rest))) :
    scan .gap [] (x :: rest) = .ok ((x :: word) :: more) := by
  rw [scan_gap_of_not_special hx] at hrest ⊢
  rw [← Place.read_start, Place.read_append, Place.read_cons] at h
  have htidy := Place.start_tidy.foldl front
  have hcount := Place.count_foldl hx Place.start_tidy front
  generalize front.foldl Place.step Place.start = p at h htidy hcount
  rw [List.count_eq_zero.mpr hfront] at hcount
  have hnone : p.words.flatten.count x = 0 ∧ p.word.count x = 0 := Nat.add_eq_zero_iff.mp hcount
  obtain ⟨hwords, hmode, added, hadded, hopen⟩ := Place.step_of_not_special hx htidy
  have hgap : (p.step x).mode ≠ .gap := by
    rcases hmode with hm | hm | hm <;> simp [hm]
  -- The word with the first `x` is the one that is open behind it.
  obtain ⟨w, us, heq, hprefix⟩ := Place.read_open_word hgap h
  rw [hwords] at heq
  have hhere : x ∈ w := hprefix.subset (by simp [hopen])
  have hcomplete : ∀ v ∈ p.words, x ∉ v := fun v hv hxv =>
    List.count_eq_zero.mp hnone.1 (List.mem_flatten.mpr ⟨v, hv, hxv⟩)
  obtain ⟨rfl, rfl, rfl⟩ := append_cons_inj_of_first hbefore (q := (x ∈ ·)) List.mem_cons_self hcomplete hhere heq
  -- Nothing of it stands before this `x`.
  have hempty : added ++ p.word = [] := by
    rw [hopen, List.reverse_cons] at hprefix
    cases hrev : (added ++ p.word).reverse with
    | nil => exact List.reverse_eq_nil_iff.mp hrev
    | cons y ys =>
      rw [hrev] at hprefix
      obtain ⟨rfl, _⟩ := List.cons_prefix_cons.mp hprefix
      have hmem : y ∈ added ++ p.word := List.mem_reverse.mp (by rw [hrev]; exact List.mem_cons_self)
      rcases List.mem_append.mp hmem with hy | hy
      · exact absurd hy hadded
      · exact absurd hy (List.count_eq_zero.mp hnone.2)
  rw [hempty] at hopen
  obtain ⟨us, hscan, hus⟩ := Place.read_eq_ok_iff.mp h
  rw [hwords] at hus
  have hsame : us = (x :: word) :: more := List.append_cancel_left hus
  rw [hsame, hopen] at hscan
  have hplain : BeginsPlainly (.ok ((x :: word) :: more)) := by
    intro c hc
    rcases List.mem_cons.mp hc with rfl | hc
    · exact hx
    · exact hword c hc
  rw [← hscan] at hplain
  rcases hmode with hm | hm | hm
  · rw [hm] at hscan
    exact hscan
  · rw [hm] at hplain
    exact absurd ⟨hplain, hrest⟩ (scan_single_or_bare [x] rest)
  · rw [hm] at hplain
    exact absurd ⟨hplain, hrest⟩ (scan_double_or_bare [x] rest)

/-! ## Words as strings -/

theorem split_eq_ok_iff {text : String} {ws : List String} :
    split text = .ok ws ↔ scan .gap [] text.toList = .ok (ws.map String.toList) := by
  rw [split]
  constructor
  · intro h
    cases hs : scan .gap [] text.toList with
    | error e =>
      rw [hs] at h
      cases h
    | ok us =>
      rw [hs] at h
      cases h
      simp
  · intro h
    rw [h]
    simp [Except.map]

/-- How often a character stands in some words. -/
def countIn (x : Char) (ws : List String) : Nat :=
  (ws.flatMap String.toList).count x

theorem countIn_append (x : Char) (ws ws' : List String) :
    countIn x (ws ++ ws') = countIn x ws + countIn x ws' := by
  simp [countIn]

theorem countIn_cons (x : Char) (w : String) (ws : List String) :
    countIn x (w :: ws) = w.toList.count x + countIn x ws := by
  simp [countIn]

theorem countIn_filter (x : Char) (q : String → Prop) [DecidablePred q] (ws : List String) :
    countIn x ws = countIn x (ws.filter q) + countIn x (ws.filter (¬ q ·)) := by
  induction ws with
  | nil => rfl
  | cons w ws ih =>
    by_cases hw : q w
    · rw [List.filter_cons_of_pos (by simpa using hw), List.filter_cons_of_neg (by simpa using hw), countIn_cons,
        countIn_cons, ih, Nat.add_assoc]
    · rw [List.filter_cons_of_neg (by simpa using hw), List.filter_cons_of_pos (by simpa using hw), countIn_cons,
        countIn_cons, ih, Nat.add_left_comm]

theorem countIn_eq_zero_iff {x : Char} {ws : List String} : countIn x ws = 0 ↔ ∀ w ∈ ws, x ∉ w.toList := by
  simp [countIn, List.count_eq_zero]

/-- `count_scan` on strings. -/
theorem countIn_split {x : Char} (hx : isSpecial x = false) {text : String} {ws : List String}
    (h : split text = .ok ws) : countIn x ws = text.toList.count x := by
  rw [← count_scan hx (split_eq_ok_iff.mp h)]
  rfl

/-- `scan_append_separator` on strings, for a space. -/
theorem split_append_space {text : String} {ws : List String} (h : split text = .ok ws) (rest : String) :
    split (text ++ " " ++ rest) = (split rest).map (ws ++ ·) := by
  have hscan := scan_append_separator (split_eq_ok_iff.mp h) (by decide : isSeparator ' ' = true) rest.toList
  have hlist : (text ++ " " ++ rest).toList = text.toList ++ ' ' :: rest.toList := by simp
  rw [split, hlist, hscan, split]
  cases scan .gap [] rest.toList with
  | error e => rfl
  | ok us => simp [Except.map]

/-! ## Quoting -/

theorem isSpecial_of_isPlain {c : Char} (h : isPlain c = true) : isSpecial c = false := by
  rw [Bool.eq_false_iff]
  intro hs
  simp only [isSpecial, isSeparator, Bool.or_eq_true, decide_eq_true_eq] at hs
  rcases hs with (((((rfl | rfl) | rfl) | rfl) | rfl) | rfl) | rfl <;> exact absurd h (by decide)

theorem scan_bare_plain {cs : List Char} (h : ∀ c ∈ cs, isSpecial c = false) (word rest : List Char) :
    scan .bare word (cs ++ rest) = scan .bare (cs.reverse ++ word) rest := by
  induction cs generalizing word with
  | nil => rfl
  | cons c cs ih =>
    rw [List.cons_append, scan_bare_of_not_special (h c List.mem_cons_self),
      ih fun x hx => h x (List.mem_cons_of_mem c hx)]
    simp

/-- A quoted word within single quotes stands for itself. -/
theorem scan_quoted (cs word rest : List Char) :
    scan .single word (cs.flatMap quoteChar ++ '\'' :: rest) = scan .bare (cs.reverse ++ word) rest := by
  induction cs generalizing word with
  | nil => rfl
  | cons c cs ih =>
    rw [List.flatMap_cons, List.append_assoc]
    have hchar : ∀ rest, scan .single word (quoteChar c ++ rest) = scan .single (c :: word) rest := by
      intro rest
      rw [quoteChar]
      split_ifs with hc
      · subst hc
        rfl
      · show scan .single word (c :: rest) = _
        rw [scan, if_neg hc]
    rw [hchar, ih]
    simp

theorem scan_quote (cs rest : List Char) :
    scan .gap [] (quote cs ++ rest) = scan .bare cs.reverse rest := by
  rw [quote]
  split_ifs with h
  · cases cs with
    | nil => simp at h
    | cons c cs =>
      have hplain : ∀ x ∈ c :: cs, isSpecial x = false := by
        simp only [Bool.and_eq_true, List.all_eq_true] at h
        exact fun x hx => isSpecial_of_isPlain (h.2 x hx)
      rw [List.cons_append, scan_gap_of_not_special (hplain c List.mem_cons_self),
        scan_bare_plain fun x hx => hplain x (List.mem_cons_of_mem c hx)]
      simp
  · rw [List.cons_append, List.append_assoc]
    show scan .single [] (cs.flatMap quoteChar ++ '\'' :: rest) = _
    rw [scan_quoted, List.append_nil]

theorem toList_join_cons (w w' : String) (ws : List String) :
    (join (w :: w' :: ws)).toList = quote w.toList ++ ' ' :: (join (w' :: ws)).toList := by
  simp only [join, List.map_cons, String.toList_intercalate, List.intercalate_cons_cons, quoteText,
    String.toList_ofList, List.append_assoc]
  rfl

theorem toList_join_singleton (w : String) : (join [w]).toList = quote w.toList := by
  simp [join, quoteText]

theorem scan_join (ws : List String) : scan .gap [] (join ws).toList = .ok (ws.map String.toList) := by
  induction ws with
  | nil => rfl
  | cons w ws ih =>
    cases ws with
    | nil =>
      rw [toList_join_singleton, ← List.append_nil (quote w.toList), scan_quote]
      simp [scan]
    | cons w' ws =>
      rw [toList_join_cons, scan_quote, scan, ih]
      simp [isSeparator, Except.map]

/-- Words that are written with quotes are read back. -/
theorem split_join (ws : List String) : split (join ws) = .ok ws := by
  rw [split, scan_join]
  simp [Except.map]

/-- A word that is written as it is needs no quotes: it is not empty, and all its characters are plain. -/
theorem plain_of_quoteText {word : String} (h : quoteText word = word) :
    ∀ c ∈ word.toList, isPlain c = true := by
  have hquote : quote word.toList = word.toList := by
    rw [quoteText] at h
    exact String.toList_ofList.symm.trans (congrArg String.toList h)
  rw [quote] at hquote
  split_ifs at hquote with hplain
  · simp only [Bool.and_eq_true, List.all_eq_true] at hplain
    exact hplain.2
  · have hlong : ∀ cs : List Char, cs.length ≤ (cs.flatMap quoteChar).length := by
      intro cs
      induction cs with
      | nil => exact Nat.le_refl 0
      | cons c cs ih =>
        have hone : 1 ≤ (quoteChar c).length := by
          rw [quoteChar]
          split_ifs <;> simp
        simp only [List.flatMap_cons, List.length_append, List.length_cons]
        omega
    have hlength := congrArg List.length hquote
    simp only [List.length_cons, List.length_append, List.length_nil] at hlength
    have := hlong word.toList
    omega

/-- Quoting adds nothing but quotes. -/
theorem mem_quote {word : List Char} {c : Char} (h : c ∈ quote word) : c ∈ word ∨ c = '\'' ∨ c = '"' := by
  rw [quote] at h
  split_ifs at h
  · exact .inl h
  · simp only [List.mem_cons, List.mem_append, List.mem_flatMap, List.not_mem_nil, or_false] at h
    rcases h with rfl | ⟨x, hx, hc⟩ | rfl
    · simp
    · rw [quoteChar] at hc
      split_ifs at hc
      · simp only [List.mem_cons, List.not_mem_nil, or_false] at hc
        tauto
      · rw [List.mem_singleton] at hc
        exact .inl (hc ▸ hx)
    · simp

/-- Joining adds nothing but quotes and spaces. -/
theorem mem_join {ws : List String} {c : Char} (h : c ∈ (join ws).toList) :
    (∃ w ∈ ws, c ∈ w.toList) ∨ c = '\'' ∨ c = '"' ∨ c = ' ' := by
  induction ws with
  | nil => cases h
  | cons w ws ih =>
    have hhere : c ∈ quote w.toList → (∃ v ∈ w :: ws, c ∈ v.toList) ∨ c = '\'' ∨ c = '"' ∨ c = ' ' := by
      intro hc
      rcases mem_quote hc with hc | hc | hc
      · exact .inl ⟨w, List.mem_cons_self, hc⟩
      · exact .inr (.inl hc)
      · exact .inr (.inr (.inl hc))
    cases ws with
    | nil =>
      rw [toList_join_singleton] at h
      exact hhere h
    | cons w' ws =>
      rw [toList_join_cons, List.mem_append, List.mem_cons] at h
      rcases h with hc | rfl | hc
      · exact hhere hc
      · simp
      · rcases ih hc with ⟨v, hv, hc⟩ | hc
        · exact .inl ⟨v, List.mem_cons_of_mem w hv, hc⟩
        · exact .inr hc

theorem not_mem_join {ws : List String} {x : Char} (hx : x ∉ ['\'', '"', ' ']) (h : ∀ w ∈ ws, x ∉ w.toList) :
    x ∉ (join ws).toList := by
  intro hmem
  rcases mem_join hmem with ⟨w, hw, hc⟩ | hc
  · exact h w hw hc
  · exact hx (by simpa using hc)

end TopicShell.Line.Words
