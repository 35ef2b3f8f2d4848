import TopicShell.Proofs.Text.Escapes
import TopicShell.Proofs.Text.Letters
import Mathlib.Data.Bool.AllAny

/-!
# Characters written as escapes

`spellOut` writes characters from U+0100 on as escapes, so that afterwards all escapes can be read at once.  The two
kinds of escapes meet where such a character stands behind an odd number of backslashes: the last of these backslashes
and the one of the new escape are then read as one, and the letters and digits of the escape stay.

* `reads_spellOut_iff`: without such a place, the text is read as if nothing had been written as an escape;
* `not_reads_spellOut`: with one, it is read as something else.
-/

namespace TopicShell.Text.Escape

/-- A letter, a digit, a space or a hyphen. -/
def isNameChar (c : Char) : Bool :=
  c.isAlphanum || c = ' ' || c = '-'

/-- Names consist of letters and digits with spaces and hyphens between them. -/
def PlainNames (names : Names) : Prop :=
  ∀ name c, names name = some c → ∀ x ∈ name, isNameChar x = true

/-- A character from U+0100 on stands behind an odd number of backslashes. -/
def Exposed (p : List Char) : Prop :=
  ∃ front k c rest, p = front ++ List.replicate (2 * k + 1) '\\' ++ c :: rest ∧ front.getLast? ≠ some '\\' ∧
    0x100 ≤ c.toNat

/-! ## Runs of backslashes -/

theorem backslash_lt : ('\\' : Char).toNat < 0x100 := by decide

theorem getLast?_cons_eq {c d : Char} (hc : c ≠ d) (cs : List Char) :
    (c :: cs).getLast? = some d ↔ cs.getLast? = some d := by
  cases cs with
  | nil => exact ⟨fun h => absurd (Option.some.inj h) hc, fun h => (nomatch h)⟩
  | cons b cs => rw [List.getLast?_cons_cons]

theorem not_exposed_nil : ¬ Exposed [] := by
  rintro ⟨front, k, c, rest, heq, _⟩
  exact absurd heq.symm (List.append_ne_nil_of_right_ne_nil _ (List.cons_ne_nil c rest))

theorem exposed_plain_iff {c : Char} (hc : c ≠ '\\') (p : List Char) : Exposed (c :: p) ↔ Exposed p := by
  constructor
  · rintro ⟨front, k, d, rest, heq, hfront, hd⟩
    cases front with
    | nil => exact absurd (List.cons.inj heq).1 hc
    | cons x front =>
      obtain ⟨rfl, rfl⟩ := List.cons.inj heq
      exact ⟨front, k, d, rest, rfl, mt (getLast?_cons_eq hc front).mpr hfront, hd⟩
  · rintro ⟨front, k, d, rest, rfl, hfront, hd⟩
    exact ⟨c :: front, k, d, rest, rfl, mt (getLast?_cons_eq hc front).mp hfront, hd⟩

theorem exposed_pair_iff (p : List Char) : Exposed ('\\' :: '\\' :: p) ↔ Exposed p := by
  constructor
  · rintro ⟨front, k, d, rest, heq, hfront, hd⟩
    match front with
    | [] =>
      cases k with
      | zero =>
        obtain rfl : '\\' = d := (List.cons.inj (List.cons.inj heq).2).1
        exact absurd hd backslash_lt.not_ge
      | succ k => exact ⟨[], k, d, rest, (List.cons.inj (List.cons.inj heq).2).2, hfront, hd⟩
    | [x] => exact absurd (congrArg some (List.cons.inj heq).1.symm) hfront
    | x :: y :: front =>
      obtain ⟨hy, hp⟩ := List.cons.inj (List.cons.inj heq).2
      refine ⟨front, k, d, rest, hp, fun h => hfront ?_, hd⟩
      rw [List.getLast?_cons_cons, List.getLast?_cons, h]
      rfl
  · rintro ⟨front, k, d, rest, rfl, hfront, hd⟩
    cases front with
    | nil => exact ⟨[], k + 1, d, rest, rfl, hfront, hd⟩
    | cons x front => exact ⟨'\\' :: '\\' :: x :: front, k, d, rest, rfl, by simpa using hfront, hd⟩

theorem exposed_backslash_iff {c : Char} (hc : c ≠ '\\') (p : List Char) :
    Exposed ('\\' :: c :: p) ↔ 0x100 ≤ c.toNat ∨ Exposed p := by
  constructor
  · rintro ⟨front, k, d, rest, heq, hfront, hd⟩
    match front with
    | [] =>
      cases k with
      | zero =>
        obtain rfl : c = d := (List.cons.inj (List.cons.inj heq).2).1
        exact .inl hd
      | succ k => exact absurd (List.cons.inj (List.cons.inj heq).2).1 hc
    | [x] => exact absurd (congrArg some (List.cons.inj heq).1.symm) hfront
    | x :: y :: front =>
      refine .inr ((exposed_plain_iff hc p).mp ⟨y :: front, k, d, rest, (List.cons.inj heq).2, ?_, hd⟩)
      rwa [List.getLast?_cons_cons] at hfront
  · rintro (h | ⟨front, k, d, rest, rfl, hfront, hd⟩)
    · exact ⟨[], 0, c, p, rfl, nofun, h⟩
    · refine ⟨'\\' :: c :: front, k, d, rest, rfl, ?_, hd⟩
      rw [List.getLast?_cons_cons]
      exact mt (getLast?_cons_eq hc front).mp hfront

theorem exposed_untouched_iff {e : List Char} (he : ∀ c ∈ e, Untouched c) (p : List Char) :
    Exposed (e ++ p) ↔ Exposed p := by
  induction e with
  | nil => rfl
  | cons c e ih =>
    obtain ⟨hc, he⟩ := List.forall_mem_cons.mp he
    rw [List.cons_append, exposed_plain_iff hc.1, ih he]

/-! ## Characters written as escapes -/

theorem spellOut_cons (c : Char) (cs : List Char) : spellOut 0x100 (c :: cs) = spell 0x100 c ++ spellOut 0x100 cs :=
  List.flatMap_cons

theorem spellOut_cons_of_lt {c : Char} (hc : c.toNat < 0x100) (cs : List Char) :
    spellOut 0x100 (c :: cs) = c :: spellOut 0x100 cs := by
  rw [spellOut_cons, spell_of_lt hc]
  rfl

theorem spellOut_untouched {e : List Char} (he : ∀ c ∈ e, Untouched c) (cs : List Char) :
    spellOut 0x100 (e ++ cs) = e ++ spellOut 0x100 cs := by
  induction e with
  | nil => rfl
  | cons c e ih =>
    obtain ⟨hc, he⟩ := List.forall_mem_cons.mp he
    rw [List.cons_append, spellOut_cons_of_lt hc.2, ih he, List.cons_append]

/-- The first character after the writing is the one before, unless it had to be written as an escape. -/
theorem head_spellOut {cs : List Char} {x : Char} {back : List Char} (h : spellOut 0x100 cs = x :: back) :
    ∃ c rest, cs = c :: rest ∧
      ((c.toNat < 0x100 ∧ c = x ∧ back = spellOut 0x100 rest) ∨ (0x100 ≤ c.toNat ∧ x = '\\')) := by
  cases cs with
  | nil => nomatch h
  | cons c cs =>
    refine ⟨c, cs, rfl, ?_⟩
    rcases Nat.lt_or_ge c.toNat 0x100 with hc | hc
    · rw [spellOut_cons_of_lt hc] at h
      exact .inl ⟨hc, (List.cons.inj h).1, (List.cons.inj h).2.symm⟩
    · obtain ⟨letter, digits, -, hspell, -⟩ := spell_cases hc
      rw [spellOut_cons, hspell] at h
      exact .inr ⟨hc, (List.cons.inj h).1.symm⟩

/-- What stands in front of the written text without a backslash stood in front before. -/
theorem of_spellOut_eq_append {e cs back : List Char} (he : ∀ c ∈ e, c ≠ '\\') (h : spellOut 0x100 cs = e ++ back) :
    ∃ rest, cs = e ++ rest ∧ back = spellOut 0x100 rest := by
  induction e generalizing cs with
  | nil => exact ⟨cs, rfl, h.symm⟩
  | cons x e ih =>
    obtain ⟨hx, htail⟩ := List.forall_mem_cons.mp he
    obtain ⟨c, rest, rfl, ⟨-, rfl, hback⟩ | ⟨-, rfl⟩⟩ := head_spellOut h
    · obtain ⟨rest, rfl, rfl⟩ := ih htail hback.symm
      exact ⟨rest, rfl, rfl⟩
    · exact absurd rfl hx

theorem octalValue?_eq_none {c : Char} (hc : 0x100 ≤ c.toNat) : octalValue? c = none := by
  have hall : ∀ d ∈ octalDigits, d.toNat < 0x100 := List.all_iff_forall_prop.mp (by decide)
  refine Option.not_isSome_iff_eq_none.mp fun h => ?_
  exact (hall c (octalValue?_isSome_iff.mp h)).not_ge hc

theorem head_octal_spellOut_iff (cs : List Char) :
    (∀ c ∈ (spellOut 0x100 cs).head?, octalValue? c = none) ↔ ∀ c ∈ cs.head?, octalValue? c = none := by
  cases cs with
  | nil => rfl
  | cons c cs =>
    rcases Nat.lt_or_ge c.toNat 0x100 with hc | hc
    · rw [spellOut_cons_of_lt hc]
      rfl
    · obtain ⟨letter, digits, -, hspell, -⟩ := spell_cases hc
      rw [spellOut_cons, hspell]
      simp only [List.cons_append, List.head?_cons, Option.mem_some_iff, forall_eq', octalValue?_eq_none hc]
      exact iff_of_true (by decide) trivial

/-! ## Escapes and what stands behind them -/

section Names

variable {names : Names} {e rest : List Char} {value : List Nat}

theorem untouched_of_hexValue? {c : Char} (h : (hexValue? c).isSome = true) : Untouched c := by
  have hbackslash : (hexValue? '\\').isSome = false := by decide
  refine ⟨fun hc => ?_, ?_⟩
  · rw [hc, hbackslash] at h
    nomatch h
  · unfold hexValue? at h
    split_ifs at h with hdigit hlower hupper
    · have hle : c.toNat ≤ 57 := (Char.isDigit_iff_toNat.mp hdigit).2
      omega
    · have hle : c.toNat ≤ 102 := of_decide_eq_true (Bool.and_eq_true_iff.mp hlower).2
      omega
    · have hle : c.toNat ≤ 70 := of_decide_eq_true (Bool.and_eq_true_iff.mp hupper).2
      omega
    · nomatch h

theorem untouched_of_octalValue? {c : Char} (h : (octalValue? c).isSome = true) : Untouched c := by
  have hall : ∀ d ∈ octalDigits, Untouched d := List.all_iff_forall_prop.mp (by decide)
  exact hall c (octalValue?_isSome_iff.mp h)

theorem untouched_of_isNameChar {c : Char} (h : isNameChar c = true) : Untouched c := by
  simp only [isNameChar, Bool.or_eq_true, isAlphanum_iff_toNat, decide_eq_true_eq] at h
  rcases h with (h | rfl) | rfl
  · refine ⟨?_, by omega⟩
    rintro rfl
    rw [show ('\\' : Char).toNat = 92 from rfl] at h
    omega
  all_goals decide

theorem PlainNames.untouched (hnames : PlainNames names) {name : List Char} {c : Char} (h : names name = some c) :
    ∀ x ∈ name, Untouched x :=
  fun x hx => untouched_of_isNameChar (hnames name c h x hx)

/-- An escape is a backslash, or has only characters that are left as they are. -/
theorem Denotes.characters (hnames : PlainNames names) (h : Denotes names rest e value) :
    (e = ['\\'] ∧ value = ['\\'.toNat]) ∨ (e ≠ [] ∧ ∀ c ∈ e, Untouched c) := by
  cases h with
  | @short c value hmem =>
    have hall : ∀ p ∈ shortEscapes, p = ('\\', ['\\'.toNat]) ∨ Untouched p.1 := by decide
    rcases hall _ hmem with h | h
    · cases h
      exact .inl ⟨rfl, rfl⟩
    · exact .inr ⟨List.cons_ne_nil _ _, List.forall_mem_singleton.mpr h⟩
  | hex hletter _ hdigits _ =>
    have hall : ∀ p ∈ hexEscapes, Untouched p.1 := by decide
    exact .inr ⟨List.cons_ne_nil _ _, List.forall_mem_cons.mpr
      ⟨hall _ hletter, fun c hc => untouched_of_hexValue? (hdigits c hc)⟩⟩
  | octal hne hfill => exact .inr ⟨hne, fun c hc => untouched_of_octalValue? (hfill.are_digits c hc)⟩
  | name _ _ hnamed =>
    refine .inr ⟨List.cons_ne_nil _ _, List.forall_mem_cons.mpr ⟨by decide, List.forall_mem_cons.mpr ⟨by decide, ?_⟩⟩⟩
    exact List.forall_mem_append.mpr ⟨hnames.untouched hnamed, List.forall_mem_singleton.mpr (by decide)⟩

/-- What an octal escape stands for depends on the first character behind it, any other escape on none. -/
theorem Denotes.of_head {rest' : List Char}
    (hhead : (∀ c ∈ rest.head?, octalValue? c = none) → ∀ c ∈ rest'.head?, octalValue? c = none)
    (h : Denotes names rest e value) : Denotes names rest' e value := by
  cases h with
  | short h => exact .short h
  | hex hletter hlength hdigits hlt => exact .hex hletter hlength hdigits hlt
  | octal hne hfill => exact .octal hne ⟨hfill.are_digits, hfill.length_le, hfill.stops.imp_right hhead⟩
  | name hne hclosed hnamed => exact .name hne hclosed hnamed

theorem denotes_spellOut_iff : Denotes names (spellOut 0x100 rest) e value ↔ Denotes names rest e value :=
  ⟨Denotes.of_head (head_octal_spellOut_iff rest).mp, Denotes.of_head (head_octal_spellOut_iff rest).mpr⟩

/-! ## Reading what was written -/

theorem exposed_escape_iff (hnames : PlainNames names) (h : Denotes names rest e value) :
    Exposed ('\\' :: (e ++ rest)) ↔ Exposed rest := by
  rcases h.characters hnames with ⟨rfl, -⟩ | ⟨hne, he⟩
  · exact exposed_pair_iff rest
  · obtain ⟨c, e', rfl⟩ := List.exists_cons_of_ne_nil hne
    obtain ⟨hc, he⟩ := List.forall_mem_cons.mp he
    rw [List.cons_append, exposed_backslash_iff hc.1, exposed_untouched_iff he, or_iff_right hc.2.not_ge]

theorem spellOut_backslash (cs : List Char) : spellOut 0x100 ('\\' :: cs) = '\\' :: spellOut 0x100 cs :=
  spellOut_cons_of_lt backslash_lt cs

theorem spellOut_escape (hnames : PlainNames names) (h : Denotes names rest e value) :
    spellOut 0x100 ('\\' :: (e ++ rest)) = '\\' :: (e ++ spellOut 0x100 rest) := by
  rw [spellOut_backslash]
  rcases h.characters hnames with ⟨rfl, -⟩ | ⟨-, he⟩
  · exact congrArg _ (spellOut_backslash rest)
  · rw [spellOut_untouched he]

theorem ne_backslash_of_not_mem {c : Char} (hc : c ∉ escapeStarts) : c ≠ '\\' := by
  rintro rfl
  exact hc (by decide)

variable {p : List Char} {out : List Nat}

theorem reads_spellOut (hnames : PlainNames names) (h : Reads names p out) (hexposed : ¬ Exposed p) :
    Reads names (spellOut 0x100 p) out := by
  induction h with
  | nil => exact .nil
  | plain hc _ ih =>
    rw [spellOut_cons]
    exact (reads_spell_iff hc).mpr ⟨_, rfl, ih (mt (exposed_plain_iff hc _).mpr hexposed)⟩
  | escape he _ ih =>
    rw [spellOut_escape hnames he]
    exact .escape (denotes_spellOut_iff.mpr he) (ih (mt (exposed_escape_iff hnames he).mpr hexposed))
  | @kept c rest out hc _ ih =>
    rw [exposed_backslash_iff (ne_backslash_of_not_mem hc), not_or] at hexposed
    rw [spellOut_backslash, spellOut_cons_of_lt (Nat.not_le.mp hexposed.1)]
    exact .kept hc (ih hexposed.2)

/-- What is read behind a backslash of the written text stands behind it in the text, if nothing is exposed there. -/
theorem reads_spellOut_backslash_cases (hnames : PlainNames names) (h : Reads names ('\\' :: spellOut 0x100 p) out)
    (hexposed : ¬ Exposed ('\\' :: p)) :
    (∃ e rest value out', p = e ++ rest ∧ out = value ++ out' ∧ Denotes names rest e value ∧
      Reads names (spellOut 0x100 rest) out') ∨
    ∃ c rest out', p = c :: rest ∧ out = '\\'.toNat :: c.toNat :: out' ∧ c ∉ escapeStarts ∧
      Reads names (spellOut 0x100 rest) out' := by
  rcases reads_backslash_cases h with ⟨e, back, value, out', hp, rfl, he, hback⟩ | ⟨c, back, out', hp, rfl, hc, hback⟩
  · left
    rcases he.characters hnames with ⟨rfl, rfl⟩ | ⟨-, hcharacters⟩
    · -- a backslash of the written text is one of the text, or that of a new escape
      obtain ⟨c, rest, rfl, ⟨-, rfl, rfl⟩ | ⟨hc, -⟩⟩ := head_spellOut hp
      · exact ⟨['\\'], rest, _, out', rfl, rfl, .short (by decide), hback⟩
      · have hne : c ≠ '\\' := by
          rintro rfl
          exact backslash_lt.not_ge hc
        exact absurd ((exposed_backslash_iff hne rest).mpr (.inl hc)) hexposed
    · obtain ⟨rest, rfl, rfl⟩ := of_spellOut_eq_append (fun c hc => (hcharacters c hc).1) hp
      exact ⟨e, rest, value, out', rfl, rfl, denotes_spellOut_iff.mp he, hback⟩
  · right
    have hsingle : ∀ x ∈ [c], x ≠ '\\' := List.forall_mem_singleton.mpr (ne_backslash_of_not_mem hc)
    obtain ⟨rest, rfl, rfl⟩ := of_spellOut_eq_append hsingle hp
    exact ⟨c, rest, out', rfl, rfl, hc, hback⟩

theorem reads_of_reads_spellOut (hnames : PlainNames names) (h : Reads names (spellOut 0x100 p) out)
    (hexposed : ¬ Exposed p) : Reads names p out := by
  -- an escape may have several characters, so that the rest is shorter by more than one
  induction hn : p.length using Nat.strong_induction_on generalizing p out with
  | _ n ih =>
    subst hn
    match p with
    | [] => exact h
    | c :: p =>
      by_cases hc : c = '\\'
      · subst hc
        rw [spellOut_backslash] at h
        rcases reads_spellOut_backslash_cases hnames h hexposed with
          ⟨e, rest, value, out', rfl, rfl, he, hrest⟩ | ⟨c, rest, out', rfl, rfl, hc, hrest⟩
        · have hlength : rest.length < ('\\' :: (e ++ rest)).length := by
            rw [List.length_cons, List.length_append]
            omega
          exact .escape he (ih _ hlength hrest (mt (exposed_escape_iff hnames he).mpr hexposed) rfl)
        · have hlength : rest.length < ('\\' :: c :: rest).length := by
            rw [List.length_cons, List.length_cons]
            omega
          rw [exposed_backslash_iff (ne_backslash_of_not_mem hc), not_or] at hexposed
          exact .kept hc (ih _ hlength hrest hexposed.2 rfl)
      · rw [spellOut_cons, reads_spell_iff hc] at h
        obtain ⟨out', rfl, h⟩ := h
        exact .plain hc (ih _ (Nat.lt_succ_self _) h (mt (exposed_plain_iff hc p).mpr hexposed) rfl)

/-- Where no character from U+0100 on stands behind an odd number of backslashes, the text is read as if none had been
written as an escape. -/
theorem reads_spellOut_iff (hnames : PlainNames names) (hexposed : ¬ Exposed p) :
    Reads names (spellOut 0x100 p) out ↔ Reads names p out :=
  ⟨fun h => reads_of_reads_spellOut hnames h hexposed, fun h => reads_spellOut hnames h hexposed⟩

/-- Where one does, the text is read as something else. -/
theorem not_reads_spellOut (hnames : PlainNames names) (h : Reads names p out) (hexposed : Exposed p) :
    ¬ Reads names (spellOut 0x100 p) out := by
  intro hwritten
  induction h with
  | nil => exact not_exposed_nil hexposed
  | plain hc _ ih =>
    rw [spellOut_cons, reads_spell_iff hc] at hwritten
    obtain ⟨_, heq, hwritten⟩ := hwritten
    obtain rfl := (List.cons.inj heq).2
    exact ih ((exposed_plain_iff hc _).mp hexposed) hwritten
  | escape he _ ih =>
    rw [spellOut_escape hnames he, (denotes_spellOut_iff.mpr he).reads_iff] at hwritten
    obtain ⟨_, heq, hwritten⟩ := hwritten
    obtain rfl := List.append_cancel_left heq
    exact ih ((exposed_escape_iff hnames he).mp hexposed) hwritten
  | @kept c rest out hc _ ih =>
    rw [spellOut_backslash] at hwritten
    rcases Nat.lt_or_ge c.toNat 0x100 with hlow | hhigh
    · rw [spellOut_cons_of_lt hlow, reads_kept_iff hc] at hwritten
      obtain ⟨_, heq, hwritten⟩ := hwritten
      obtain rfl := (List.cons.inj (List.cons.inj heq).2).2
      rw [exposed_backslash_iff (ne_backslash_of_not_mem hc)] at hexposed
      exact ih (hexposed.resolve_left hlow.not_ge) hwritten
    · -- both backslashes are one pair, so that the letter of the new escape is read as a character
      obtain ⟨letter, digits, hletter, hspell, -⟩ := spell_cases hhigh
      have hpair : Denotes names (letter :: digits ++ spellOut 0x100 rest) ['\\'] ['\\'.toNat] := .short (by decide)
      rw [spellOut_cons, hspell] at hwritten
      obtain ⟨_, heq, hwritten⟩ := hpair.reads_iff.mp hwritten
      rw [List.cons_append, reads_plain_iff hletter.1] at hwritten
      obtain ⟨_, rfl, -⟩ := hwritten
      have hsame : c.toNat = letter.toNat := (List.cons.inj (List.cons.inj heq).2).1
      exact hletter.2.not_ge (hsame ▸ hhigh)

end Names

end TopicShell.Text.Escape
