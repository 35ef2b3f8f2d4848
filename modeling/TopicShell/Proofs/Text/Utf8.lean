import TopicShell.Text.Utf8
import Mathlib.Data.Nat.Find
import Mathlib.Data.List.Infix
import Mathlib.Tactic.Common

/-!
# What octets stand for

`Decodes` says which characters octets stand for, and it speaks of the whole row of octets and not of a
decoder: the octets of a character give this character; where no character stands, the longest part that
begins the octets of some character gives one replacement character, or a single octet does
(`MaximalSubpart`).

The decoder goes from octet to octet and does not know what will come.  `Completes` says for each of its
states which octets complete the character that has been begun.  From this follow the two equations of
`decode`, for a character (`decode_encodeChar`) and for a maximal subpart (`decode_maximalSubpart`), and
that octets stand for what the decoder finds and for nothing else (`decodes_iff`).
-/

namespace TopicShell.Text.Utf8

/-! ## Octet by octet -/

theorem feedRev_eq (s : State) (acc : List Char) (os : Octets) :
    feedRev (s, acc) os = ((feed s os).1, (feed s os).2.reverse ++ acc) := by
  induction os generalizing s acc with
  | nil => rfl
  | cons b os ih =>
    have hcons : ∀ acc, feedRev (s, acc) (b :: os)
        = feedRev ((step s b).1, (step s b).2.reverse ++ acc) os := fun _ => rfl
    rw [feed, hcons, hcons, ih, ih]
    simp

theorem feed_cons (s : State) (b : UInt8) (os : Octets) :
    feed s (b :: os) = ((feed (step s b).1 os).1, (step s b).2 ++ (feed (step s b).1 os).2) := by
  show ((feedRev ((step s b).1, (step s b).2.reverse ++ []) os).1,
    (feedRev ((step s b).1, (step s b).2.reverse ++ []) os).2.reverse) = _
  rw [feedRev_eq]
  simp

theorem feed_append (s : State) (os os' : Octets) :
    feed s (os ++ os') = ((feed (feed s os).1 os').1, (feed s os).2 ++ (feed (feed s os).1 os').2) := by
  rw [feed, feedRev_append, feedRev_eq s [] os, feedRev_eq]
  simp

/-- All characters of octets that come in a state. -/
def decodeFrom (s : State) (os : Octets) : List Char :=
  (feed s os).2 ++ finish (feed s os).1

theorem decode_eq (os : Octets) : decode os = decodeFrom .idle os := rfl

theorem decodeFrom_cons (s : State) (b : UInt8) (os : Octets) :
    decodeFrom s (b :: os) = (step s b).2 ++ decodeFrom (step s b).1 os := by
  rw [decodeFrom, feed_cons, List.append_assoc]
  rfl

theorem decodeFrom_append {s s' : State} {os : Octets} {cs : List Char} (h : feed s os = (s', cs))
    (os' : Octets) : decodeFrom s (os ++ os') = cs ++ decodeFrom s' os' := by
  rw [decodeFrom, feed_append, h, List.append_assoc]
  rfl

theorem decode_cons (b : UInt8) (os : Octets) :
    decode (b :: os) = (first b).2 ++ decodeFrom (first b).1 os :=
  decodeFrom_cons .idle b os

theorem decodeFrom_surrogate (os : Octets) :
    decodeFrom .surrogate os = replacement :: replacement :: decode os := by
  cases os with
  | nil => rfl
  | cons b os =>
    rw [decodeFrom_cons, decode_cons]
    rfl

/-! ## First octets -/

section First

variable {b : UInt8}

theorem first_one (h : b < 0x80) : first b = (.idle, [Char.ofNat b.toNat]) := by
  rw [first, if_pos h]

theorem first_two (h : 0xc2 ≤ b) (h' : b < 0xe0) :
    first b = (.within 1 0x80 0xbf (b.toNat - 0xc0), []) := by
  grind [first]

theorem first_three (h : 0xe0 ≤ b) (h' : b < 0xf0) :
    first b = (.within 2 (if b = 0xe0 then 0xa0 else 0x80) (if b = 0xed then 0x9f else 0xbf)
      (b.toNat - 0xe0), []) := by
  grind [first]

theorem first_four (h : 0xf0 ≤ b) (h' : b < 0xf5) :
    first b = (.within 3 (if b = 0xf0 then 0x90 else 0x80) (if b = 0xf4 then 0x8f else 0xbf)
      (b.toNat - 0xf0), []) := by
  grind [first]

theorem first_none (h : 0x80 ≤ b) (h' : b < 0xc2 ∨ 0xf5 ≤ b) : first b = (.idle, [replacement]) := by
  grind [first]

/-- What a first octet can be. -/
theorem first_cases (b : UInt8) : b < 0x80 ∨ 0x80 ≤ b ∧ (b < 0xc2 ∨ 0xf5 ≤ b) ∨ 0xc2 ≤ b ∧ b < 0xe0 ∨
    0xe0 ≤ b ∧ b < 0xf0 ∨ 0xf0 ≤ b ∧ b < 0xf5 := by
  grind

end First

/-! ## Characters that have been begun -/

/-- Octets complete a character that has been begun: each lies in the range that the state asks for. -/
inductive Completes : State → Octets → Char → Prop where
  | last {low high b : UInt8} {bits : Nat} (hlow : low ≤ b) (hhigh : b ≤ high) :
      Completes (.within 1 low high bits) [b] (Char.ofNat (bits * 64 + (b.toNat - 0x80)))
  | more {low high b : UInt8} {missing bits : Nat} {tail : Octets} {c : Char} (hlow : low ≤ b) (hhigh : b ≤ high)
      (h : Completes (.within (missing + 1) 0x80 0xbf (bits * 64 + (b.toNat - 0x80))) tail c) :
      Completes (.within (missing + 2) low high bits) (b :: tail) c

section Completes

variable {low high b : UInt8} {missing bits : Nat}

theorem step_last (hlow : low ≤ b) (hhigh : b ≤ high) :
    step (.within 1 low high bits) b = (.idle, [Char.ofNat (bits * 64 + (b.toNat - 0x80))]) := by
  simp [step, hlow, hhigh]

theorem step_more (hlow : low ≤ b) (hhigh : b ≤ high) :
    step (.within (missing + 2) low high bits) b
      = (.within (missing + 1) 0x80 0xbf (bits * 64 + (b.toNat - 0x80)), []) := by
  simp [step, hlow, hhigh]

theorem Completes.feed {s : State} {tail : Octets} {c : Char} (h : Completes s tail c) :
    feed s tail = (.idle, [c]) := by
  induction h with
  | last hlow hhigh =>
    rw [feed_cons, step_last hlow hhigh]
    rfl
  | more hlow hhigh _ ih =>
    rw [feed_cons, step_more hlow hhigh, ih]
    rfl

/-- Every octet in the range that a state asks for can be followed by others that complete a character. -/
theorem exists_completes (missing bits : Nat) (hlow : low ≤ b) (hhigh : b ≤ high) :
    ∃ tail c, Completes (.within (missing + 1) low high bits) (b :: tail) c := by
  induction missing generalizing low high b bits with
  | zero => exact ⟨[], _, .last hlow hhigh⟩
  | succ missing ih =>
    have hin : (0x80 : UInt8) ≤ 0x80 ∧ (0x80 : UInt8) ≤ 0xbf := by decide
    obtain ⟨tail, c, h⟩ := ih _ hin.1 hin.2
    exact ⟨0x80 :: tail, c, .more hlow hhigh h⟩

/-- A part of the octets that complete a character leads to a state that the others complete. -/
theorem Completes.part {s : State} {part rest : Octets} {c : Char} (h : Completes s (part ++ rest) c)
    (hrest : rest ≠ []) :
    ∃ s', Utf8.feed s part = (s', []) ∧ ∀ rest c, Completes s' rest c ↔ Completes s (part ++ rest) c := by
  induction part generalizing s with
  | nil => exact ⟨s, rfl, fun _ _ => Iff.rfl⟩
  | cons b part ih =>
    rw [List.cons_append] at h
    cases hmore : part ++ rest with
    | nil => exact absurd (List.append_eq_nil_iff.mp hmore).2 hrest
    | cons b' more =>
      rw [hmore] at h
      cases h with
      | more hlow hhigh h =>
        rw [← hmore] at h
        obtain ⟨s', hfeed, hiff⟩ := ih h
        refine ⟨s', ?_, ?_⟩
        · rw [feed_cons, step_more hlow hhigh, hfeed]
          rfl
        · intro rest' c'
          rw [hiff]
          constructor
          · exact .more hlow hhigh
          · intro h'
            cases h' with
            | more _ _ h' => exact h'

/-- An octet that completes nothing, or the end, gives a replacement character for what has been begun; then
all is as if nothing had been begun. -/
theorem Completes.decodeFrom_of_not {s : State} {tail : Octets} {c : Char} (h : Completes s tail c) {os : Octets}
    (hos : ∀ b more, os = b :: more → ∀ tail c, ¬ Completes s (b :: tail) c) :
    decodeFrom s os = replacement :: decode os := by
  obtain ⟨missing, low, high, bits, rfl⟩ : ∃ missing low high bits, s = .within (missing + 1) low high bits := by
    cases h
    · exact ⟨_, _, _, _, rfl⟩
    · exact ⟨_, _, _, _, rfl⟩
  cases os with
  | nil => rfl
  | cons b more =>
    have hout : (decide (low ≤ b) && decide (b ≤ high)) = false := by
      rw [← Bool.not_eq_true, Bool.and_eq_true, decide_eq_true_eq, decide_eq_true_eq]
      rintro ⟨hlow, hhigh⟩
      obtain ⟨tail, c, hc⟩ := exists_completes missing bits hlow hhigh
      exact hos b more rfl tail c hc
    rw [decodeFrom_cons, decode_cons, step, hout]
    simp only [Bool.false_eq_true, if_false]
    split_ifs with hsurrogate
    · -- two octets that only a surrogate begins with are kept back together
      have hfirst : first b = (.idle, [replacement]) := by
        refine first_none ?_ (.inl ?_) <;> grind
      rw [hfirst, decodeFrom_surrogate]
      rfl
    · rfl

end Completes

/-! ## The octets of a character -/

theorem toNat_ofNat_of_valid {v : Nat} (h : v.isValidChar) : (Char.ofNat v).val.toNat = v := by
  rw [Char.ofNat, dif_pos h]
  rfl

theorem ofNat_eq_of_toNat {v : Nat} {b : UInt8} (h : v = b.toNat) : UInt8.ofNat v = b := by
  rw [h, UInt8.ofNat_toNat]

theorem tail_iff {b : UInt8} : 0x80 ≤ b ∧ b ≤ 0xbf ↔ 0x80 ≤ b.toNat ∧ b.toNat ≤ 0xbf := by
  rw [UInt8.le_iff_toNat_le, UInt8.le_iff_toNat_le]
  rfl

/-- The range of a second octet, by the first one. -/
theorem second_iff {b b₁ e e' : UInt8} (low high : UInt8) (hlow : 0x80 ≤ low) (hhigh : high ≤ 0xbf) :
    ((if b = e then low else 0x80) ≤ b₁ ∧ b₁ ≤ if b = e' then high else 0xbf) ↔
      (0x80 ≤ b₁.toNat ∧ b₁.toNat ≤ 0xbf) ∧ (b.toNat = e.toNat → low.toNat ≤ b₁.toNat) ∧
        (b.toNat = e'.toNat → b₁.toNat ≤ high.toNat) := by
  have hlow' : 0x80 ≤ low.toNat := UInt8.le_iff_toNat_le.mp hlow
  have hhigh' : high.toNat ≤ 0xbf := UInt8.le_iff_toNat_le.mp hhigh
  rw [UInt8.le_iff_toNat_le, UInt8.le_iff_toNat_le, apply_ite UInt8.toNat, apply_ite UInt8.toNat]
  simp only [← UInt8.toNat_inj]
  show ((if b.toNat = e.toNat then low.toNat else 0x80) ≤ b₁.toNat ∧
    b₁.toNat ≤ if b.toNat = e'.toNat then high.toNat else 0xbf) ↔ _
  split_ifs <;> omega

section Numbers

variable {b : UInt8} {tail : Octets} {c : Char}

theorem completes_one_iff {bits : Nat} :
    Completes (.within 1 0x80 0xbf bits) tail c ↔ ∃ b, tail = [b] ∧ (0x80 ≤ b.toNat ∧ b.toNat ≤ 0xbf) ∧
      Char.ofNat (bits * 64 + (b.toNat - 0x80)) = c := by
  constructor
  · intro h
    generalize hs : State.within 1 0x80 0xbf bits = s at h
    cases h with
    | @last _ _ b _ hlow hhigh =>
      cases hs
      exact ⟨b, rfl, tail_iff.mp ⟨hlow, hhigh⟩, rfl⟩
    | more => cases hs
  · rintro ⟨b, rfl, hb, rfl⟩
    obtain ⟨hlow, hhigh⟩ := tail_iff.mpr hb
    exact .last hlow hhigh

theorem completes_more_iff {low high : UInt8} {missing bits : Nat} :
    Completes (.within (missing + 2) low high bits) tail c ↔ ∃ b more, tail = b :: more ∧ (low ≤ b ∧ b ≤ high) ∧
      Completes (.within (missing + 1) 0x80 0xbf (bits * 64 + (b.toNat - 0x80))) more c := by
  constructor
  · intro h
    cases h with
    | @more _ _ b _ _ more _ hlow hhigh h => exact ⟨b, more, rfl, ⟨hlow, hhigh⟩, h⟩
  · rintro ⟨b, more, rfl, ⟨hlow, hhigh⟩, h⟩
    exact .more hlow hhigh h

theorem completes_two_iff (h : 0xc2 ≤ b) (h' : b < 0xe0) :
    Completes (first b).1 tail c ↔ ∃ b₁, tail = [b₁] ∧ (0x80 ≤ b₁.toNat ∧ b₁.toNat ≤ 0xbf) ∧
      Char.ofNat ((b.toNat - 0xc0) * 64 + (b₁.toNat - 0x80)) = c := by
  rw [first_two h h', completes_one_iff]

theorem completes_three_iff (h : 0xe0 ≤ b) (h' : b < 0xf0) :
    Completes (first b).1 tail c ↔ ∃ b₁ b₂, tail = [b₁, b₂] ∧
      ((0x80 ≤ b₁.toNat ∧ b₁.toNat ≤ 0xbf) ∧ (b.toNat = 0xe0 → 0xa0 ≤ b₁.toNat) ∧
        (b.toNat = 0xed → b₁.toNat ≤ 0x9f)) ∧ (0x80 ≤ b₂.toNat ∧ b₂.toNat ≤ 0xbf) ∧
      Char.ofNat (((b.toNat - 0xe0) * 64 + (b₁.toNat - 0x80)) * 64 + (b₂.toNat - 0x80)) = c := by
  simp only [first_three h h', completes_more_iff, Nat.reduceAdd, completes_one_iff,
    second_iff 0xa0 0x9f (by decide) (by decide)]
  constructor
  · rintro ⟨b₁, _, rfl, h₁, b₂, rfl, h₂, rfl⟩
    exact ⟨b₁, b₂, rfl, h₁, h₂, rfl⟩
  · rintro ⟨b₁, b₂, rfl, h₁, h₂, rfl⟩
    exact ⟨b₁, _, rfl, h₁, b₂, rfl, h₂, rfl⟩

theorem completes_four_iff (h : 0xf0 ≤ b) (h' : b < 0xf5) :
    Completes (first b).1 tail c ↔ ∃ b₁ b₂ b₃, tail = [b₁, b₂, b₃] ∧
      ((0x80 ≤ b₁.toNat ∧ b₁.toNat ≤ 0xbf) ∧ (b.toNat = 0xf0 → 0x90 ≤ b₁.toNat) ∧
        (b.toNat = 0xf4 → b₁.toNat ≤ 0x8f)) ∧ (0x80 ≤ b₂.toNat ∧ b₂.toNat ≤ 0xbf) ∧
      (0x80 ≤ b₃.toNat ∧ b₃.toNat ≤ 0xbf) ∧
      Char.ofNat ((((b.toNat - 0xf0) * 64 + (b₁.toNat - 0x80)) * 64 + (b₂.toNat - 0x80)) * 64
        + (b₃.toNat - 0x80)) = c := by
  simp only [first_four h h', completes_more_iff, Nat.reduceAdd, completes_one_iff, tail_iff,
    second_iff 0x90 0x8f (by decide) (by decide)]
  constructor
  · rintro ⟨b₁, _, rfl, h₁, b₂, _, rfl, h₂, b₃, rfl, h₃, rfl⟩
    exact ⟨b₁, b₂, b₃, rfl, h₁, h₂, h₃, rfl⟩
  · rintro ⟨b₁, b₂, b₃, rfl, h₁, h₂, h₃, rfl⟩
    exact ⟨b₁, _, rfl, h₁, b₂, _, rfl, h₂, b₃, rfl, h₃, rfl⟩

end Numbers

/-- A first octet and octets that complete it are those of a character. -/
theorem encodeChar_of_completes {c : Char} {b : UInt8} {tail : Octets} (h : Completes (first b).1 tail c) :
    String.utf8EncodeChar c = b :: tail := by
  rcases first_cases b with hb | hb | ⟨hb, hb'⟩ | ⟨hb, hb'⟩ | ⟨hb, hb'⟩
  · rw [first_one hb] at h
    cases h
  · rw [first_none hb.1 hb.2] at h
    cases h
  · obtain ⟨b₁, rfl, h₁, rfl⟩ := (completes_two_iff hb hb').mp h
    have hn : 0xc2 ≤ b.toNat := UInt8.le_iff_toNat_le.mp hb
    have hn' : b.toNat < 0xe0 := UInt8.lt_iff_toNat_lt.mp hb'
    have hv : ((b.toNat - 0xc0) * 64 + (b₁.toNat - 0x80)).isValidChar := .inl (by omega)
    simp only [String.utf8EncodeChar, toNat_ofNat_of_valid hv]
    rw [if_neg (by omega), if_pos (by omega), ofNat_eq_of_toNat (b := b) (by omega),
      ofNat_eq_of_toNat (b := b₁) (by omega)]
  · obtain ⟨b₁, b₂, rfl, h₁, h₂, rfl⟩ := (completes_three_iff hb hb').mp h
    have hn : 0xe0 ≤ b.toNat := UInt8.le_iff_toNat_le.mp hb
    have hn' : b.toNat < 0xf0 := UInt8.lt_iff_toNat_lt.mp hb'
    have hv : (((b.toNat - 0xe0) * 64 + (b₁.toNat - 0x80)) * 64 + (b₂.toNat - 0x80)).isValidChar := by
      unfold Nat.isValidChar
      omega
    simp only [String.utf8EncodeChar, toNat_ofNat_of_valid hv]
    rw [if_neg (by omega), if_neg (by omega), if_pos (by omega), ofNat_eq_of_toNat (b := b) (by omega),
      ofNat_eq_of_toNat (b := b₁) (by omega), ofNat_eq_of_toNat (b := b₂) (by omega)]
  · obtain ⟨b₁, b₂, b₃, rfl, h₁, h₂, h₃, rfl⟩ := (completes_four_iff hb hb').mp h
    have hn : 0xf0 ≤ b.toNat := UInt8.le_iff_toNat_le.mp hb
    have hn' : b.toNat < 0xf5 := UInt8.lt_iff_toNat_lt.mp hb'
    have hv : ((((b.toNat - 0xf0) * 64 + (b₁.toNat - 0x80)) * 64 + (b₂.toNat - 0x80)) * 64
        + (b₃.toNat - 0x80)).isValidChar := by
      unfold Nat.isValidChar
      omega
    simp only [String.utf8EncodeChar, toNat_ofNat_of_valid hv]
    rw [if_neg (by omega), if_neg (by omega), if_neg (by omega), ofNat_eq_of_toNat (b := b) (by omega),
      ofNat_eq_of_toNat (b := b₁) (by omega), ofNat_eq_of_toNat (b := b₂) (by omega),
      ofNat_eq_of_toNat (b := b₃) (by omega)]

/-- The octets of a character are a first octet, and octets that complete it. -/
theorem completes_of_encodeChar (c : Char) : ∃ b tail, String.utf8EncodeChar c = b :: tail ∧
    ((b < 0x80 ∧ c = Char.ofNat b.toNat ∧ tail = []) ∨ Completes (first b).1 tail c) := by
  have hvalid : c.toNat < 0xd800 ∨ 0xdfff < c.toNat ∧ c.toNat < 0x110000 := c.valid
  have hc : Char.ofNat c.toNat = c := Char.ofNat_toNat c
  have ofNat_lt : ∀ {n : Nat}, n < 256 → (UInt8.ofNat n).toNat = n := UInt8.toNat_ofNat_of_lt'
  have hv : c.val.toNat = c.toNat := rfl
  simp only [String.utf8EncodeChar, hv]
  generalize c.toNat = v at hvalid hc ⊢
  split_ifs with h₁ h₂ h₃
  · refine ⟨_, _, rfl, .inl ⟨?_, ?_, rfl⟩⟩
    · rw [UInt8.lt_iff_toNat_lt, ofNat_lt (by omega)]
      exact Nat.lt_succ_of_le h₁
    · rw [ofNat_lt (by omega), hc]
  · refine ⟨_, _, rfl, .inr ((completes_two_iff ?_ ?_).mpr ⟨_, rfl, ?_, ?_⟩)⟩
    · rw [UInt8.le_iff_toNat_le, ofNat_lt (by omega)]
      show 0xc2 ≤ _
      omega
    · rw [UInt8.lt_iff_toNat_lt, ofNat_lt (by omega)]
      show _ < 0xe0
      omega
    · rw [ofNat_lt (by omega)]
      omega
    · rw [ofNat_lt (by omega), ofNat_lt (by omega)]
      refine (congrArg Char.ofNat ?_).trans hc
      omega
  · refine ⟨_, _, rfl, .inr ((completes_three_iff ?_ ?_).mpr ⟨_, _, rfl, ?_, ?_, ?_⟩)⟩
    · rw [UInt8.le_iff_toNat_le, ofNat_lt (by omega)]
      show 0xe0 ≤ _
      omega
    · rw [UInt8.lt_iff_toNat_lt, ofNat_lt (by omega)]
      show _ < 0xf0
      omega
    · rw [ofNat_lt (by omega), ofNat_lt (by omega)]
      omega
    · rw [ofNat_lt (by omega)]
      omega
    · rw [ofNat_lt (by omega), ofNat_lt (by omega), ofNat_lt (by omega)]
      refine (congrArg Char.ofNat ?_).trans hc
      omega
  · refine ⟨_, _, rfl, .inr ((completes_four_iff ?_ ?_).mpr ⟨_, _, _, rfl, ?_, ?_, ?_, ?_⟩)⟩
    · rw [UInt8.le_iff_toNat_le, ofNat_lt (by omega)]
      show 0xf0 ≤ _
      omega
    · rw [UInt8.lt_iff_toNat_lt, ofNat_lt (by omega)]
      show _ < 0xf5
      omega
    · rw [ofNat_lt (by omega), ofNat_lt (by omega)]
      omega
    · rw [ofNat_lt (by omega)]
      omega
    · rw [ofNat_lt (by omega)]
      omega
    · rw [ofNat_lt (by omega), ofNat_lt (by omega), ofNat_lt (by omega), ofNat_lt (by omega)]
      refine (congrArg Char.ofNat ?_).trans hc
      omega

/-! ## Octets as a whole -/

/-- Octets that begin those of a character, without being all of them. -/
def Opens (part : Octets) : Prop :=
  ∃ c rest, rest ≠ [] ∧ String.utf8EncodeChar c = part ++ rest

/-- With `part ++ rest` no character begins, and `part` is the longest part in front that begins the octets of
a character, or one octet if there is none. -/
structure MaximalSubpart (part rest : Octets) : Prop where
  illFormed : ∀ c, ¬ String.utf8EncodeChar c <+: part ++ rest
  ne_nil : part ≠ []
  opens : Opens part ∨ part.length = 1
  longest : ∀ longer, longer <+: part ++ rest → Opens longer → longer.length ≤ part.length

/-- The characters that octets stand for, with a replacement character for each maximal subpart. -/
inductive Decodes : Octets → List Char → Prop where
  | nil : Decodes [] []
  | char {rest : Octets} {chars : List Char} (c : Char) (h : Decodes rest chars) :
      Decodes (String.utf8EncodeChar c ++ rest) (c :: chars)
  | illFormed {part rest : Octets} {chars : List Char} (hpart : MaximalSubpart part rest) (h : Decodes rest chars) :
      Decodes (part ++ rest) (replacement :: chars)

theorem first_of_completes {b : UInt8} {tail : Octets} {c : Char} (h : Completes (first b).1 tail c) :
    (first b).2 = [] := by
  rcases first_cases b with hb | hb | ⟨hb, hb'⟩ | ⟨hb, hb'⟩ | ⟨hb, hb'⟩
  · rw [first_one hb] at h
    cases h
  · rw [first_none hb.1 hb.2] at h
    cases h
  · rw [first_two hb hb']
  · rw [first_three hb hb']
  · rw [first_four hb hb']

theorem decode_encodeChar (c : Char) (rest : Octets) :
    decode (String.utf8EncodeChar c ++ rest) = c :: decode rest := by
  obtain ⟨b, tail, hc, ⟨hb, hchar, rfl⟩ | h⟩ := completes_of_encodeChar c
  · rw [hc, List.cons_append, decode_cons, first_one hb, ← hchar]
    rfl
  · rw [hc, List.cons_append, decode_cons, first_of_completes h, decodeFrom_append h.feed]
    rfl

/-- An octet with which nothing begins, neither a character nor a part of one. -/
theorem first_of_not_opens {b : UInt8} {rest : Octets} (hchar : ∀ c, ¬ String.utf8EncodeChar c <+: b :: rest)
    (hopens : ¬ Opens [b]) : first b = (.idle, [replacement]) := by
  have hnone : ∀ tail c, ¬ Completes (first b).1 tail c := by
    intro tail c h
    have hc := encodeChar_of_completes h
    cases tail with
    | nil => exact hchar c (hc ▸ List.prefix_append [b] rest)
    | cons b₁ tail => exact hopens ⟨c, b₁ :: tail, List.cons_ne_nil _ _, hc⟩
  have hwithin : ∀ {missing low high bits}, first b = (.within (missing + 1) low high bits, []) → ¬ low ≤ high := by
    intro missing low high bits hfirst hle
    obtain ⟨tail, c, h⟩ := exists_completes missing bits (UInt8.le_refl low) hle
    exact hnone _ _ (by rwa [hfirst])
  rcases first_cases b with hb | hb | ⟨hb, hb'⟩ | ⟨hb, hb'⟩ | ⟨hb, hb'⟩
  · have hb₁ : b.toNat < 0x80 := UInt8.lt_iff_toNat_lt.mp hb
    have hc : String.utf8EncodeChar (Char.ofNat b.toNat) = [b] := by
      rw [String.utf8EncodeChar, toNat_ofNat_of_valid (.inl (by omega)), if_pos (by omega), UInt8.ofNat_toNat]
    exact absurd (hc ▸ List.prefix_append [b] rest) (hchar (Char.ofNat b.toNat))
  · exact first_none hb.1 hb.2
  · exact absurd (by decide) (hwithin (first_two hb hb'))
  · exact absurd (by grind) (hwithin (first_three hb hb'))
  · exact absurd (by grind) (hwithin (first_four hb hb'))

theorem decode_maximalSubpart {part rest : Octets} (h : MaximalSubpart part rest) :
    decode (part ++ rest) = replacement :: decode rest := by
  obtain ⟨b, part, rfl⟩ := List.exists_cons_of_ne_nil h.ne_nil
  by_cases hopens : Opens (b :: part)
  · obtain ⟨c, more, hmore, hc⟩ := hopens
    obtain ⟨b', tail, hc', hcases⟩ := completes_of_encodeChar c
    obtain ⟨rfl, rfl⟩ : b' = b ∧ tail = part ++ more := by
      rw [hc', List.cons_append, List.cons.injEq] at hc
      exact hc
    have hcompletes : Completes (first b').1 (part ++ more) c := by
      refine hcases.resolve_left ?_
      rintro ⟨_, _, hnil⟩
      exact hmore (List.append_eq_nil_iff.mp hnil).2
    obtain ⟨s', hfeed, hiff⟩ := hcompletes.part hmore
    rw [List.cons_append, decode_cons, first_of_completes hcompletes, decodeFrom_append hfeed]
    refine ((hiff more c).mpr hcompletes).decodeFrom_of_not ?_
    -- an octet that went on with the part would make it longer, or a character
    rintro b₁ rest₁ rfl tail c' h'
    have hc₁ : String.utf8EncodeChar c' = (b' :: part ++ [b₁]) ++ tail := by
      rw [encodeChar_of_completes ((hiff _ _).mp h')]
      simp
    have hprefix : b' :: part ++ [b₁] <+: b' :: part ++ b₁ :: rest₁ := ⟨rest₁, by simp⟩
    cases tail with
    | nil =>
      rw [List.append_nil] at hc₁
      exact h.illFormed c' (hc₁ ▸ hprefix)
    | cons b₂ tail =>
      have hle := h.longest _ hprefix ⟨c', _, List.cons_ne_nil b₂ tail, hc₁⟩
      rw [List.length_append, List.length_singleton] at hle
      exact absurd hle (Nat.not_succ_le_self _)
  · obtain rfl : part = [] := by
      have hone := h.opens.resolve_left hopens
      exact List.length_eq_zero_iff.mp (Nat.succ.inj hone)
    rw [List.cons_append, decode_cons, first_of_not_opens h.illFormed hopens]
    rfl

theorem exists_maximalSubpart {os : Octets} (hne : os ≠ []) (hchar : ∀ c, ¬ String.utf8EncodeChar c <+: os) :
    ∃ part rest, os = part ++ rest ∧ MaximalSubpart part rest := by
  classical
  let P : Nat → Prop := fun n => n = 1 ∨ Opens (os.take n)
  have hone : 1 ≤ os.length := List.length_pos_iff.mpr hne
  have hP : P (Nat.findGreatest P os.length) := Nat.findGreatest_spec hone (.inl rfl)
  have hpos : 1 ≤ Nat.findGreatest P os.length := Nat.le_findGreatest hone (.inl rfl)
  have hle : Nat.findGreatest P os.length ≤ os.length := Nat.findGreatest_le _
  have hgreatest : ∀ n ≤ os.length, P n → n ≤ Nat.findGreatest P os.length :=
    fun n hn hPn => Nat.le_findGreatest hn hPn
  generalize Nat.findGreatest P os.length = n at hP hpos hle hgreatest
  have hlength : (os.take n).length = n := List.length_take_of_le hle
  have hos : os.take n ++ os.drop n = os := List.take_append_drop n os
  refine ⟨os.take n, os.drop n, hos.symm, ?_, ?_, ?_, ?_⟩
  · rwa [hos]
  · rw [← List.length_pos_iff, hlength]
    exact hpos
  · rw [hlength]
    exact hP.symm
  · rw [hos, hlength]
    intro longer hprefix hopens
    refine hgreatest _ hprefix.length_le (.inr ?_)
    rwa [← List.prefix_iff_eq_take.mp hprefix]

theorem decode_of_decodes {os : Octets} {chars : List Char} (h : Decodes os chars) : decode os = chars := by
  induction h with
  | nil => rfl
  | char c _ ih => rw [decode_encodeChar, ih]
  | illFormed hpart _ ih => rw [decode_maximalSubpart hpart, ih]

theorem decodes_decode (os : Octets) : Decodes os (decode os) := by
  induction hlength : os.length using Nat.strongRecOn generalizing os with
  | ind length ih =>
    by_cases hne : os = []
    · subst hne
      exact .nil
    · by_cases hchar : ∃ c, String.utf8EncodeChar c <+: os
      · obtain ⟨c, rest, rfl⟩ := hchar
        have hpos := List.length_pos_iff.mpr (String.utf8EncodeChar_ne_nil (c := c))
        rw [List.length_append] at hlength
        rw [decode_encodeChar]
        exact .char c (ih rest.length (by omega) rest rfl)
      · obtain ⟨part, rest, rfl, hpart⟩ := exists_maximalSubpart hne (not_exists.mp hchar)
        have hpos := List.length_pos_iff.mpr hpart.ne_nil
        rw [List.length_append] at hlength
        rw [decode_maximalSubpart hpart]
        exact .illFormed hpart (ih rest.length (by omega) rest rfl)

/-- **What octets stand for.**  It is what the decoder finds, and nothing else. -/
theorem decodes_iff {os : Octets} {chars : List Char} : Decodes os chars ↔ chars = decode os := by
  constructor
  · exact fun h => (decode_of_decodes h).symm
  · rintro rfl
    exact decodes_decode os

end TopicShell.Text.Utf8
