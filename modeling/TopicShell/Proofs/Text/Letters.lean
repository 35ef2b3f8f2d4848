import TopicShell.Text.Case
import Mathlib.Tactic.SplitIfs

/-!
# Letters and their case

The ASCII classes by the numbers of their characters, and the texts that lower case leaves alone.
-/

namespace TopicShell.Text

variable {c : Char}

theorem isUpper_iff : c.isUpper = true ↔ 65 ≤ c.toNat ∧ c.toNat ≤ 90 := by
  change decide (65 ≤ c.val ∧ c.val ≤ 90) = true ↔ _
  exact decide_eq_true_iff

theorem isLower_iff : c.isLower = true ↔ 97 ≤ c.toNat ∧ c.toNat ≤ 122 :=
  Bool.and_eq_true_iff.trans (and_congr decide_eq_true_iff decide_eq_true_iff)

theorem isDigit_iff : c.isDigit = true ↔ 48 ≤ c.toNat ∧ c.toNat ≤ 57 :=
  Char.isDigit_iff_toNat

theorem isAlpha_iff : c.isAlpha = true ↔ c.isUpper = true ∨ c.isLower = true :=
  Bool.or_eq_true_iff

theorem isAlphanum_iff : c.isAlphanum = true ↔ c.isAlpha = true ∨ c.isDigit = true :=
  Bool.or_eq_true_iff

theorem isAlphanum_iff_toNat :
    c.isAlphanum = true ↔
      ((65 ≤ c.toNat ∧ c.toNat ≤ 90) ∨ (97 ≤ c.toNat ∧ c.toNat ≤ 122)) ∨ (48 ≤ c.toNat ∧ c.toNat ≤ 57) := by
  rw [isAlphanum_iff, isAlpha_iff, isUpper_iff, isLower_iff, isDigit_iff]

theorem toLower_of_not_isUpper (h : ¬ c.isUpper = true) : c.toLower = c :=
  dif_neg fun hbounds => h (isUpper_iff.mpr hbounds)

theorem toUpper_of_not_isLower (h : ¬ c.isLower = true) : c.toUpper = c :=
  dif_neg fun hbounds => h (isLower_iff.mpr hbounds)

theorem isAlpha_of_toLower (h : c.toLower.isAlpha = true) : c.isAlpha = true := by
  by_cases hupper : c.isUpper = true
  · exact isAlpha_iff.mpr (.inl hupper)
  · rwa [toLower_of_not_isUpper hupper] at h

/-! ## Lower case -/

theorem lowerChar_of_lt {c : Char} (h : c.toNat < 0xc0) (hupper : c.isUpper = false) : lowerChar c = [c] := by
  -- only one run lies below the letters with accents
  have hruns : ∀ r ∈ lowerRuns, (r.low = 0x41 ∧ r.high = 0x5a) ∨ 0xc0 ≤ r.low := by decide +kernel
  have hnotUpper : ¬ (0x41 ≤ c.toNat ∧ c.toNat ≤ 0x5a) := fun h => by
    simp [isUpper_iff.mpr h] at hupper
  have hnone : lowerRuns.find? (·.maps c.toNat) = none := by
    refine List.find?_eq_none.mpr fun r hr hmaps => ?_
    simp only [CaseRun.maps, Bool.and_eq_true, decide_eq_true_eq] at hmaps
    rcases hruns r hr with ⟨hlow, hhigh⟩ | hlow
    · exact hnotUpper ⟨hlow ▸ hmaps.1.1, hhigh ▸ hmaps.1.2⟩
    · omega
  have hdotted : c ≠ 'İ' := by
    rintro rfl
    exact absurd h (by decide)
  rw [lowerChar, if_neg hdotted, mapRuns, hnone]

theorem lower_of_lt {cs : List Char} (h : ∀ c ∈ cs, c.toNat < 0xc0 ∧ c.isUpper = false) : lower cs = cs := by
  have hfrom : ∀ before, lowerFrom before cs = cs := by
    induction cs with
    | nil => exact fun _ => rfl
    | cons c cs ih =>
      intro before
      obtain ⟨⟨hlt, hupper⟩, hcs⟩ := List.forall_mem_cons.mp h
      have hsigma : c ≠ 'Σ' := by
        rintro rfl
        exact absurd hlt (by decide)
      rw [lowerFrom, if_neg hsigma, lowerChar_of_lt hlt hupper, ih hcs, List.singleton_append]
  exact hfrom false

theorem lowerChar_ne_nil (c : Char) : lowerChar c ≠ [] := by
  unfold lowerChar
  split_ifs <;> exact List.cons_ne_nil _ _

theorem lowerFrom_ne_nil (before : Bool) (c : Char) (cs : List Char) : lowerFrom before (c :: cs) ≠ [] := by
  refine List.append_ne_nil_of_left_ne_nil ?_ _
  split_ifs
  · exact List.cons_ne_nil _ _
  · exact List.cons_ne_nil _ _
  · exact lowerChar_ne_nil c

theorem lower_eq_nil_iff {cs : List Char} : lower cs = [] ↔ cs = [] := by
  cases cs with
  | nil => exact iff_of_true rfl rfl
  | cons c cs => exact iff_of_false (lowerFrom_ne_nil false c cs) (List.cons_ne_nil c cs)

end TopicShell.Text
