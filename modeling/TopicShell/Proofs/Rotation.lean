import TopicShell.Color
import Mathlib.Data.List.Rotate

/-!
# The rotation of colours

A pool is asked for its next entry, and entries are taken out of it, in any order (`Request`, `run`).  Taking an entry
out does not move the cursor, which may then stand behind the last entry; `position` is where the next request looks,
and it is always inside a pool that has entries.

* `remove_cases`: what is taken out is the first entry that is written like this, and nothing else moves;
* `turns_size`: one request for each entry hands out all of them, in the order of the pool from `position` on;
* `ofLevel_entries`: no two entries of a level are written alike, so that the blacklist works as a filter.
-/

namespace TopicShell

/-! ## Requests -/

namespace Pool

/-- What is asked of a pool. -/
inductive Request where
  | next
  | remove (code : String)

def step (p : Pool) : Request → Pool
  | .next => p.next.2
  | .remove code => (p.remove code).2

def run (p : Pool) (requests : List Request) : Pool :=
  requests.foldl step p

/-- What is handed out when the next entry is asked for `n` times in a row. -/
def turns : Nat → Pool → List (Option Decorator)
  | 0, _ => []
  | n + 1, p => p.next.1 :: turns n p.next.2

variable (p : Pool)

/-! ## The next entry -/

theorem position_lt (h : p.entries ≠ []) : p.position < p.size := by
  have hsize : 0 < p.size := List.length_pos_iff.mpr h
  rw [position]
  split
  · assumption
  · exact hsize

theorem next_fst : p.next.1 = p.entries[p.position]? := by
  rw [next]
  split
  next d hd => exact hd.symm
  next hnone => exact hnone.symm

theorem next_eq_none_iff : p.next.1 = none ↔ p.entries = [] := by
  rw [next_fst, List.getElem?_eq_none_iff]
  constructor
  · intro hle
    by_contra h
    exact absurd (p.position_lt h) (Nat.not_lt.mpr hle)
  · intro h
    simp [h]

theorem mem_of_next {d : Decorator} (h : p.next.1 = some d) : d ∈ p.entries :=
  List.mem_of_getElem? (p.next_fst ▸ h)

@[simp] theorem size_next : p.next.2.size = p.size := by
  rw [size, entries_next, size]

theorem position_next (h : p.entries ≠ []) : p.next.2.position = (p.position + 1) % p.size := by
  have hlt := p.position_lt h
  obtain ⟨d, hentry⟩ : ∃ d, p.entries[p.position]? = some d := ⟨_, List.getElem?_eq_getElem hlt⟩
  have hcursor : p.next.2.cursor = (p.position + 1) % p.size := by
    rw [next, hentry]
  rw [position, hcursor, size_next, if_pos (Nat.mod_lt _ (Nat.zero_lt_of_lt hlt))]

/-- The requests go through the positions one after the other and start again behind the last one. -/
theorem turns_eq (n : Nat) (h : p.entries ≠ []) :
    turns n p = (List.range n).map fun i => p.entries[(i + p.position) % p.size]? := by
  induction n generalizing p with
  | zero => rfl
  | succ n ih =>
    have hfirst : (0 + p.position) % p.size = p.position := by
      rw [Nat.zero_add, Nat.mod_eq_of_lt (p.position_lt h)]
    have hrest : p.next.2.entries ≠ [] := p.entries_next ▸ h
    rw [turns, ih _ hrest, List.range_succ_eq_map, List.map_cons, List.map_map, next_fst, hfirst]
    congr 1
    refine List.map_congr_left fun i _ => ?_
    rw [Function.comp_apply, entries_next, size_next, p.position_next h, Nat.add_mod_mod, Nat.succ_eq_add_one,
      Nat.add_assoc, Nat.add_comm 1]

/-- One request for each entry hands out every position once. -/
theorem turns_size : turns p.size p = (p.entries.rotate p.position).map some := by
  by_cases h : p.entries = []
  · simp [size, h, turns]
  · rw [p.turns_eq p.size h]
    refine List.ext_getElem (by simp [size]) fun i _ _ => ?_
    rw [List.getElem_map, List.getElem_range, List.getElem_map, List.getElem_rotate]
    exact List.getElem?_eq_getElem _

/-! ## Taking entries out -/

theorem remove_entries (code : String) :
    (p.remove code).2.entries = p.entries.eraseP (·.serialize == code) := by
  rw [remove]
  split
  · rfl
  next h =>
    refine (List.eraseP_of_forall_not fun d hd hcode => h ?_).symm
    exact List.any_eq_true.mpr ⟨d, hd, hcode⟩

theorem remove_cursor (code : String) : (p.remove code).2.cursor = p.cursor := by
  rw [remove]
  split <;> rfl

/-- What is written like this is taken out once, and all the rest stays where it is. -/
theorem remove_cases (code : String) :
    ((∀ d ∈ p.entries, d.serialize ≠ code) ∧ p.remove code = (false, p)) ∨
    ∃ before d after, p.entries = before ++ d :: after ∧ d.serialize = code ∧
      (∀ x ∈ before, x.serialize ≠ code) ∧ p.remove code = (true, { p with entries := before ++ after }) := by
  rw [remove]
  split
  next h =>
    obtain ⟨d, hd, hcode⟩ := List.any_eq_true.mp h
    obtain ⟨x, before, after, hbefore, hx, hentries, herased⟩ :=
      List.exists_of_eraseP (p := (·.serialize == code)) hd hcode
    refine .inr ⟨before, x, after, hentries, eq_of_beq hx, fun y hy => ?_, by rw [herased]⟩
    exact fun hy' => hbefore y hy (beq_iff_eq.mpr hy')
  next h =>
    refine .inl ⟨fun d hd hcode => h ?_, rfl⟩
    exact List.any_eq_true.mpr ⟨d, hd, beq_iff_eq.mpr hcode⟩

theorem step_sublist (r : Request) : (p.step r).entries.Sublist p.entries := by
  cases r with
  | next => exact (p.entries_next ▸ List.Sublist.refl _ : p.next.2.entries.Sublist p.entries)
  | remove code => exact (p.remove_entries code ▸ List.eraseP_sublist : (p.remove code).2.entries.Sublist p.entries)

/-- Whatever is asked, the entries that are left keep their order. -/
theorem run_sublist (requests : List Request) : (p.run requests).entries.Sublist p.entries := by
  induction requests generalizing p with
  | nil => exact List.Sublist.refl _
  | cons r requests ih => exact (ih (p.step r)).trans (p.step_sublist r)

end Pool

/-! ## The entries of a level -/

/-- Where no two elements have the same name, the first one of a name is the only one. -/
theorem eraseP_eq_filter {α : Type} (name : α → String) (code : String) {as : List α} (h : (as.map name).Nodup) :
    as.eraseP (name · == code) = as.filter (name · != code) := by
  induction as with
  | nil => rfl
  | cons a as ih =>
    obtain ⟨ha, has⟩ := List.nodup_cons.mp h
    by_cases hcode : name a = code
    · have hrest : as.filter (name · != code) = as := by
        refine List.filter_eq_self.mpr fun b hb => ?_
        refine bne_iff_ne.mpr fun hb' => ha ?_
        exact List.mem_map.mpr ⟨b, hb, hb'.trans hcode.symm⟩
      simp [hcode, hrest]
    · have hne : (name a == code) = false := beq_eq_false_iff_ne.mpr hcode
      simp [hne, hcode, ih has]

namespace ColorLevel

/-- The numbers of the colours of a level, and what stands in front of them. -/
def numbers : ColorLevel → List Nat
  | .none => []
  | .few => (List.range 8).map (30 + ·)
  | .many => (List.range 16).flatMap fun r => (List.range 16).map fun column => column * 16 + (15 - r)

def front : ColorLevel → String
  | .none | .few => ""
  | .many => "38;5;"

theorem plain_eq (level : ColorLevel) :
    level.plain = level.numbers.map fun n => [level.front ++ toString n] := by
  cases level with
  | none => rfl
  | few => simp [plain, numbers, front, Function.comp_def]
  | many => simp [plain, numbers, front, List.map_flatMap, Function.comp_def]

theorem numbers_nodup (level : ColorLevel) : level.numbers.Nodup := by
  cases level with
  | none => exact List.nodup_nil
  | few => decide
  | many =>
    refine List.nodup_flatMap.mpr ⟨fun r _ => List.nodup_range.map fun a b h => by omega, ?_⟩
    refine List.pairwise_lt_range.imp_of_mem fun {r s} hr hs hlt => List.disjoint_left.mpr fun n hn hn' => ?_
    obtain ⟨a, -, rfl⟩ := List.mem_map.mp hn
    obtain ⟨b, -, heq⟩ := List.mem_map.mp hn'
    have hr := List.mem_range.mp hr
    have hs := List.mem_range.mp hs
    -- the rows differ in the remainder by 16
    omega

theorem space_not_mem (level : ColorLevel) (n : Nat) : ' ' ∉ (level.front ++ toString n).toList := by
  have hfront : ' ' ∉ level.front.toList := by
    cases level <;> decide +kernel
  have hnumber : ' ' ∉ (toString n).toList := by
    intro h
    have hdigit : ' '.isDigit = true := by
      refine Nat.isDigit_of_mem_toDigits (by decide) (Nat.le_refl 10) (n := n) ?_
      simpa using h
    exact absurd hdigit (by decide)
  rw [String.toList_append, List.mem_append]
  exact not_or.mpr ⟨hfront, hnumber⟩

/-- No two decorators of a level are written alike: a bold one has a space in it. -/
theorem serialize_nodup (level : ColorLevel) : (level.decorators.map Decorator.serialize).Nodup := by
  have hsplit : level.decorators.map Decorator.serialize
      = level.numbers.map (fun n => level.front ++ toString n)
        ++ level.numbers.map (fun n => level.front ++ toString n ++ " " ++ bold) := by
    rw [decorators, plain_eq, List.map_append, List.map_map, List.map_map, List.map_map]
    rfl
  have hinjective : Function.Injective fun n : Nat => level.front ++ toString n := by
    intro m n h
    have hdigits : Nat.toDigits 10 m = Nat.toDigits 10 n := by
      simpa using congrArg String.toList ((String.append_right_inj _).mp h)
    rw [← Nat.ofDigitChars_ten_toDigits (n := m), hdigits, Nat.ofDigitChars_ten_toDigits]
  rw [hsplit]
  refine List.Nodup.append (level.numbers_nodup.map hinjective) ?_ ?_
  · refine level.numbers_nodup.map fun m n h => hinjective ?_
    exact (String.append_left_inj _).mp ((String.append_left_inj _).mp h)
  · intro s hs hbold
    obtain ⟨m, _, rfl⟩ := List.mem_map.mp hs
    obtain ⟨n, _, h⟩ := List.mem_map.mp hbold
    refine level.space_not_mem m ?_
    rw [← h]
    simp

end ColorLevel

namespace Pool

/-- Removing names one after the other leaves what has none of them. -/
theorem foldl_remove (blacklist : List String) (p : Pool) (h : (p.entries.map Decorator.serialize).Nodup) :
    (blacklist.foldl (fun p code => (p.remove code).2) p).entries
      = p.entries.filter fun d => d.serialize ∉ blacklist := by
  induction blacklist generalizing p with
  | nil => simp
  | cons code blacklist ih =>
    have hentries : (p.remove code).2.entries = p.entries.filter (·.serialize != code) := by
      rw [remove_entries, eraseP_eq_filter Decorator.serialize code h]
    have hrest : ((p.remove code).2.entries.map Decorator.serialize).Nodup := by
      rw [hentries]
      exact h.sublist (List.filter_sublist.map _)
    rw [List.foldl_cons, ih _ hrest, hentries, List.filter_filter]
    refine List.filter_congr fun d _ => ?_
    rw [Bool.eq_iff_iff]
    simp [and_comm]

theorem ofLevel_entries (level : ColorLevel) (blacklist : List String) :
    (ofLevel level blacklist).entries = level.decorators.filter fun d => d.serialize ∉ blacklist :=
  foldl_remove blacklist _ level.serialize_nodup

theorem foldl_remove_cursor (blacklist : List String) (p : Pool) :
    (blacklist.foldl (fun p code => (p.remove code).2) p).cursor = p.cursor := by
  induction blacklist generalizing p with
  | nil => rfl
  | cons code blacklist ih => rw [List.foldl_cons, ih, remove_cursor]

theorem ofLevel_position (level : ColorLevel) (blacklist : List String) : (ofLevel level blacklist).position = 0 := by
  have hcursor : (ofLevel level blacklist).cursor = 0 := foldl_remove_cursor blacklist _
  rw [position, hcursor, ite_self]

/-- What holds of a pool whatever has been asked of it before. -/
structure Rotates (p : Pool) : Prop where
  next_eq_none_iff : p.next.1 = none ↔ p.entries = []
  mem_of_next : ∀ d, p.next.1 = some d → d ∈ p.entries
  entries_next : p.next.2.entries = p.entries
  /-- What is written like this is taken out once, and nothing else is. -/
  remove_cases : ∀ code,
    ((∀ d ∈ p.entries, d.serialize ≠ code) ∧ p.remove code = (false, p)) ∨
    ∃ before d after, p.entries = before ++ d :: after ∧ d.serialize = code ∧
      (∀ x ∈ before, x.serialize ≠ code) ∧ p.remove code = (true, { p with entries := before ++ after })
  /-- One request for each entry hands out all of them, from some position on and then from the first one. -/
  turns_size : ∃ position, turns p.size p = (p.entries.drop position ++ p.entries.take position).map some

theorem rotates (p : Pool) : p.Rotates where
  next_eq_none_iff := p.next_eq_none_iff
  mem_of_next _ := p.mem_of_next
  entries_next := p.entries_next
  remove_cases := p.remove_cases
  turns_size := by
    rw [turns_size, List.rotate_eq_drop_append_take_mod]
    exact ⟨_, rfl⟩

/-- **The rotation of colours.**  After any requests to any pool, the entries that are left stand in the order they had.
The next entry is one of them, and there is none just if none is left; one request for each entry, with nothing taken
out in between, hands out all of them by position in their cyclic order.

The pool of a level has the decorators of the level that are not written on the blacklist, in their order, and hands
them out from the first one on. -/
theorem rotates_through_entries :
    (∀ (p : Pool) (requests : List Request),
      (p.run requests).entries.Sublist p.entries ∧ (p.run requests).Rotates) ∧
    ∀ (level : ColorLevel) (blacklist : List String),
      (ofLevel level blacklist).entries = level.decorators.filter (fun d => d.serialize ∉ blacklist) ∧
      (ofLevel level blacklist).next.1 = (ofLevel level blacklist).entries.head? ∧
      turns (ofLevel level blacklist).size (ofLevel level blacklist) = (ofLevel level blacklist).entries.map some := by
  refine ⟨fun p requests => ⟨p.run_sublist requests, rotates _⟩,
    fun level blacklist => ⟨ofLevel_entries level blacklist, ?_, ?_⟩⟩
  · rw [next_fst, ofLevel_position, List.head?_eq_getElem?]
  · rw [turns_size, ofLevel_position, List.rotate_zero]

example : turns 4 (ofLevel .few ["30", "32", "no colour"]) = [some ["31"], some ["33"], some ["34"], some ["35"]] := by
  decide +kernel

end Pool

end TopicShell
