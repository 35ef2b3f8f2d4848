/-!
# Entries by their keys

A table is a list of keys with what belongs to them.  `lookup` gives what stands first for a key; where no
key stands twice it gives what stands at all (`lookup_of_mem`).  An entry is taken out by leaving out its key.
Things that are numbered stand in a list and are changed where they stand.
-/

namespace TopicShell

section Lookup

variable {κ ν : Type} [BEq κ] [LawfulBEq κ]

theorem mem_of_lookup {entries : List (κ × ν)} {key : κ} {value : ν}
    (h : entries.lookup key = some value) : (key, value) ∈ entries := by
  obtain ⟨l₁, l₂, he, _⟩ := List.lookup_eq_some_iff.mp h
  rw [he]
  exact List.mem_append_right l₁ List.mem_cons_self

theorem lookup_of_mem {entries : List (κ × ν)} {key : κ} {value : ν}
    (hn : (entries.map Prod.fst).Nodup) (h : (key, value) ∈ entries) :
    entries.lookup key = some value := by
  induction entries with
  | nil => cases h
  | cons e entries ih =>
    obtain ⟨k, v⟩ := e
    obtain ⟨hnot, hn'⟩ := List.nodup_cons.mp hn
    rcases List.mem_cons.mp h with he | hmem
    · cases he
      rw [List.lookup_cons, beq_self_eq_true]
    · have hne : key ≠ k := by
        intro he
        exact hnot (List.mem_map.mpr ⟨(key, value), hmem, he⟩)
      rw [List.lookup_cons, beq_false_of_ne hne]
      exact ih hn' hmem

theorem lookup_filter_ne {key : κ} (entries : List (κ × ν)) :
    (entries.filter (·.1 != key)).lookup key = none := by
  rw [List.lookup_eq_none_iff]
  intro p hp
  rw [bne_comm]
  exact (List.mem_filter.mp hp).2

theorem lookup_filter_of_ne {key other : κ} (h : other ≠ key) (entries : List (κ × ν)) :
    (entries.filter (·.1 != key)).lookup other = entries.lookup other := by
  induction entries with
  | nil => rfl
  | cons e entries ih =>
    obtain ⟨k, v⟩ := e
    by_cases hk : k = key
    · subst hk
      rw [List.filter_cons_of_neg (by simp), ih, List.lookup_cons, beq_false_of_ne h]
    · rw [List.filter_cons_of_pos (by simpa using hk), List.lookup_cons, List.lookup_cons, ih]

/-- A key that is not there need not be taken out. -/
theorem filter_of_lookup_none {entries : List (κ × ν)} {key : κ} (h : entries.lookup key = none) :
    entries.filter (·.1 != key) = entries := by
  rw [List.filter_eq_self]
  intro e he
  rw [bne_comm]
  exact List.lookup_eq_none_iff.mp h e he

theorem any_key (entries : List (κ × ν)) (key : κ) :
    entries.any (·.1 == key) = (entries.lookup key).isSome := by
  induction entries with
  | nil => rfl
  | cons e entries ih =>
    rw [List.any_cons, ih, List.lookup_cons, BEq.comm]
    cases key == e.1 <;> rfl

/-- Where a key stands, its value is replaced; nothing else is different. -/
theorem lookup_map_replace (entries : List (κ × ν)) (key other : κ) (value : ν) :
    (entries.map fun e => if e.1 == key then (key, value) else e).lookup other
      = if other == key then (entries.lookup key).map fun _ => value else entries.lookup other := by
  induction entries with
  | nil => simp
  | cons e entries ih =>
    obtain ⟨k, v⟩ := e
    by_cases hk : k = key
    · subst hk
      rw [List.map_cons, beq_self_eq_true, if_pos rfl, List.lookup_cons, List.lookup_cons, List.lookup_cons,
        beq_self_eq_true, ih]
      cases other == k <;> rfl
    · rw [List.map_cons, if_neg (by simpa using hk), List.lookup_cons, List.lookup_cons, List.lookup_cons,
        beq_false_of_ne (Ne.symm hk), ih]
      by_cases ho : other = k
      · subst ho
        rw [beq_self_eq_true, beq_false_of_ne hk]
        rfl
      · rw [beq_false_of_ne ho]

end Lookup

section Numbered

variable {α β : Type}

theorem getElem?_concat_of_ne {xs : List α} {n : Nat} (h : n ≠ xs.length) (x : α) :
    (xs ++ [x])[n]? = xs[n]? := by
  rcases Nat.lt_or_gt_of_ne h with h | h
  · exact List.getElem?_append_left h
  · rw [List.getElem?_eq_none (Nat.le_of_lt h), List.getElem?_eq_none]
    rw [List.length_append, List.length_singleton]
    exact h

theorem modify_of_getElem? {xs : List α} {n : Nat} {x : α} (h : xs[n]? = some x) {f : α → α}
    (hf : f x = x) : xs.modify n f = xs := by
  refine List.ext_getElem? fun i => ?_
  by_cases hi : n = i
  · subst hi
    rw [List.getElem?_modify_eq, h]
    exact congrArg some hf
  · exact List.getElem?_modify_ne _ _ hi

theorem modify_concat (xs : List α) (x : α) (f : α → α) :
    (xs ++ [x]).modify xs.length f = xs ++ [f x] := by
  induction xs with
  | nil => rfl
  | cons y xs ih => exact congrArg (List.cons y) ih

/-- Where no number stands twice each thing is changed once. -/
theorem getElem?_foldl_modify (f : α → α) {positions : List Nat} (h : positions.Nodup)
    (xs : List α) (n : Nat) :
    (positions.foldl (fun xs p => xs.modify p f) xs)[n]?
      = if n ∈ positions then (xs[n]?).map f else xs[n]? := by
  induction positions generalizing xs with
  | nil => rfl
  | cons p positions ih =>
    obtain ⟨hp, hrest⟩ := List.nodup_cons.mp h
    rw [List.foldl_cons, ih hrest]
    by_cases hn : n = p
    · subst hn
      rw [if_neg hp, if_pos List.mem_cons_self, List.getElem?_modify_eq]
      rfl
    · rw [List.getElem?_modify_ne _ _ (Ne.symm hn)]
      simp only [List.mem_cons, hn, false_or]

/-- What is seen of the things changes as the things do. -/
theorem map_modify (view : α → β) {f : α → α} {g : β → β} (h : ∀ x, view (f x) = g (view x)) (n : Nat)
    (xs : List α) : (xs.modify n f).map view = (xs.map view).modify n g := by
  refine List.ext_getElem? fun i => ?_
  by_cases hi : n = i
  · subst hi
    simp only [List.getElem?_map, List.getElem?_modify_eq]
    cases xs[n]? with
    | none => rfl
    | some x => exact congrArg some (h x)
  · simp only [List.getElem?_map, List.getElem?_modify_ne _ _ hi]

end Numbered

end TopicShell
