/-!
# Running actions one after the other

An action works on a state and may fail; what it changed before it failed stays.  The equations say how such
actions run: one after the other, with a handler for what fails, and through a list, which ends at the
first element that fails.
-/

namespace TopicShell

variable {ε σ α β : Type}

theorem run_pure (x : α) (s : σ) : (pure x : ExceptT ε (StateM σ) α).run s = (.ok x, s) := rfl

theorem run_throw (e : ε) (s : σ) : (throw e : ExceptT ε (StateM σ) α).run s = (.error e, s) := rfl

theorem run_get (s : σ) : (get : ExceptT ε (StateM σ) σ).run s = (.ok s, s) := rfl

theorem run_modify (f : σ → σ) (s : σ) :
    (modify f : ExceptT ε (StateM σ) Unit).run s = (.ok (), f s) := rfl

theorem run_bind (a : ExceptT ε (StateM σ) α) (f : α → ExceptT ε (StateM σ) β) (s : σ) :
    (a >>= f).run s = match a.run s with
      | (.ok x, s') => (f x).run s'
      | (.error e, s') => (.error e, s') := by
  show (match ExceptT.run a s with | (r, s') => ExceptT.bindCont f r s') = _
  cases ExceptT.run a s with
  | mk r s' => cases r <;> rfl

theorem run_tryCatch (a : ExceptT ε (StateM σ) α) (f : ε → ExceptT ε (StateM σ) α) (s : σ) :
    (tryCatch a f).run s = match a.run s with
      | (.ok x, s') => (.ok x, s')
      | (.error e, s') => (f e).run s' := by
  simp only [tryCatch, tryCatchThe, MonadExceptOf.tryCatch, ExceptT.tryCatch, ExceptT.run, ExceptT.mk,
    bind, StateT.bind]
  cases a s with
  | mk r s' => cases r <;> rfl

/-- Going through a list stops at the first element that fails. -/
theorem run_forM_cons (f : α → ExceptT ε (StateM σ) Unit) (x : α) (xs : List α) (s : σ) :
    ((x :: xs).forM f).run s = match (f x).run s with
      | (.ok _, s') => (xs.forM f).run s'
      | (.error e, s') => (.error e, s') := by
  show (f x >>= fun _ => xs.forM f).run s = _
  rw [run_bind]
  cases (f x).run s with
  | mk r s' => cases r <;> rfl

theorem run_forM_nil (f : α → ExceptT ε (StateM σ) Unit) (s : σ) :
    (([] : List α).forM f).run s = (.ok (), s) :=
  rfl

/-- A list in two parts: the second one is only come to when the first one does not fail. -/
theorem run_forM_append (f : α → ExceptT ε (StateM σ) Unit) (xs ys : List α) (s : σ) :
    ((xs ++ ys).forM f).run s = match (xs.forM f).run s with
      | (.ok _, s') => (ys.forM f).run s'
      | (.error e, s') => (.error e, s') := by
  induction xs generalizing s with
  | nil => rfl
  | cons x xs ih =>
    rw [List.cons_append, run_forM_cons, run_forM_cons]
    cases h : (f x).run s with
    | mk r s' =>
      cases r with
      | error e => rfl
      | ok u => exact ih s'

/-- What the action of each element keeps, going through the list keeps, however far it gets. -/
theorem run_forM_keeps {P : σ → Prop} {f : α → ExceptT ε (StateM σ) Unit} {xs : List α} {s : σ}
    (hf : ∀ x ∈ xs, ∀ s, P s → P ((f x).run s).2) (hs : P s) : P ((xs.forM f).run s).2 := by
  induction xs generalizing s with
  | nil => exact hs
  | cons x xs ih =>
    have hx := hf x List.mem_cons_self s hs
    rw [run_forM_cons]
    cases h : (f x).run s with
    | mk r s' =>
      rw [h] at hx
      cases r with
      | error e => exact hx
      | ok u => exact ih (fun y hy => hf y (List.mem_cons_of_mem x hy)) hx

end TopicShell
