/-!
# Cutting texts

`cut` stops at the first character of a kind, `afterLast` at the last one, `pieces` at every one.
`cutAt` and `replace` look for a text instead of a character; `replace` is opened by its two
equations, `replace_append` and `replace_cons`.
-/

namespace TopicShell.Text

/-- What stands before the first `c`, and what stands after it if there is one. -/
def cut (c : Char) : List Char → List Char × Option (List Char)
  | [] => ([], none)
  | x :: rest =>
    if x = c then ([], some rest)
    else
      let (before, after) := cut c rest
      (x :: before, after)

theorem cut_of_not_mem {c : Char} {cs : List Char} (h : c ∉ cs) : cut c cs = (cs, none) := by
  induction cs with
  | nil => rfl
  | cons x rest ih =>
    simp only [List.mem_cons, not_or] at h
    rw [cut, if_neg (Ne.symm h.1), ih h.2]

theorem cut_append {c : Char} {front : List Char} (h : c ∉ front) (rest : List Char) :
    cut c (front ++ c :: rest) = (front, some rest) := by
  induction front with
  | nil => simp [cut]
  | cons x front ih =>
    simp only [List.mem_cons, not_or] at h
    rw [List.cons_append, cut, if_neg (Ne.symm h.1), ih h.2]

/-- What stands after the last `c`, or everything. -/
def afterLast (c : Char) (cs : List Char) : List Char :=
  (cs.reverse.takeWhile (· ≠ c)).reverse

/-- The pieces between all `c`; there is one more than there are `c`. -/
def pieces (c : Char) : List Char → List (List Char)
  | [] => [[]]
  | x :: rest =>
    if x = c then [] :: pieces c rest
    else
      match pieces c rest with
      | p :: ps => (x :: p) :: ps
      | [] => [[x]]

/-- The first piece by `sep` among the characters, and what stands after `sep` if it occurs. -/
def cutAt (sep : List Char) : List Char → List Char × Option (List Char)
  | [] => if sep.isEmpty then ([], some []) else ([], none)
  | x :: rest =>
    if sep.isPrefixOf (x :: rest) then ([], some ((x :: rest).drop sep.length))
    else
      let (before, after) := cutAt sep rest
      (x :: before, after)

def contains (sep cs : List Char) : Bool :=
  (cutAt sep cs).2.isSome

/-- Replaces every occurrence of `old`, from left to right and without overlap; `old` is not empty. -/
def replaceAll (old new : List Char) : Nat → List Char → List Char
  | _, [] => []
  | skip + 1, _ :: rest => replaceAll old new skip rest
  | 0, c :: rest =>
    if old.isPrefixOf (c :: rest) then new ++ replaceAll old new (old.length - 1) rest
    else c :: replaceAll old new 0 rest

def replace (old new cs : List Char) : List Char :=
  replaceAll old new 0 cs

theorem replaceAll_drop (old new : List Char) (skip : Nat) (cs : List Char) :
    replaceAll old new skip cs = replace old new (cs.drop skip) := by
  induction skip generalizing cs with
  | zero => rfl
  | succ skip ih =>
    cases cs with
    | nil => rfl
    | cons c rest => exact ih rest

theorem replace_append {old : List Char} (h : old ≠ []) (new rest : List Char) :
    replace old new (old ++ rest) = new ++ replace old new rest := by
  obtain ⟨c, old, rfl⟩ := List.exists_cons_of_ne_nil h
  rw [replace, List.cons_append, replaceAll, if_pos (by simp), replaceAll_drop]
  simp

theorem replace_cons {old : List Char} {c : Char} {rest : List Char} (h : ¬ old <+: c :: rest)
    (new : List Char) : replace old new (c :: rest) = c :: replace old new rest := by
  rw [replace, replaceAll, if_neg (by simpa using h)]
  rfl

example : cut ':' ['a', ':', 'b', ':'] = (['a'], some ['b', ':']) := by decide
example : pieces ':' [':', 'a'] = [[], ['a']] := by decide
example : replace ['a', 'a'] ['b'] ['a', 'a', 'a'] = ['b', 'a'] := by decide

end TopicShell.Text
