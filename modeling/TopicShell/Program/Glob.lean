/-!
# Globs

Patterns of the shell: `*` stands for any text, `?` for any character, brackets for one of several.
`Glob.admits` tells whether a whole text fits.
-/

namespace TopicShell.Program

inductive GlobPart where
  | one (admits : Char → Bool)
  | run

abbrev Glob := List GlobPart

namespace Glob

/-- All ends of a text, the whole first. -/
def endings : List α → List (List α)
  | [] => [[]]
  | x :: xs => (x :: xs) :: endings xs

def admits : Glob → List Char → Bool
  | [], cs => cs.isEmpty
  | .one p :: rest, c :: cs => p c && admits rest cs
  | .one _ :: _, [] => false
  | .run :: rest, cs => (endings cs).any (admits rest)

/-- The members of a bracket list, and what follows it. -/
def members : Bool → List (Char × Bool) → Option ((Char → Bool) × List (Char × Bool))
  | _, [] => none
  | first, (']', false) :: rest => if first then none else some (fun _ => false, rest)
  | _, [(_, _)] => none
  | _, (a, q) :: ('-', false) :: (b, r) :: rest =>
    if b = ']' && !r then
      (members false (('-', true) :: (b, r) :: rest)).map fun (p, rest) => (fun c => c = a || p c, rest)
    else (members false rest).map fun (p, rest) => (fun c => (a ≤ c && c ≤ b) || (q && c = a) || p c, rest)
  | _, (a, _) :: x :: rest => (members false (x :: rest)).map fun (p, rest) => (fun c => c = a || p c, rest)
termination_by _ cs => cs.length

/-- Characters as a glob; one that is marked as quoted stands for itself. -/
def read : Nat → List (Char × Bool) → Glob
  | 0, _ => []
  | _, [] => []
  | fuel + 1, ('*', false) :: rest => .run :: read fuel rest
  | fuel + 1, ('?', false) :: rest => .one (fun _ => true) :: read fuel rest
  | fuel + 1, ('[', false) :: rest =>
    let (negated, body) : Bool × List (Char × Bool) := match rest with
      | ('!', false) :: more => (true, more)
      | more => (false, more)
    match members true body with
    | some (p, rest) => .one (fun c => p c != negated) :: read fuel rest
    | none => .one (· = '[') :: read fuel rest
  | fuel + 1, (c, _) :: rest => .one (· = c) :: read fuel rest

def ofChars (cs : List (Char × Bool)) : Glob :=
  read (cs.length + 1) cs

/-- A text without the part at its start that fits, the shortest or the longest one. -/
def dropFront (g : Glob) (longest : Bool) (cs : List Char) : List Char :=
  let cuts := (List.range (cs.length + 1)).filter fun n => g.admits (cs.take n)
  match (if longest then cuts.getLast? else cuts.head?) with
  | some n => cs.drop n
  | none => cs

/-- A text without the part at its end that fits, the shortest or the longest one. -/
def dropBack (g : Glob) (longest : Bool) (cs : List Char) : List Char :=
  let cuts := (List.range (cs.length + 1)).filter fun n => g.admits (cs.drop n)
  match (if longest then cuts.head? else cuts.getLast?) with
  | some n => cs.take n
  | none => cs

end Glob

end TopicShell.Program
