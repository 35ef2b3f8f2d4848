import TopicShell.Program.Options
import TopicShell.Text.Pieces

/-!
# Columns

`cut` takes parts out of every line, `paste` joins lines, `nl` numbers them, `fold` breaks them.
-/

namespace TopicShell.Program

open Text

/-! ## cut -/

/-- A run of positions, counted from one; without an end it goes on for ever. -/
structure Positions where
  first : Nat
  last : Option Nat

def Positions.contains (p : Positions) (n : Nat) : Bool :=
  p.first ≤ n && p.last.all (n ≤ ·)

/-- Why a list of positions cannot be read. -/
inductive PositionFault where
  | zero
  | reversed
  | noEnd
  | invalid (text : String)

def PositionFault.message (what : Char) : PositionFault → String
  | zero => if what = 'f' then "fields are numbered from 1" else "byte/character positions are numbered from 1"
  | reversed => "invalid decreasing range"
  | noEnd => "invalid range with no endpoint: -"
  | invalid text =>
    "invalid " ++ (if what = 'f' then "field" else "byte/character position") ++ " value " ++ quoted text

def Positions.read (text : List Char) : Except PositionFault Positions :=
  match cut '-' text with
  | (a, none) =>
    match natural? a with
    | some 0 => .error .zero
    | some n => .ok ⟨n, some n⟩
    | none => .error (.invalid (String.ofList a))
  | ([], some []) => .error .noEnd
  | (a, some b) =>
    match (if a.isEmpty then some 1 else natural? a), (if b.isEmpty then some none else (natural? b).map some) with
    | some 0, _ => .error .zero
    | some n, some none => .ok ⟨n, none⟩
    | some n, some (some m) => if m < n then .error .reversed else .ok ⟨n, some m⟩
    | _, _ => .error (.invalid (String.ofList text))

/-- A list such as `1,3-5`. -/
def readPositions (text : String) : Except PositionFault (List Positions) :=
  (pieces ',' text.toList).mapM Positions.read

/-- The members at the positions of a list, in their own order. -/
def chosen (ps : List Positions) (xs : List α) : List α :=
  (xs.zipIdx.filter fun (_, i) => ps.any (·.contains (i + 1))).map (·.1)

def cutLine (what : Char) (mark : UInt8) (onlyMarked : Bool) (ps : List Positions) (line : Octets) :
    Option Octets :=
  if what ≠ 'f' then some (chosen ps line)
  else if !line.contains mark then (if onlyMarked then none else some line)
  else some ([mark].intercalate (chosen ps (line.splitOnP (· == mark))))

def cutColumns : Tool := fun args j =>
  withOptions "cut" { flags := ['s', 'n'], valued := ['b', 'c', 'f', 'd'] } 1 args j fun o =>
    let refuse (text : String) : Outcome × Job :=
      (some .failure, (j.complain ("cut: " ++ text)).complain "Try 'cut --help' for more information.")
    let mark := Utf8.encode ((o.value? 'd').getD "\t")
    match o.given.filter fun g => g.1 = 'b' || g.1 = 'c' || g.1 = 'f' with
    | [] => refuse "you must specify a list of bytes, characters, or fields"
    | [(what, list)] =>
      if 1 < mark.length then refuse "the delimiter must be a single character"
      else
        match readPositions list with
        | .error e => refuse (e.message what)
        | .ok ps =>
          onFiles "cut" o.names j fun text j =>
            let lines := (linesOf text).filterMap (cutLine what (mark.headD 0) (o.has 's') ps)
            (some .success, j.write .output (joinLines lines))
    | _ => refuse "only one list may be specified"

/-! ## paste -/

/-- The marks between columns, used in turn. -/
def pasteMarks (text : String) : List Octets :=
  let rec go : List Char → List Octets
    | [] => []
    | '\\' :: 'n' :: rest => [10] :: go rest
    | '\\' :: 't' :: rest => [9] :: go rest
    | '\\' :: '0' :: rest => [] :: go rest
    | '\\' :: c :: rest => Utf8.encode c.toString :: go rest
    | c :: rest => Utf8.encode c.toString :: go rest
  go text.toList

def withMarks (marks : List Octets) (parts : List Octets) : Octets :=
  (parts.zipIdx.map fun (p, i) =>
    (if i = 0 then [] else marks[(i - 1) % marks.length]?.getD []) ++ p).flatten

/-- Every `n`-th member of a list, beginning with number `i`. -/
def everyNth (n i : Nat) (xs : List α) : List α :=
  (xs.zipIdx.filter fun (_, k) => k % n = i).map (·.1)

/-- The columns that files and the input give; an input named again gives every second line, and so on. -/
def columnsOf (contents : List (String × Octets)) : List (List Octets) :=
  let shared := (contents.filter (·.1 = "-")).length
  let own := (contents.find? (·.1 = "-")).elim [] (linesOf ·.2)
  (contents.foldl (fun (columns, seen) (name, text) =>
    if name = "-" then (columns ++ [everyNth shared seen own], seen + 1)
    else (columns ++ [linesOf text], seen)) (([] : List (List Octets)), 0)).1

def paste : Tool := fun args j =>
  withOptions "paste" { flags := ['s'], valued := ['d'] } 1 args j fun o =>
    let marks := pasteMarks ((o.value? 'd').getD "\t")
    onEachFile "paste" o.names j fun contents j =>
      let columns := columnsOf contents
      let rows := if o.has 's' then columns
        else
          let height := (columns.map (·.length)).foldl max 0
          (List.range height).map fun i => columns.map fun column => column[i]?.getD []
      (some .success, j.write .output (joinLines (rows.map (withMarks marks))))

/-! ## nl -/

def numberLines (everything : Bool) (width : Nat) (mark : Octets) : Nat → List Octets → Octets
  | _, [] => []
  | n, line :: rest =>
    if line.isEmpty && !everything then
      List.replicate (width + mark.length) 32 ++ [10] ++ numberLines everything width mark n rest
    else
      padded false false width (inBase 10 n) ++ mark ++ line ++ [10]
        ++ numberLines everything width mark (n + 1) rest

def nl : Tool := fun args j =>
  withOptions "nl" { flags := ['p'], valued := ['b', 'w', 's', 'v', 'i', 'n'] } 1 args j fun o =>
    let number (c : Char) (fallback : Nat) : Nat := ((o.value? c).map fun v => (numberOf v).toNat).getD fallback
    onFiles "nl" o.names j fun text j =>
      (some .success, j.write .output (numberLines (o.value? 'b' = some "a") (number 'w' 6)
        (Utf8.encode ((o.value? 's').getD "\t")) (number 'v' 1) (linesOf text)))

/-! ## fold -/

/-- A line in pieces of at most `width` octets; with `atBlanks` a piece ends behind its last blank. -/
def foldLine (atBlanks : Bool) (width : Nat) : Nat → Octets → List Octets
  | 0, line => [line]
  | fuel + 1, line =>
    if line.length ≤ width then [line]
    else
      let piece := line.take width
      let back := (piece.reverse.takeWhile (· ≠ 32)).length
      let size := if atBlanks && back < piece.length then width - back else width
      line.take size :: foldLine atBlanks width fuel (line.drop size)

def fold : Tool := fun args j =>
  withOptions "fold" { flags := ['s', 'b'], valued := ['w'] } 1 args j fun o =>
    let width := ((o.value? 'w').map fun v => (numberOf v).toNat).getD 80
    if width = 0 then
      (some .failure, j.complain ("fold: invalid number of columns: " ++ quoted ((o.value? 'w').getD "")))
    else
      onFiles "fold" o.names j fun text j =>
        let lines := (rawLines text).map fun line =>
          let (body, feed) := if line.getLast? = some 10 then (line.dropLast, [10]) else (line, [])
          [(10 : UInt8)].intercalate (foldLine (o.has 's') width body.length body) ++ feed
        (some .success, j.write .output lines.flatten)

end TopicShell.Program
