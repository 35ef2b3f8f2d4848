/-!
# Decoding UTF-8 octet by octet

`State` is what a decoder has to remember between two octets: nothing, or how many continuation
octets are still missing, which range the next one must lie in, and the bits collected so far.
An ill-formed sequence gives one replacement character for each of its maximal subparts, and so
does a sequence that the end of the input cuts short.  The first two octets of a surrogate code are
kept back until the third one or the end comes; they give a replacement character each.  Decoding in
pieces is one `foldl` over the octets, so it cannot depend on where the pieces end.
-/

namespace TopicShell

abbrev Octets := List UInt8

namespace Text.Utf8

/-- Stands for each part of the input that is no character. -/
def replacement : Char := '\uFFFD'

inductive State where
  | idle
  | within (missing : Nat) (low high : UInt8) (bits : Nat)
  | surrogate
  deriving DecidableEq

/-- What a first octet opens: a character, a sequence, or nothing. -/
def first (b : UInt8) : State × List Char :=
  if b < 0x80 then (.idle, [Char.ofNat b.toNat])
  else if b < 0xc2 then (.idle, [replacement])
  else if b < 0xe0 then (.within 1 0x80 0xbf (b.toNat - 0xc0), [])
  else if b < 0xf0 then
    (.within 2 (if b = 0xe0 then 0xa0 else 0x80) (if b = 0xed then 0x9f else 0xbf)
      (b.toNat - 0xe0), [])
  else if b < 0xf5 then
    (.within 3 (if b = 0xf0 then 0x90 else 0x80) (if b = 0xf4 then 0x8f else 0xbf)
      (b.toNat - 0xf0), [])
  else (.idle, [replacement])

/-- One octet: the next state and the characters that are now certain. -/
def step : State → UInt8 → State × List Char
  | .idle, b => first b
  | .within missing low high bits, b =>
    if low ≤ b && b ≤ high then
      let bits := bits * 64 + (b.toNat - 0x80)
      if missing ≤ 1 then (.idle, [Char.ofNat bits])
      else (.within (missing - 1) 0x80 0xbf bits, [])
    else if high = 0x9f && 0xa0 ≤ b && b ≤ 0xbf then (.surrogate, [])
    else
      let next := first b
      (next.1, replacement :: next.2)
  | .surrogate, b =>
    let next := first b
    (next.1, replacement :: replacement :: next.2)

/-- A run of octets; the characters are collected last first. -/
def feedRev (start : State × List Char) (octets : Octets) : State × List Char :=
  octets.foldl (fun acc b => let next := step acc.1 b; (next.1, next.2.reverse ++ acc.2)) start

theorem feedRev_append (start : State × List Char) (a b : Octets) :
    feedRev start (a ++ b) = feedRev (feedRev start a) b := by
  simp [feedRev]

/-- A run of octets: the state after it and its characters. -/
def feed (state : State) (octets : Octets) : State × List Char :=
  let done := feedRev (state, []) octets
  (done.1, done.2.reverse)

/-- What the end of the input adds. -/
def finish : State → List Char
  | .idle => []
  | .within .. => [replacement]
  | .surrogate => [replacement, replacement]

/-- All characters of a text given as octets. -/
def decode (octets : Octets) : List Char :=
  let (state, chars) := feed .idle octets
  chars ++ finish state

def decodeText (octets : Octets) : String :=
  String.ofList (decode octets)

def encode (s : String) : Octets :=
  s.toUTF8.toList

/-- Every octet belonged to a character. -/
def isWellFormed (octets : Octets) : Bool :=
  encode (decodeText octets) == octets

example : decode [0xe2, 0x82, 0xac, 0x41] = ['€', 'A'] := by decide
example : decode [0xed, 0xa0, 0x80] = [replacement, replacement, replacement] := by decide
example : decode [0xf0, 0x9f, 0x41, 0xe2, 0x82] = [replacement, 'A', replacement] := by decide

end Text.Utf8

end TopicShell
