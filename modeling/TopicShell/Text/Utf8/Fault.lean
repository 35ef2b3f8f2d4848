import TopicShell.Text.Utf8
import TopicShell.Text.Literal

/-!
# Text that must be well formed

`firstFault?` walks the octets of a text with the states of the decoder and stops at the first
sequence that is no character; `read` is the text of octets without a fault.  A sequence that breaks
off is at fault from its first octet up to where it breaks off.
-/

namespace TopicShell.Text.Utf8

inductive FaultKind where
  | start
  | continuation
  | ending
  deriving DecidableEq

def FaultKind.text : FaultKind → String
  | start => "invalid start byte"
  | continuation => "invalid continuation byte"
  | ending => "unexpected end of data"

/-- A sequence that is no character: its first octet and its place, from `start` to before `stop`. -/
structure Fault where
  octet : UInt8
  start : Nat
  stop : Nat
  kind : FaultKind
  deriving DecidableEq

def Fault.message (f : Fault) : String :=
  "'utf-8' codec can't decode byte"
    ++ (if f.stop ≤ f.start + 1 then
        " 0x" ++ String.ofList (Literal.hex 2 f.octet.toNat) ++ " in position " ++ toString f.start
      else "s in position " ++ toString f.start ++ "-" ++ toString (f.stop - 1))
    ++ ": " ++ f.kind.text

/-- The first fault from a state on; `head` and `start` belong to the sequence that is open. -/
def faultFrom? (head : UInt8) (start : Nat) : State → Nat → Octets → Option Fault
  | .idle, _, [] => none
  | .idle, here, b :: rest =>
    if b < 0x80 then faultFrom? b here .idle (here + 1) rest
    else
      match (first b).1 with
      | .idle => some ⟨b, here, here + 1, .start⟩
      | opened => faultFrom? b here opened (here + 1) rest
  | .within .., here, [] => some ⟨head, start, here, .ending⟩
  | .within missing low high bits, here, b :: rest =>
    if low ≤ b && b ≤ high then
      faultFrom? head start (if missing ≤ 1 then .idle else .within (missing - 1) 0x80 0xbf bits)
        (here + 1) rest
    else some ⟨head, start, here, .continuation⟩
  | .surrogate, here, _ => some ⟨head, start, here, .continuation⟩

def firstFault? (octets : Octets) : Option Fault :=
  faultFrom? 0 0 .idle 0 octets

/-- The text that octets stand for, if all of them belong to characters. -/
def read (octets : Octets) : Except Fault String :=
  match firstFault? octets with
  | some f => .error f
  | none => .ok (decodeText octets)

example : firstFault? [0x61, 0xe2, 0x82, 0xac] = none := by decide
example : firstFault? [0x61, 0xe2, 0x82] = some ⟨0xe2, 1, 3, .ending⟩ := by decide
example : firstFault? [0xe2, 0x82, 0x28] = some ⟨0xe2, 0, 2, .continuation⟩ := by decide
example : firstFault? [0xed, 0xa0, 0x80] = some ⟨0xed, 0, 1, .continuation⟩ := by decide
example : firstFault? [0xc0, 0x80] = some ⟨0xc0, 0, 1, .start⟩ := by decide

end TopicShell.Text.Utf8
