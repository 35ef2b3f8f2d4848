import TopicShell.Text.Utf8

/-!
# Output with a leading text

Octets become text as they come in; the leading text is written once, before the first character.
-/

namespace TopicShell

open Text

structure PrefixedOutput where
  lead : String
  led : Bool := false
  decoder : Utf8.State := .idle
  deriving DecidableEq

namespace PrefixedOutput

/-- The text that new characters amount to. -/
def emit (w : PrefixedOutput) (chars : List Char) : String × PrefixedOutput :=
  if chars.isEmpty then ("", w)
  else if w.led then (String.ofList chars, w)
  else (w.lead ++ String.ofList chars, { w with led := true })

def write (w : PrefixedOutput) (octets : Octets) : String × PrefixedOutput :=
  let (decoder, chars) := Utf8.feed w.decoder octets
  { w with decoder }.emit chars

def flush (w : PrefixedOutput) : String × PrefixedOutput :=
  let chars := Utf8.finish w.decoder
  { w with decoder := .idle }.emit chars

/-- The text of several pieces and of the flush after them. -/
def writeAll (w : PrefixedOutput) : List Octets → String × PrefixedOutput
  | [] => w.flush
  | piece :: rest =>
    let (text, w) := w.write piece
    let (more, w) := w.writeAll rest
    (text ++ more, w)

end PrefixedOutput

end TopicShell
