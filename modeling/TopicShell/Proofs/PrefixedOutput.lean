import TopicShell.PrefixedOutput
import TopicShell.Proofs.Text.Utf8
import Mathlib.Data.List.Forall2

/-!
# Output that comes in pieces

The text behind a leading text does not depend on the pieces in which the octets come: a writer puts out what
the octets between two flushes stand for (`Utf8.Decodes`), each such segment by itself, and the leading text
once in front of the first character of all (`lead_once`).

The octets that a writer has not yet understood are in its decoder, so a piece is taken together with the
pieces behind it (`writeAll_eq`), and a flush leaves nothing behind.  The leading text is the affair of `emit`,
which may be handed its characters at once or in parts (`emit_append`).
-/

namespace TopicShell.PrefixedOutput

open Text Utf8

/-- Writes segments, each in its own pieces and with a flush behind it. -/
def writeSegments (w : PrefixedOutput) : List (List Octets) → String × PrefixedOutput
  | [] => ("", w)
  | pieces :: rest =>
    let (text, w) := w.writeAll pieces
    let (more, w) := w.writeSegments rest
    (text ++ more, w)

/-- Characters with a leading text; there is none without a character. -/
def withLead (lead : String) (chars : List Char) : String :=
  if chars = [] then "" else lead ++ String.ofList chars

/-! ## Characters in parts -/

theorem emit_append (w : PrefixedOutput) (chars more : List Char) :
    w.emit (chars ++ more)
      = ((w.emit chars).1 ++ ((w.emit chars).2.emit more).1, ((w.emit chars).2.emit more).2) := by
  cases chars with
  | nil =>
    show w.emit more = ("" ++ (w.emit more).1, (w.emit more).2)
    rw [String.empty_append]
  | cons c chars =>
    cases more with
    | nil =>
      rw [List.append_nil]
      show w.emit (c :: chars) = ((w.emit (c :: chars)).1 ++ "", (w.emit (c :: chars)).2)
      rw [String.append_empty]
    | cons d more =>
      cases hled : w.led <;> simp [emit, hled, String.append_assoc, String.ofList_append]

/-- What is put out has nothing to do with the octets that are not yet understood. -/
theorem emit_decoder (w : PrefixedOutput) (s : State) (chars : List Char) :
    { w with decoder := s }.emit chars = ((w.emit chars).1, { (w.emit chars).2 with decoder := s }) := by
  cases chars with
  | nil => rfl
  | cons c chars => cases hled : w.led <;> simp [emit, hled]

theorem emit_of_not_led (lead : String) (chars : List Char) :
    (emit { lead } chars).1 = withLead lead chars := by
  cases chars <;> rfl

/-! ## Octets in pieces -/

theorem write_eq (w : PrefixedOutput) (os : Octets) :
    w.write os = { w with decoder := (feed w.decoder os).1 }.emit (feed w.decoder os).2 := rfl

/-- Pieces and a flush put out what all their octets stand for, behind those not yet understood. -/
theorem writeAll_eq (w : PrefixedOutput) (pieces : List Octets) :
    w.writeAll pieces = { w with decoder := .idle }.emit (decodeFrom w.decoder pieces.flatten) := by
  induction pieces generalizing w with
  | nil => rfl
  | cons os pieces ih =>
    have hpiece : decodeFrom w.decoder (os ++ pieces.flatten)
        = (feed w.decoder os).2 ++ decodeFrom (feed w.decoder os).1 pieces.flatten :=
      decodeFrom_append rfl _
    rw [List.flatten_cons, hpiece, emit_append]
    show ((w.write os).1 ++ ((w.write os).2.writeAll pieces).1, ((w.write os).2.writeAll pieces).2) = _
    rw [ih, write_eq]
    simp only [emit_decoder]

theorem writeSegments_eq (w : PrefixedOutput) (hw : w.decoder = .idle) (segments : List (List Octets)) :
    w.writeSegments segments = w.emit (segments.map fun pieces => decode pieces.flatten).flatten := by
  induction segments generalizing w with
  | nil => rfl
  | cons pieces rest ih =>
    have hidle : { w with decoder := .idle } = w := by
      rw [← hw]
    have hsegment : w.writeAll pieces = w.emit (decode pieces.flatten) := by
      rw [writeAll_eq, hidle, hw]
      rfl
    have hafter : (w.emit (decode pieces.flatten)).2.decoder = .idle := by
      rw [← hidle, emit_decoder]
    rw [List.map_cons, List.flatten_cons, emit_append, ← ih _ hafter]
    show ((w.writeAll pieces).1 ++ ((w.writeAll pieces).2.writeSegments rest).1,
      ((w.writeAll pieces).2.writeSegments rest).2) = _
    rw [hsegment]

/-- Each segment stands for what the decoder finds in it. -/
theorem forall₂_decodes_iff {segments : List (List Octets)} {decoded : List (List Char)} :
    List.Forall₂ (fun pieces chars => Decodes pieces.flatten chars) segments decoded ↔
      decoded = segments.map fun pieces => decode pieces.flatten := by
  simp only [decodes_iff]
  induction segments generalizing decoded with
  | nil => simp
  | cons pieces rest ih =>
    rw [List.forall₂_cons_left_iff]
    constructor
    · rintro ⟨chars, more, rfl, hmore, rfl⟩
      rw [ih.mp hmore, List.map_cons]
    · rintro rfl
      exact ⟨_, _, rfl, ih.mpr rfl, rfl⟩

/-- **The leading text stands once in front of what the octets stand for,** however they are cut into pieces.
After one flush the text is what all octets stand for, with the leading text in front if there is a
character.  With a flush behind each segment, each segment stands for its own characters, and the leading text
is in front of the first character of all. -/
theorem lead_once (lead : String) :
    (∀ (pieces : List Octets) (text : String), (writeAll { lead } pieces).1 = text ↔
      ∃ chars, Decodes pieces.flatten chars ∧ text = withLead lead chars) ∧
    ∀ (segments : List (List Octets)) (text : String), (writeSegments { lead } segments).1 = text ↔
      ∃ decoded, List.Forall₂ (fun pieces chars => Decodes pieces.flatten chars) segments decoded ∧
        text = withLead lead decoded.flatten := by
  constructor
  · intro pieces text
    have htext : (writeAll { lead } pieces).1 = withLead lead (decode pieces.flatten) := by
      rw [writeAll_eq, ← decode_eq]
      exact emit_of_not_led lead _
    simp only [decodes_iff, exists_eq_left, htext, eq_comm]
  · intro segments text
    have htext : (writeSegments { lead } segments).1
        = withLead lead (segments.map fun pieces => decode pieces.flatten).flatten := by
      rw [writeSegments_eq _ rfl]
      exact emit_of_not_led lead _
    simp only [forall₂_decodes_iff, exists_eq_left, htext, eq_comm]

example : (writeSegments { lead := "> " } [[[0xe2], [], [0x82]], [], [[0xac, 0x41]]]).1
    = "> \uFFFD\uFFFDA" := by decide +kernel

end TopicShell.PrefixedOutput
