/-!
# Blank characters

`isWhite` is the property `White_Space` of Unicode, `isBlank` adds the four information separators
(U+001C to U+001F).  Numbers are trimmed by the first; the marker of a heredoc is bounded by the
second, and typed lines are trimmed by it.
-/

namespace TopicShell.Text

def isWhite (c : Char) : Bool :=
  let n := c.toNat
  (9 ≤ n && n ≤ 13) || n == 0x20 || n == 0x85 || n == 0xa0 || n == 0x1680
    || (0x2000 ≤ n && n ≤ 0x200a) || n == 0x2028 || n == 0x2029 || n == 0x202f
    || n == 0x205f || n == 0x3000

def isBlank (c : Char) : Bool :=
  isWhite c || (0x1c ≤ c.toNat && c.toNat ≤ 0x1f)

/-! ## Trimming -/

def trimLeft (drop : Char → Bool) (cs : List Char) : List Char :=
  cs.dropWhile drop

def trimRight (drop : Char → Bool) (cs : List Char) : List Char :=
  (trimLeft drop cs.reverse).reverse

def trim (drop : Char → Bool) (cs : List Char) : List Char :=
  trimRight drop (trimLeft drop cs)

example : trim isBlank [' ', 'a', ' ', 'b', '\t'] = ['a', ' ', 'b'] := by decide

end TopicShell.Text
