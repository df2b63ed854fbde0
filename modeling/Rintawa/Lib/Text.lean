/-
# Bounded and blank texts

Diagnostics are cut to a number of bytes at the end of the last character that
fits. A text of white space alone is blank.
-/

import Mathlib.Data.String.Basic

namespace Rintawa.Lib

/-- The longest beginning of a text that fits a number of bytes. -/
def charsWithin : Nat → List Char → List Char
  | _, [] => []
  | limit, c :: rest =>
      if c.utf8Size ≤ limit then c :: charsWithin (limit - c.utf8Size) rest else []

/-- A text that is cut fits. -/
theorem utf8ByteSize_charsWithin (limit : Nat) (chars : List Char) :
    (String.ofList (charsWithin limit chars)).utf8ByteSize ≤ limit := by
  induction chars generalizing limit with
  | nil => simp [charsWithin]
  | cons c rest ih =>
      unfold charsWithin
      split
      · next hfits =>
          have hrest := ih (limit - c.utf8Size)
          simp at hrest ⊢
          omega
      · simp

/-- Characters with the Unicode property of white space. -/
def isWhiteSpace (c : Char) : Bool :=
  let code := c.toNat
  (0x09 ≤ code && code ≤ 0x0D) || code == 0x20 || code == 0x85 || code == 0xA0 ||
    code == 0x1680 || (0x2000 ≤ code && code ≤ 0x200A) || code == 0x2028 || code == 0x2029 ||
    code == 0x202F || code == 0x205F || code == 0x3000

/-- Whether nothing is left of a text without the white space around it. -/
def isBlank (text : String) : Bool :=
  text.toList.all isWhiteSpace

end Rintawa.Lib
