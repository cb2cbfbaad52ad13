/-
  Blank — the code points that count as white space around a numeral.

  Unicode 14.0, the property White_Space: the separators, and the controls that move to another place
  on the line or to another line.
-/
import TapeLang.Text

namespace TapeLang

/-- The ranges of white space, both ends included. -/
def CodePoint.blankRanges : List (Nat × Nat) := [
    (0x9, 0xD), (0x20, 0x20), (0x85, 0x85), (0xA0, 0xA0), (0x1680, 0x1680), (0x2000, 0x200A),
    (0x2028, 0x2029), (0x202F, 0x202F), (0x205F, 0x205F), (0x3000, 0x3000)]

/-- White space, by the table. -/
def CodePoint.isBlank (c : CodePoint) : Bool :=
  blankRanges.any fun r => r.1 ≤ c.val && c.val ≤ r.2

/-- The text without the white space at its two ends. -/
def Text.trim (t : Text) : Text :=
  ((t.dropWhile CodePoint.isBlank).reverse.dropWhile CodePoint.isBlank).reverse

example : Text.trim "\t a b\n" = "a b" := by decide

end TapeLang
