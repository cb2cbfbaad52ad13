/-
  Quoted — the written form of a text or of bytes, between quotation marks.

  The mark is the single one, unless the content holds a single mark and no double one.  The mark in
  use and the backslash are written after a backslash; line feed, carriage return and tab by their
  letters; all else that may not stand as itself by its number: two hexadecimal digits after `\x`,
  four after `\u` or eight after `\U`, whichever is the first to hold it.

  Bytes that may change are written with one escape more than others.

  The crux is that a written form is safe to print: it holds no line break and no control character,
  whatever the content is, because every code point is written by `CodePoint.escaped`, alone.
-/
import TapeLang.Text
import TapeLang.Text.Printable

namespace TapeLang

/-! ## One code point -/

/-- A code point by its number: `\xhh`, `\uhhhh` or `\Uhhhhhhhh`. -/
def CodePoint.byNumber (c : CodePoint) : Text :=
  if c.val < 0x100 then "\\x" ++ Text.hex 2 c.val
  else if c.val < 0x10000 then "\\u" ++ Text.hex 4 c.val
  else "\\U" ++ Text.hex 8 c.val

/-- A code point between two `mark`s, where those that `stands` accepts may stand as themselves. -/
def CodePoint.escaped (mark : Char) (stands : CodePoint → Bool) (c : CodePoint) : Text :=
  if c.is '\x5C' || c.is mark then ['\x5C', c]
  else if c.is '\n' then "\\n"
  else if c.is '\r' then "\\r"
  else if c.is '\t' then "\\t"
  else if stands c then [c]
  else c.byNumber

/-- In the written form of bytes, ASCII alone may stand as itself. -/
def CodePoint.isPrintableAscii (c : CodePoint) : Bool := 0x20 ≤ c.val && c.val ≤ 0x7E

/-! ## Whole texts -/

namespace Text

/-- The quotation mark for a text: the double one only where it saves escapes. -/
def mark (t : Text) : Char := if t.any (·.is '\x27') && !t.any (·.is '\x22') then '\x22' else '\x27'

/-- The text between its quotation marks, escaped code point by code point. -/
def enclosed (stands : CodePoint → Bool) (t : Text) : Text :=
  [CodePoint.ofChar t.mark] ++ t.flatMap (·.escaped t.mark stands) ++ [CodePoint.ofChar t.mark]

/-- The written form of a text: `'abc'`. -/
def quoted (t : Text) : Text := enclosed CodePoint.isPrintable t

/-- The written form of bytes: `b'abc'`. -/
def quotedBytes (bs : List UInt8) : Text := "b" ++ enclosed CodePoint.isPrintableAscii (ofBytes bs)

/-- The written form of bytes that may change: `bytearray(b'abc')`.  The single mark stands behind a
    backslash here even where the double one is in use. -/
def quotedBuffer (bs : List UInt8) : Text :=
  let t := ofBytes bs
  "bytearray(b" ++ [CodePoint.ofChar t.mark] ++
    t.flatMap (·.escaped '\x27' CodePoint.isPrintableAscii) ++ [CodePoint.ofChar t.mark] ++ ")"

end Text

example : Text.quoted "it's" = "\"it's\"" ∧ Text.quoted "a\"'" = "'a\"\\''" := by decide
example : Text.quoted "\x00é\n" = "'\\x00é\\n'" := by decide +kernel
example : Text.quotedBytes [0, 39, 255] = "b\"\\x00'\\xff\"" := by decide
example : Text.quotedBuffer [97, 39] = "bytearray(b\"a\\'\")" := by decide

end TapeLang
