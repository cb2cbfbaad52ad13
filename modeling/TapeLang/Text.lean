/-
  Text — sequences of Unicode code points, lone surrogates included.

  Names, paths and messages are read from documents in which a code point may be written by its
  number, so a text can hold a surrogate that no UTF-8 string holds.  `String` cannot carry it; a
  list of numbers would carry far too much.  A `CodePoint` is a number with the proof that it is at
  most U+10FFFF, and a `Text` is a list of them, so every lemma on lists is a lemma on texts.

  The rest of the module is the small change of printing: numerals in base ten and sixteen, padding,
  joining and splitting.
-/
namespace TapeLang

/-! ## Code points -/

/-- A Unicode code point; unlike a `Char` it may be a surrogate. -/
structure CodePoint where
  /-- The number of the code point. -/
  val : Nat
  /-- Unicode ends at U+10FFFF. -/
  le_max : val ≤ 0x10FFFF := by decide
  deriving DecidableEq

namespace CodePoint

theorem toNat_le_max (c : Char) : c.toNat ≤ 0x10FFFF := by
  have h : c.toNat.isValidChar := c.valid
  unfold Nat.isValidChar at h
  omega

/-- A code point is told by its number. -/
theorem eq_of_val {c d : CodePoint} (h : c.val = d.val) : c = d := by
  cases c
  cases d
  cases h
  rfl

/-- Every character is a code point. -/
def ofChar (c : Char) : CodePoint := ⟨c.toNat, toNat_le_max c⟩

/-- The code point with the number of a byte. -/
def ofByte (b : UInt8) : CodePoint := ⟨b.toNat, Nat.le_trans (Nat.le_of_lt b.toNat_lt) (by decide)⟩

/-- The code point of a number, if the number is in range. -/
def ofNat? (n : Nat) : Option CodePoint := if h : n ≤ 0x10FFFF then some ⟨n, h⟩ else none

/-- The code point of an integer, if the integer is in range. -/
def ofInt? : Int → Option CodePoint
  | .ofNat n => ofNat? n
  | .negSucc _ => none

/-- The surrogates, which stand for no character of their own. -/
def isSurrogate (c : CodePoint) : Bool := 0xD800 ≤ c.val && c.val ≤ 0xDFFF

/-- The character of a code point, with U+FFFD for a surrogate. -/
def toChar (c : CodePoint) : Char := if c.isSurrogate then '\uFFFD' else Char.ofNat c.val

/-- The test for a given character. -/
def is (c : CodePoint) (x : Char) : Bool := c.val == x.toNat

instance : Coe Char CodePoint := ⟨ofChar⟩

theorem eq_of_is {c : CodePoint} {x : Char} (h : c.is x = true) : c = ofChar x :=
  eq_of_val (beq_iff_eq.1 h)

end CodePoint

/-! ## Texts -/

/-- A text is a list of code points. -/
abbrev Text := List CodePoint

namespace Text

/-- The code points of a string. -/
def ofString (s : String) : Text := s.toList.map CodePoint.ofChar

instance : Coe String Text := ⟨ofString⟩

/-- The string of a text, with U+FFFD for each lone surrogate. -/
def toString (t : Text) : String := String.ofList (t.map CodePoint.toChar)

/-- One code point per byte, the byte's value being its number. -/
def ofBytes (bs : List UInt8) : Text := bs.map CodePoint.ofByte

/-- `n` spaces. -/
def spaces (n : Nat) : Text := List.replicate n (CodePoint.ofChar ' ')

/-- The text set flush right in a column of `width`; a longer text is not cut. -/
def flushRight (width : Nat) (t : Text) : Text := spaces (width - t.length) ++ t

/-- The parts one after the other, with `sep` between neighbours. -/
def join (sep : Text) : List Text → Text
  | [] => []
  | [t] => t
  | t :: u :: rest => t ++ sep ++ join sep (u :: rest)

/-- The parts behind the first, each with the sign between neighbours before it. -/
theorem join_cons (sep t : Text) (after : List Text) : join sep (t :: after) = t ++ after.flatMap (sep ++ ·) := by
  induction after generalizing t with
  | nil => exact (List.append_nil t).symm
  | cons u after ih =>
    show t ++ sep ++ join sep (u :: after) = _
    rw [ih, List.flatMap_cons, List.append_assoc, List.append_assoc]

/-- The lines of a text, each ended by a line feed; what follows the last line feed is a line too. -/
def lines (t : Text) : List Text := t.splitOn (CodePoint.ofChar '\n')

/-- The text of some lines, each ended by a line feed. -/
def ofLines (ls : List Text) : Text := ls.flatMap (· ++ "\n")

/-- The text with its letters in lower case, as far as ASCII goes. -/
def lowerAscii (t : Text) : Text :=
  t.map fun c => if c.val < 0x80 then CodePoint.ofChar c.toChar.toLower else c

/-! ## Numerals -/

/-- A natural number in base ten. -/
def natural (n : Nat) : Text := (Nat.toDigits 10 n).map CodePoint.ofChar

/-- An integer in base ten, a minus sign before a negative one. -/
def integer : Int → Text
  | .ofNat n => natural n
  | .negSucc n => "-" ++ natural (n + 1)

/-- A natural number in lowercase base sixteen, filled up with zeros to `width` digits. -/
def hex (width : Nat) (n : Nat) : Text :=
  let ds := Nat.toDigits 16 n
  (List.replicate (width - ds.length) '0' ++ ds).map CodePoint.ofChar

/-- The number two hexadecimal digits per byte, without separators. -/
def hexBytes (bs : List UInt8) : Text := bs.flatMap fun b => hex 2 b.toNat

end Text

example : Text.integer (-40) = "-40" := by decide
example : Text.hex 2 7 = "07" ∧ Text.hex 2 300 = "12c" := by decide
example : Text.join ", " ["a", "b", "c"] = "a, b, c" := by decide
example : Text.flushRight 3 "7" = "  7" ∧ Text.flushRight 3 "1000" = "1000" := by decide

end TapeLang
