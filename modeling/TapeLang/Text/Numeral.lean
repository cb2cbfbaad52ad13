/-
  Numeral — integers as people type them.

  White space around the numeral is passed over; then come an optional sign and decimal digits of any
  script, between which single underscores may stand.  Leading zeros mean nothing.

  A numeral of more than 4300 digits is refused for its length, before its value is computed and before
  what stands behind the digits is looked at.
-/
import TapeLang.Text
import TapeLang.Text.Blank
import TapeLang.Text.Digit

namespace TapeLang

/-- Why a text is no integer. -/
inductive NumeralError where
  /-- It does not have the form of a numeral. -/
  | malformed
  /-- It starts with so many digits, and that is too many. -/
  | tooLong (digits : Nat)
  deriving DecidableEq

namespace Text

/-- The greatest number of digits of a numeral. -/
def maxNumeralDigits : Nat := 4300

/-- The values of the digits of a numeral without sign; `digit?` reads one digit. -/
def digitValues? (digit? : CodePoint → Option Nat) : Text → Option (List Nat)
  | [] => none
  | [c] => (digit? c).map ([·])
  | c :: d :: rest =>
    match digit? c with
    | none => none
    | some n =>
      if d.is '_' then (digitValues? digit? rest).map (n :: ·)
      else (digitValues? digit? (d :: rest)).map (n :: ·)

/-- The number that digits write in a base, the first digit being the most significant one. -/
def ofDigits (base : Nat) (ds : List Nat) : Nat := ds.foldl (fun n d => n * base + d) 0

/-- Splits a sign off: whether it is a minus, and the rest. -/
def splitSign : Text → Bool × Text
  | [] => (false, [])
  | c :: rest => if c.is '-' then (true, rest) else if c.is '+' then (false, rest) else (false, c :: rest)

/-- Reads a decimal integer. -/
def toInteger (t : Text) : Except NumeralError Int :=
  let (negative, body) := t.trim.splitSign
  let run := body.takeWhile fun c => c.isDigit || c.is '_'
  match digitValues? CodePoint.digit? run with
  | none => .error .malformed
  | some ds =>
    if maxNumeralDigits < ds.length then .error (.tooLong ds.length)
    else if run.length < body.length then .error .malformed
    else .ok (if negative then -(ofDigits 10 ds : Int) else ofDigits 10 ds)

/-! ## Other bases -/

/-- The letter that marks a base behind a zero. -/
def baseMark : Nat → Option Char
  | 2 => some 'b'
  | 8 => some 'o'
  | 16 => some 'x'
  | _ => none

/-- What a digit is worth in a base up to sixteen. -/
def baseDigit? (base : Nat) (c : CodePoint) : Option Nat :=
  (c.digit?.or c.hexDigit?).filter (· < base)

/-- The digits without the mark of their base, if it stands there. -/
def dropMark (base : Nat) : Text → Text
  | z :: m :: rest =>
    if z.is '0' && (baseMark base).any (fun x => m.is x || m.is x.toUpper) then rest
    else z :: m :: rest
  | t => t

/-- Reads an integer in base two, eight or sixteen, with or without the mark of the base. -/
def toIntegerIn (base : Nat) (t : Text) : Option Int :=
  let (negative, body) := t.trim.splitSign
  (digitValues? (baseDigit? base) (dropMark base body)).map fun ds =>
    if negative then -(ofDigits base ds : Int) else ofDigits base ds

end Text

example : (Text.toInteger " -0_5\n").toOption = some (-5) := by decide +kernel
example : (Text.toInteger "1__0").toOption = none ∧ (Text.toInteger "_1").toOption = none := by
  decide +kernel
example : (Text.toInteger "1_").toOption = none ∧ (Text.toInteger "+").toOption = none := by
  decide +kernel
example : (Text.toInteger "１٢").toOption = some 12 := by decide +kernel

end TapeLang
