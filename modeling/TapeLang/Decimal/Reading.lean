/-
  Reading — numbers with a fraction, as people type them.

  White space around the number is passed over; then come an optional sign, and digits with a point
  before, between or behind them, or with none, and perhaps an exponent.  Infinity and "not a number" are
  written as words.  The number is the double next to the decimal.
-/
import TapeLang.Text.Numeral

namespace TapeLang.Decimal

/-- The double next to `n · 10^e`.  Far outside of its range the result is known without computing. -/
def toDouble (n : Nat) (e : Int) : Float :=
  let size := (Nat.toDigits 10 n).length
  if n = 0 then 0.0
  else if 400 < e + size then 1.0 / 0.0
  else if e + size < -400 then 0.0
  else Float.ofScientific n (e < 0) e.natAbs

/-- The values of digits that may be missing altogether. -/
def optionalDigits (t : Text) : Option (List Nat) :=
  if t.isEmpty then some [] else Text.digitValues? CodePoint.digit? t

/-- The exponent behind its letter. -/
def exponent? (t : Text) : Option Int :=
  match t with
  | [] => some 0
  | _ :: rest =>
    let (negative, digits) := Text.splitSign rest
    (Text.digitValues? CodePoint.digit? digits).map fun ds =>
      if negative then -(Text.ofDigits 10 ds : Int) else Text.ofDigits 10 ds

/-- The number of a text without sign, in lower case. -/
def unsigned? (t : Text) : Option Float :=
  if t == "inf" || t == "infinity" then some (1.0 / 0.0)
  else if t == "nan" then some (0.0 / 0.0)
  else do
    let mantissa := t.takeWhile fun c => !c.is 'e'
    let whole := mantissa.takeWhile fun c => !c.is '.'
    let fraction := (mantissa.drop whole.length).drop 1
    let ds ← optionalDigits whole
    let fs ← optionalDigits fraction
    let e ← exponent? (t.drop mantissa.length)
    if (ds ++ fs).isEmpty then none
    else some (toDouble (Text.ofDigits 10 (ds ++ fs)) (e - fs.length))

/-- Reads a number. -/
def ofText? (t : Text) : Option Float :=
  let (negative, body) := Text.splitSign (Text.lowerAscii t.trim)
  (unsigned? body).map fun x => if negative then -x else x

end TapeLang.Decimal
