/-
  Shortest — the shortest decimal that reads back as a given binary floating-point number.

  A finite positive double is `m · 2^q`.  The reals that round to it form an interval around it, whose
  ends belong to it exactly if `m` is even.  Among the decimals with one digit, with two digits and so
  on, the first grid that meets the interval gives the answer, and on that grid only the two
  neighbours of the number have to be tried: a point of the grid inside the interval is never nearer
  to the number than the neighbour on its side.  All comparisons are between natural numbers, so no
  step rounds.

  What the digits look like on paper (where positional notation ends, how an exponent is written) is
  the business of one `Style` value, kept apart from the choice of the digits.
-/
import TapeLang.Decimal.Content
import TapeLang.Text

namespace TapeLang.Decimal

/-! ## The interval of a number -/

/-- A fraction of natural numbers; the denominator is never zero where one is built. -/
structure Ratio where
  /-- The numerator. -/
  num : Nat
  /-- The denominator. -/
  den : Nat

/-- `n · base^e`. -/
def Ratio.scaled (base n : Nat) : Int → Ratio
  | .ofNat e => ⟨n * Nat.pow base e, 1⟩
  | .negSucc e => ⟨n, Nat.pow base (e + 1)⟩

/-- Comparison by cross products. -/
def Ratio.le (a b : Ratio) : Bool := a.num * b.den ≤ b.num * a.den

/-- Strict comparison by cross products. -/
def Ratio.lt (a b : Ratio) : Bool := a.num * b.den < b.num * a.den

/-- The reals that round to a number, from `low` to `high`. -/
structure Interval where
  /-- The lower end. -/
  low : Ratio
  /-- The upper end. -/
  high : Ratio
  /-- Whether the ends themselves round to the number. -/
  closed : Bool

/-- Half-way to both neighbours; below a power of two the neighbour is only half as far. -/
def Binary.interval (b : Binary) : Interval where
  low := Ratio.scaled 2 (4 * b.m - if b.m = leastNormal ∧ -1074 < b.q then 1 else 2) (b.q - 2)
  high := Ratio.scaled 2 (4 * b.m + 2) (b.q - 2)
  closed := b.m % 2 == 0

/-- Membership in the interval. -/
def Interval.contains (i : Interval) (x : Ratio) : Bool :=
  if i.closed then i.low.le x && x.le i.high else i.low.lt x && x.lt i.high

/-! ## The digits -/

/-- The power of ten of the leading digit. -/
def Binary.magnitude (b : Binary) : Int :=
  let r := Ratio.scaled 2 b.m b.q
  ((Nat.toDigits 10 (r.num * Nat.pow 10 400 / r.den)).length : Int) - 1 - 400

/-- The number `digits · 10^exponent`. -/
structure Expansion where
  /-- The digits, as one number. -/
  digits : Nat
  /-- The power of ten of the last digit. -/
  exponent : Int

/-- The nearer of the number's two neighbours on the grid of multiples of `10^e`, if it lies in the
    interval; of two equally near ones, the one with an even last digit. -/
def Binary.onGrid? (b : Binary) (e : Int) : Option Nat :=
  let x := Ratio.scaled 2 b.m b.q
  let unit := Ratio.scaled 10 1 e
  let below := x.num * unit.den / (x.den * unit.num)
  let inside (n : Nat) : Bool := b.interval.contains (Ratio.scaled 10 n e)
  let twice := Ratio.scaled 10 (2 * below + 1) e
  let half : Ratio := ⟨2 * x.num, x.den⟩
  let first := if half.lt twice || (half.le twice && below % 2 == 0) then below else below + 1
  let second := if first = below then below + 1 else below
  if inside first then some first else if inside second then some second else none

/-- Tries the grids with `count`, `count + 1`, … digits; seventeen digits always suffice. -/
def Binary.searchFrom (b : Binary) : Nat → Nat → Expansion
  | 0, count => ⟨(b.onGrid? (b.magnitude - count + 1)).getD 0, b.magnitude - count + 1⟩
  | left + 1, count =>
    match b.onGrid? (b.magnitude - count + 1) with
    | some n => ⟨n, b.magnitude - count + 1⟩
    | none => b.searchFrom left (count + 1)

/-- The shortest decimal that reads back, and the nearest of those. -/
def Binary.shortest (b : Binary) : Expansion := b.searchFrom 16 1

/-! ## On paper -/

/-- How a decimal is written. -/
structure Style where
  /-- The least power of ten of the leading digit that is written positionally. -/
  positionalFrom : Int
  /-- The least power of ten of the leading digit that is too large for that. -/
  positionalBelow : Int
  /-- The least number of digits of an exponent. -/
  exponentDigits : Nat
  /-- The texts of infinity and of what is no number. -/
  infinity : Text
  /-- The text of what is no number. -/
  nan : Text

/-- The significant digits, trailing zeros removed. -/
def Expansion.significand (d : Expansion) : Text :=
  let ds := Text.natural d.digits
  let kept := (ds.reverse.dropWhile (·.is '0')).reverse
  if kept.isEmpty then "0" else kept

/-- The power of ten of the leading digit. -/
def Expansion.leading (d : Expansion) : Int := d.exponent + (Text.natural d.digits).length - 1

/-- Writes digits positionally, with at least one digit on each side of the point. -/
def positional (ds : Text) (leading : Int) : Text :=
  if leading < 0 then "0." ++ List.replicate (-leading - 1).toNat (CodePoint.ofChar '0') ++ ds
  else
    let before := leading.toNat + 1
    let whole := ds ++ List.replicate (before - ds.length) (CodePoint.ofChar '0')
    let rest := whole.drop before
    whole.take before ++ "." ++ (if rest.isEmpty then ("0" : Text) else rest)

/-- Writes digits with an exponent; the point is left out after a lone digit. -/
def Style.scientific (s : Style) (ds : Text) (leading : Int) : Text :=
  let mantissa := ds.take 1 ++ (if ds.length ≤ 1 then [] else ("." : Text) ++ ds.drop 1)
  let size := Text.natural leading.natAbs
  mantissa ++ "e" ++ (if leading < 0 then ("-" : Text) else "+") ++
    List.replicate (s.exponentDigits - size.length) (CodePoint.ofChar '0') ++ size

/-- Writes a decimal other than zero. -/
def Style.write (s : Style) (d : Expansion) : Text :=
  if s.positionalFrom ≤ d.leading ∧ d.leading < s.positionalBelow then
    positional d.significand d.leading
  else s.scientific d.significand d.leading

/-- Writes whatever a double holds. -/
def Style.writeContent (s : Style) : Content → Text
  | .nan => s.nan
  | .infinite negative => (if negative then ("-" : Text) else "") ++ s.infinity
  | .zero negative => if negative then "-0.0" else "0.0"
  | .finite negative b => (if negative then ("-" : Text) else "") ++ s.write b.shortest

end TapeLang.Decimal
