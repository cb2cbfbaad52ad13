/-
  Content — what a double-precision number holds, in exact terms.

  The 64 bits of a double are taken apart once, here, and everything that has to be exact is said about
  the parts: which integer a double is, and whether two doubles hold the same.  No operation on doubles is
  used, so nothing rounds unseen.
-/
namespace TapeLang.Decimal

/-! ## Taking apart -/

/-- The positive number `m · 2^q`. -/
structure Binary where
  /-- The integer part of the representation. -/
  m : Nat
  /-- The power of two. -/
  q : Int
  deriving DecidableEq

/-- What a double holds. -/
inductive Content where
  /-- Not a number. -/
  | nan
  /-- Infinity with its sign. -/
  | infinite (negative : Bool)
  /-- Zero with its sign. -/
  | zero (negative : Bool)
  /-- A finite number other than zero, with its sign. -/
  | finite (negative : Bool) (b : Binary)
  deriving DecidableEq

/-- The least significand of a double that is not subnormal, 2^52. -/
def leastNormal : Nat := 0x10000000000000

namespace Content

/-- Takes the 64 bits of a double apart. -/
def ofBits (bits : Nat) : Content :=
  let negative := bits / (2048 * leastNormal) % 2 == 1
  let exponent : Nat := bits / leastNormal % 2048
  let fraction : Nat := bits % leastNormal
  if exponent = 2047 then (if fraction = 0 then .infinite negative else .nan)
  else if exponent = 0 then
    (if fraction = 0 then .zero negative else .finite negative ⟨fraction, -1074⟩)
  else .finite negative ⟨leastNormal + fraction, (exponent : Int) - 1075⟩

/-- What a double holds. -/
def of (x : Float) : Content := ofBits x.toBits.toNat

end Content

/-! ## Integers -/

/-- The natural number that `m · 2^q` is, if it is one. -/
def Binary.natural? (b : Binary) : Option Nat :=
  match b.q with
  | .ofNat e => some (b.m * Nat.pow 2 e)
  | .negSucc e =>
    let unit := Nat.pow 2 (e + 1)
    if b.m % unit = 0 then some (b.m / unit) else none

namespace Content

/-- The integer that a double is, if it is one. -/
def integer? : Content → Option Int
  | nan | infinite _ => none
  | zero _ => some 0
  | finite negative b => b.natural?.map fun n => if negative then -(n : Int) else n

/-! ## Sameness -/

/-- Whether two doubles hold the same: the two zeros do, and so does whatever is not a number. -/
def same : Content → Content → Bool
  | nan, nan => true
  | zero _, zero _ => true
  | infinite a, infinite b => a == b
  | finite a x, finite b y => a == b && x == y
  | _, _ => false

/-- Doubles that hold the same are the same integer, or both none. -/
theorem integer?_eq_of_same {a b : Content} (h : a.same b) : a.integer? = b.integer? := by
  cases a <;> cases b <;> simp_all [same, integer?]

end Content

example : (Content.ofBits 0x4045800000000000).integer? = some 43 := by decide +kernel
example : (Content.ofBits 0x4045C00000000000).integer? = none := by decide +kernel

end TapeLang.Decimal
