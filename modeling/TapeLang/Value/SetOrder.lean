/-
  SetOrder — the order in which a set shows its items.

  A set of numbers keeps them in a table of places whose number is a power of two.  The place of a number
  is its residue; if that is taken, further places are tried, first the neighbours behind it, as long as
  enough places follow, and then places that the higher bits of the residue choose.  The items are shown
  from the first place to the last, so small natural numbers are shown in ascending order.

  Other items have no residue of their own, and a set that holds one shows its items in the order in
  which they were put in.
-/
import TapeLang.Value

namespace TapeLang

/-! ## Residues -/

/-- Residues are taken modulo the prime 2^61 - 1. -/
def residuePrime : Nat := 0x1FFFFFFFFFFFFFFF

/-- A residue with its sign, as a word of 64 bits.  The residue -1 is not in use. -/
def residueWord (negative : Bool) (r : Nat) : Nat :=
  let r : Int := if negative then -(r : Int) else r
  ((if r = -1 then -2 else r) % 0x10000000000000000).toNat

/-- The residue of what a double holds.  Dividing by two turns the 61 bits of a residue by one place, so
    every finite double has one, and a double that is an integer has that of the integer. -/
def Decimal.Content.residue? : Decimal.Content → Option Nat
  | .nan => none
  | .infinite negative => some (residueWord negative 314159)
  | .zero _ => some 0
  | .finite negative b =>
    some (residueWord negative (b.m * Nat.pow 2 (b.q % 61).toNat % residuePrime))

/-- The residue of a number. -/
def Value.residue? : Value → Option Nat
  | .float x => (Decimal.Content.of x).residue?
  | v => v.integer?.map fun n => residueWord (n < 0) (n.natAbs % residuePrime)

/-! ## Places -/

/-- How many neighbours are tried. -/
def neighbours : Nat := 9

/-- A place that is free: first `place` and its neighbours, then the same around the next place, which
    the bits of `chooser` change.  `fuel` bounds the number of places tried. -/
def freePlace (table : Array (Option Value)) : (fuel place chooser : Nat) → Nat
  | 0, place, _ => place
  | fuel + 1, place, chooser =>
    let count := if place + neighbours < table.size then neighbours + 1 else 1
    match (List.range count).find? fun k => ((table[place + k]?).join).isNone with
    | some k => place + k
    | none =>
      let chooser := chooser / 32
      freePlace table fuel ((place * 5 + 1 + chooser) % table.size) chooser

/-- The number of places for so many items: eight, or more than twice as many if there are five items or
    more.  `fuel` bounds the number of doublings. -/
def tableSize (items : Nat) : Nat :=
  let rec double : (fuel size : Nat) → Nat
    | 0, size => size
    | fuel + 1, size => if size ≤ 2 * items then double fuel (2 * size) else size
  if items < 5 then 8 else double items 8

/-- Items in the order in which a set shows them. -/
def Value.setOrder (items : List Value) : List Value :=
  match items.mapM fun v => v.residue?.map fun r => (v, r) with
  | none => items
  | some residues =>
    let size := tableSize items.length
    let table := residues.foldl (fun (table : Array (Option Value)) (v, r) =>
      table.setIfInBounds (freePlace table (size * 16) (r % size) r) (some v))
      (Array.replicate size none)
    table.toList.filterMap id

example : (Value.setOrder [.int 3, .int 1, .int 2]).map Value.integer? = [some 1, some 2, some 3] := by
  decide +kernel
example : (Value.setOrder [.int 9, .int 1]).map Value.integer? = [some 9, some 1] := by decide +kernel

end TapeLang
