/-
  Tape — the memory of a machine.

  A tape is an endless row of cells to the right of a left edge, each a byte, all zero at first, with a
  head over one of them.  Only the cells that were needed so far are kept: the tape grows by chunks,
  when the cell under the head is needed and is not there yet.

  What a tape *means* is `Tape.byteAt`, the byte at every address, zero beyond the cells kept.  The
  operations are described by what they do to that map and to the head; growing does nothing to either.

  `Tape.reach` is `_ensure`; `Tape.right` and `Tape.left?` are `forward` and `backward`; `Tape.cell` and
  `Tape.write` read and set `current`.
-/
import TapeLang.Settings

namespace TapeLang

/-- The memory of a machine. -/
structure Tape where
  /-- How the tape grows. -/
  chunk : Chunk
  /-- The cells kept so far, from the left edge. -/
  cells : Array UInt8 := #[]
  /-- The address under the head. -/
  head : Nat := 0

namespace Tape

/-- A tape of zeros with the head at the left edge. -/
def blank (chunk : Chunk) : Tape := ⟨chunk, #[], 0⟩

/-- The byte at an address. -/
def byteAt (t : Tape) (address : Nat) : UInt8 := t.cells.getD address 0

/-- The byte under the head. -/
def cell (t : Tape) : UInt8 := t.byteAt t.head

/-- The tape, grown if the cell under the head is not kept yet: up to the head and one chunk on. -/
def reach (t : Tape) : Tape :=
  if t.cells.size ≤ t.head then
    { t with cells := t.cells ++ Array.replicate (t.head - t.cells.size + t.chunk.size) 0 }
  else t

/-- Puts a byte under the head. -/
def write (t : Tape) (b : UInt8) : Tape :=
  let t := t.reach
  { t with cells := t.cells.setIfInBounds t.head b }

/-- Puts an integer under the head, modulo 256. -/
def writeInt (t : Tape) (n : Int) : Tape := t.write (UInt8.ofNat (n % 256).toNat)

/-- Adds one to the byte under the head, modulo 256. -/
def increment (t : Tape) : Tape := t.write (t.cell + 1)

/-- Takes one from the byte under the head, modulo 256. -/
def decrement (t : Tape) : Tape := t.write (t.cell - 1)

/-- Moves the head to the right; the cell it leaves is needed. -/
def right (t : Tape) : Tape :=
  let t := t.reach
  { t with head := t.head + 1 }

/-- Moves the head to the left, unless it is at the left edge. -/
def left? (t : Tape) : Option Tape :=
  match t.head with
  | 0 => none
  | n + 1 => some { t with head := n }

/-- Puts the head somewhere else. -/
def seek (t : Tape) (address : Nat) : Tape := { t with head := address }

/-- About `size` cells around the head: the first address, and the bytes from there. -/
def window (t : Tape) (size : Int) : Nat × List UInt8 :=
  let start := ((t.head : Int) - size.fdiv 2).toNat
  (start, (List.range size.toNat).map fun i => t.byteAt (start + i))

/-- The kept cells up to the last one that is not zero. -/
def trimmed (t : Tape) : List UInt8 := (t.cells.toList.reverse.dropWhile (· == 0)).reverse

/-! ## What the operations do to the map -/

@[simp] theorem reach_head (t : Tape) : t.reach.head = t.head := by unfold reach; split <;> rfl

@[simp] theorem reach_byteAt (t : Tape) (a : Nat) : t.reach.byteAt a = t.byteAt a := by
  unfold reach byteAt
  split
  · simp only [Array.getD_eq_getD_getElem?, Array.getElem?_append, Array.getElem?_replicate]
    split
    · rfl
    · rename_i h
      rw [Array.getElem?_eq_none (by omega : t.cells.size ≤ a)]
      split <;> rfl
  · rfl

/-- After growing, the cell under the head is kept. -/
theorem head_lt_reach_size (t : Tape) : t.head < t.reach.cells.size := by
  unfold reach
  split
  · have := t.chunk.pos
    simp
    omega
  · omega

@[simp] theorem reach_cell (t : Tape) : t.reach.cell = t.cell := by
  simp [cell]

/-- To grow a tape that is grown changes nothing. -/
theorem reach_reach (t : Tape) : t.reach.reach = t.reach := by
  have hkept := t.head_lt_reach_size
  rw [reach, if_neg (by rw [reach_head]; omega)]

@[simp] theorem write_head (t : Tape) (b : UInt8) : (t.write b).head = t.head := by
  simp [write]

/-- Writing changes the byte under the head and no other. -/
theorem write_byteAt (t : Tape) (b : UInt8) (a : Nat) :
    (t.write b).byteAt a = if a = t.head then b else t.byteAt a := by
  have h := t.head_lt_reach_size
  unfold write
  by_cases ha : a = t.head
  · subst ha
    simp [byteAt, h]
  · rw [if_neg ha, ← reach_byteAt t a]
    simp only [byteAt, Array.getD_eq_getD_getElem?, reach_head]
    rw [Array.getElem?_setIfInBounds_ne (by omega)]

end Tape

end TapeLang
