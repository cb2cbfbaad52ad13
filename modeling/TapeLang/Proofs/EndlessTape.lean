/-
  EndlessTape — the cells that are kept stand for an endless tape.

  The specification is an `EndlessTape`: an integer at every address, zero at first, and a head.  There is no
  growing in it, and no byte: what is put under the head is taken modulo 256.

  A tape **stands for** an endless one (`Tape.StandsFor`) if the heads are at one address and the byte at
  every address, kept or not, is the integer there.  All that is said of the cells kept follows: they
  are the first so many integers, and beyond them there are zeros.

  1. **The step (`StandsFor.perform`)** — an operation gives the answer of the specification, and leads to
     a tape that stands for the one that the specification leads to.  All of it is in `reach_byteAt` and
     `write_byteAt`: growing is not seen, writing is seen under the head alone.
  2. **What a step leaves alone (`Tape.Kept`)** — the cells but the one under the head, and all of them if
     the operation only looks or moves to the left.
  3. **Access (`Tape.checked_eq`)** — with a check at every access to a cell, no check fails: after
     growing, the head is over a cell that is kept, and a window looks only at cells that are.
-/
import TapeLang.Tape

namespace TapeLang

namespace Tape

/-! ## Operations -/

/-- What can be done with a tape. -/
inductive Op where
  /-- Looks at the cell under the head. -/
  | get
  /-- Puts an integer under the head. -/
  | set (n : Int)
  /-- Adds one to the cell under the head. -/
  | increment
  /-- Takes one from the cell under the head. -/
  | decrement
  /-- Moves the head to the right. -/
  | right
  /-- Moves the head to the left. -/
  | left
  /-- Puts the head somewhere else. -/
  | seek (address : Nat)
  /-- Looks at some cells around the head. -/
  | window (size : Int)
  /-- Looks at all cells that are kept. -/
  | cells

/-- What an operation gives back. -/
inductive Answer where
  /-- Nothing. -/
  | none
  /-- What is in one cell. -/
  | cell (value : Int)
  /-- What is in some cells, the first of them at `start`. -/
  | window (start : Nat) (values : List Int)
  /-- What is in the first cells. -/
  | cells (values : List Int)
  /-- The operation cannot be done. -/
  | failure (f : Fault)

/-- A byte as an integer. -/
def integerOf (b : UInt8) : Int := b.toNat

/-- Does an operation. -/
def perform (t : Tape) : Op → Answer × Tape
  | .get => (.cell (integerOf t.cell), t.reach)
  | .set n => (.none, t.writeInt n)
  | .increment => (.none, t.increment)
  | .decrement => (.none, t.decrement)
  | .right => (.none, t.right)
  | .left =>
    match t.left? with
    | some u => (.none, u)
    | none => (.failure .leftEdge, t)
  | .seek address => (.none, t.seek address)
  | .window size => (.window (t.window size).1 ((t.window size).2.map integerOf), t)
  | .cells => (.cells (t.cells.toList.map integerOf), t)

/-- Does some operations, one after the other. -/
def after (t : Tape) (ops : List Op) : Tape := ops.foldl (fun t op => (t.perform op).2) t

/-- The head moves to the left unless it is at the left edge. -/
theorem perform_left (t : Tape) :
    t.perform .left =
      if t.head = 0 then (.failure .leftEdge, t) else (.none, t.seek (t.head - 1)) := by
  cases hhead : t.head with
  | zero => simp only [perform, left?, hhead, if_true]
  | succ n => simp only [perform, left?, hhead, seek, Nat.add_one_ne_zero, if_false, Nat.add_sub_cancel]

end Tape

/-! ## The specification -/

/-- An endless row of cells to the right of a left edge, with a head over one of them. -/
structure EndlessTape where
  /-- What is at every address. -/
  cells : Nat → Int := fun _ => 0
  /-- The address under the head. -/
  head : Nat := 0

namespace EndlessTape

/-- Puts an integer under the head, modulo 256. -/
def write (e : EndlessTape) (n : Int) : EndlessTape :=
  { e with cells := fun a => if a = e.head then n % 256 else e.cells a }

/-- What an operation gives back, if the first `kept` cells count as kept. -/
def answer (e : EndlessTape) (kept : Nat) : Tape.Op → Tape.Answer
  | .get => .cell (e.cells e.head)
  | .left => if e.head = 0 then .failure .leftEdge else .none
  | .window size =>
    let start := (max 0 ((e.head : Int) - size.fdiv 2)).toNat
    .window start ((List.range size.toNat).map fun i => e.cells (start + i))
  | .cells => .cells ((List.range kept).map e.cells)
  | .set _ | .increment | .decrement | .right | .seek _ => .none

/-- What an operation leads to. -/
def next (e : EndlessTape) : Tape.Op → EndlessTape
  | .set n => e.write n
  | .increment => e.write (e.cells e.head + 1)
  | .decrement => e.write (e.cells e.head - 1)
  | .right => { e with head := e.head + 1 }
  | .left => { e with head := e.head - 1 }
  | .seek address => { e with head := address }
  | .get | .window _ | .cells => e

/-- Does some operations, one after the other. -/
def after (e : EndlessTape) (ops : List Tape.Op) : EndlessTape := ops.foldl next e

end EndlessTape

namespace Tape

/-- A tape stands for an endless one. -/
structure StandsFor (t : Tape) (e : EndlessTape) : Prop where
  /-- The heads are at one address. -/
  head : t.head = e.head
  /-- The byte at every address is the integer there. -/
  cells : ∀ a, integerOf (t.byteAt a) = e.cells a

/-! ## Bytes as integers -/

theorem integerOf_range (b : UInt8) : 0 ≤ integerOf b ∧ integerOf b < 256 := by
  have hlt := b.toNat_lt
  unfold integerOf
  omega

/-- The byte of an integer modulo 256. -/
theorem integerOf_ofNat (n : Int) : integerOf (UInt8.ofNat (n % 256).toNat) = n % 256 := by
  unfold integerOf
  rw [UInt8.toNat_ofNat']
  omega

theorem integerOf_add_one (b : UInt8) : integerOf (b + 1) = (integerOf b + 1) % 256 := by
  unfold integerOf
  rw [UInt8.toNat_add]
  simp

theorem integerOf_sub_one (b : UInt8) : integerOf (b - 1) = (integerOf b - 1) % 256 := by
  have hlt := b.toNat_lt
  unfold integerOf
  rw [UInt8.toNat_sub]
  have hone : (1 : UInt8).toNat = 1 := rfl
  omega

/-! ## Steps -/

namespace StandsFor

variable {t : Tape} {e : EndlessTape}

theorem blank (chunk : Chunk) : (Tape.blank chunk).StandsFor {} := ⟨rfl, fun _ => rfl⟩

theorem cell (h : t.StandsFor e) : integerOf t.cell = e.cells e.head := by
  rw [Tape.cell, h.cells, h.head]

theorem reach (h : t.StandsFor e) : t.reach.StandsFor e :=
  ⟨by rw [reach_head, h.head], fun a => by rw [reach_byteAt, h.cells]⟩

/-- To write a byte is to put under the head what is that byte modulo 256. -/
theorem write (h : t.StandsFor e) {b : UInt8} {n : Int} (hb : integerOf b = n % 256) :
    (t.write b).StandsFor (e.write n) := by
  refine ⟨by rw [write_head]; exact h.head, fun a => ?_⟩
  rw [write_byteAt, EndlessTape.write]
  by_cases ha : a = t.head
  · rw [if_pos ha, hb]
    exact (if_pos (ha.trans h.head)).symm
  · rw [if_neg ha, h.cells]
    exact (if_neg (h.head ▸ ha)).symm

theorem window (h : t.StandsFor e) (size : Int) :
    (t.perform (.window size)).1 = e.answer t.cells.size (.window size) := by
  have hstart : ((t.head : Int) - size.fdiv 2).toNat = (max 0 ((e.head : Int) - size.fdiv 2)).toNat := by
    rw [h.head]
    omega
  simp only [perform, Tape.window, EndlessTape.answer, hstart, List.map_map, Function.comp_def, h.cells]

/-- The cells kept are the first so many integers. -/
theorem kept (h : t.StandsFor e) :
    t.cells.toList.map integerOf = (List.range t.cells.size).map e.cells := by
  refine List.ext_getElem (by simp) fun a hleft hright => ?_
  have ha : a < t.cells.size := by simpa using hleft
  simp [← h.cells a, byteAt, ha]

/-- Beyond the cells kept there are zeros. -/
theorem beyond (h : t.StandsFor e) {a : Nat} (ha : t.cells.size ≤ a) : e.cells a = 0 := by
  rw [← h.cells a]
  simp [byteAt, integerOf, ha]

theorem left (h : t.StandsFor e) :
    (t.perform .left).1 = e.answer t.cells.size .left ∧ (t.perform .left).2.StandsFor (e.next .left) := by
  rw [perform_left, EndlessTape.answer, EndlessTape.next, ← h.head]
  by_cases hhead : t.head = 0
  · rw [if_pos hhead, if_pos hhead]
    exact ⟨rfl, by rw [hhead], h.cells⟩
  · rw [if_neg hhead, if_neg hhead]
    exact ⟨rfl, rfl, h.cells⟩

/-- **The step.**  An operation gives the answer of the specification and leads where the specification
    leads. -/
theorem perform (h : t.StandsFor e) (op : Op) :
    (t.perform op).1 = e.answer t.cells.size op ∧ (t.perform op).2.StandsFor (e.next op) := by
  cases op with
  | get => exact ⟨congrArg Answer.cell h.cell, h.reach⟩
  | set n => exact ⟨rfl, h.write (integerOf_ofNat n)⟩
  | increment => exact ⟨rfl, h.write (by rw [integerOf_add_one, h.cell])⟩
  | decrement => exact ⟨rfl, h.write (by rw [integerOf_sub_one, h.cell])⟩
  | right => exact ⟨rfl, congrArg (· + 1) h.reach.head, h.reach.cells⟩
  | left => exact h.left
  | seek address => exact ⟨rfl, rfl, h.cells⟩
  | window size => exact ⟨h.window size, h⟩
  | cells => exact ⟨congrArg Answer.cells h.kept, h⟩

/-- **Operations one after the other** lead where the specification leads. -/
theorem after (h : t.StandsFor e) (ops : List Op) : (t.after ops).StandsFor (e.after ops) := by
  induction ops generalizing t e with
  | nil => exact h
  | cons op ops ih => exact ih (h.perform op).2

end StandsFor

/-! ## What a step leaves alone -/

/-- An operation that does not need the cell under the head. -/
def Op.leavesCells : Op → Bool
  | left | seek _ | window _ | cells => true
  | get | set _ | increment | decrement | right => false

/-- From one tape to another no cell is lost, and none but that at `head` is changed. -/
structure Keeps (head : Nat) (t u : Tape) : Prop where
  /-- There are not fewer cells. -/
  size : t.cells.size ≤ u.cells.size
  /-- The other cells are as they were. -/
  others : ∀ a, a < t.cells.size → a ≠ head → u.cells[a]? = t.cells[a]?

/-- Growing changes no cell at all. -/
theorem reach_keeps (t : Tape) :
    t.cells.size ≤ t.reach.cells.size ∧ ∀ a, a < t.cells.size → t.reach.cells[a]? = t.cells[a]? := by
  unfold reach
  split
  · refine ⟨by simp, fun a ha => ?_⟩
    simp only [Array.getElem?_append, if_pos ha]
  · exact ⟨Nat.le_refl _, fun _ _ => rfl⟩

theorem keeps_reach (t : Tape) (head : Nat) : Keeps head t t.reach :=
  ⟨t.reach_keeps.1, fun a ha _ => t.reach_keeps.2 a ha⟩

theorem keeps_write (t : Tape) (b : UInt8) : Keeps t.head t (t.write b) := by
  obtain ⟨hsize, hcells⟩ := t.reach_keeps
  refine ⟨by simpa [write] using hsize, fun a ha hne => ?_⟩
  -- what is written is under the head, where the head was before growing
  rw [write, Array.getElem?_setIfInBounds_ne (by rw [reach_head]; exact fun h => hne h.symm)]
  exact hcells a ha

/-- **The step** loses no cell and changes none but that under the head. -/
theorem keeps_perform (t : Tape) (op : Op) : Keeps t.head t (t.perform op).2 := by
  have hrefl : Keeps t.head t t := ⟨Nat.le_refl _, fun _ _ _ => rfl⟩
  cases op with
  | get => exact t.keeps_reach t.head
  | set n => exact t.keeps_write _
  | increment => exact t.keeps_write _
  | decrement => exact t.keeps_write _
  | right => exact ⟨(t.keeps_reach t.head).size, (t.keeps_reach t.head).others⟩
  | left =>
    rw [perform_left]
    split
    · exact hrefl
    · exact ⟨Nat.le_refl _, fun _ _ _ => rfl⟩
  | seek address => exact ⟨Nat.le_refl _, fun _ _ _ => rfl⟩
  | window size => exact hrefl
  | cells => exact hrefl

/-- An operation that does not need the cell under the head leaves all cells alone. -/
theorem perform_cells {op : Op} (h : op.leavesCells = true) (t : Tape) :
    (t.perform op).2.cells = t.cells := by
  cases op with
  | left =>
    rw [perform_left]
    split <;> rfl
  | seek | window | cells => rfl
  | get | set | increment | decrement | right => cases h

/-! ## Access to cells -/

/-- The byte under the head, if there is such a cell. -/
def read? (t : Tape) : Option UInt8 := t.cells[t.head]?

/-- Puts a byte under the head, if there is such a cell. -/
def store? (t : Tape) (b : UInt8) : Option Tape :=
  if h : t.head < t.cells.size then some { t with cells := t.cells.set t.head b h } else none

/-- Does an operation with a check at every access to a cell; nothing if a check fails. -/
def checked (t : Tape) : Op → Option (Answer × Tape)
  | .get => t.reach.read?.map fun b => (.cell (integerOf b), t.reach)
  | .set n => (t.reach.store? (UInt8.ofNat (n % 256).toNat)).map fun u => (.none, u)
  -- reading has grown the tape already when it is to be grown for writing
  | .increment => do
    let b ← t.reach.read?
    let u ← t.reach.reach.store? (b + 1)
    return (.none, u)
  | .decrement => do
    let b ← t.reach.read?
    let u ← t.reach.reach.store? (b - 1)
    return (.none, u)
  | .window size => do
    let start := (t.window size).1
    let values ← (List.range size.toNat).mapM fun i =>
      if start + i < t.cells.size then t.cells[start + i]? else some 0
    return (.window start (values.map integerOf), t)
  | op => some (t.perform op)

/-- After growing there is a cell to read. -/
theorem reach_read? (t : Tape) : t.reach.read? = some t.cell := by
  have hkept := t.head_lt_reach_size
  rw [← reach_cell, cell, byteAt, read?, Array.getD_eq_getD_getElem?, reach_head,
    Array.getElem?_eq_getElem hkept]
  rfl

/-- After growing there is a cell to write. -/
theorem reach_store? (t : Tape) (b : UInt8) : t.reach.store? b = some (t.write b) := by
  have hkept : t.reach.head < t.reach.cells.size := by
    rw [reach_head]
    exact t.head_lt_reach_size
  rw [store?, dif_pos hkept, write, Array.setIfInBounds, dif_pos hkept]

theorem mapM_eq_some_map {α β : Type} {f : α → Option β} {g : α → β} (h : ∀ x, f x = some (g x))
    (xs : List α) : xs.mapM f = some (xs.map g) := by
  induction xs with
  | nil => rfl
  | cons x xs ih =>
    rw [List.mapM_cons, h, ih]
    rfl

/-- **No access to a cell is out of range.** -/
theorem checked_eq (t : Tape) (op : Op) : t.checked op = some (t.perform op) := by
  cases op with
  | get =>
    rw [checked, reach_read?]
    rfl
  | set n =>
    rw [checked, reach_store?]
    rfl
  | increment =>
    rw [checked, reach_read?, reach_reach]
    show (t.reach.store? (t.cell + 1)).bind _ = _
    rw [reach_store?]
    rfl
  | decrement =>
    rw [checked, reach_read?, reach_reach]
    show (t.reach.store? (t.cell - 1)).bind _ = _
    rw [reach_store?]
    rfl
  | window size =>
    have hread : ∀ i, (if (t.window size).1 + i < t.cells.size then t.cells[(t.window size).1 + i]?
        else some 0) = some (t.byteAt ((t.window size).1 + i)) := by
      intro i
      rw [byteAt, Array.getD_eq_getD_getElem?]
      split
      · rename_i hi
        rw [Array.getElem?_eq_getElem hi]
        rfl
      · rename_i hi
        rw [Array.getElem?_eq_none (Nat.le_of_not_lt hi)]
        rfl
    rw [checked, mapM_eq_some_map hread]
    rfl
  | right => rfl
  | left => rfl
  | seek address => rfl
  | cells => rfl

/-! ## The theorem -/

/-- All that a tape has in common with the endless tape that it stands for, now and with any operation to
    come. -/
structure Represents (t : Tape) (e : EndlessTape) : Prop where
  /-- The heads are at one address. -/
  head : t.head = e.head
  /-- The cells kept are the first so many integers. -/
  kept : t.cells.toList.map integerOf = (List.range t.cells.size).map e.cells
  /-- Beyond the cells kept there are zeros. -/
  beyond : ∀ a, t.cells.size ≤ a → e.cells a = 0
  /-- Every integer is that of a byte. -/
  bytes : ∀ a, 0 ≤ e.cells a ∧ e.cells a < 256
  /-- Every operation has the same answer. -/
  answer : ∀ op, (t.perform op).1 = e.answer t.cells.size op
  /-- No operation makes an access out of range. -/
  access : ∀ op, t.checked op = some (t.perform op)
  /-- No operation loses a cell, and none changes a cell that is not under the head. -/
  keeps : ∀ op, Keeps t.head t (t.perform op).2
  /-- Operations that do not need the cell under the head change no cell at all. -/
  leaves : ∀ op, op.leavesCells = true → (t.perform op).2.cells = t.cells

theorem StandsFor.represents {t : Tape} {e : EndlessTape} (h : t.StandsFor e) : t.Represents e where
  head := h.head
  kept := h.kept
  beyond a ha := h.beyond ha
  bytes a := by
    rw [← h.cells a]
    exact integerOf_range _
  answer op := (h.perform op).1
  access op := t.checked_eq op
  keeps op := t.keeps_perform op
  leaves op hop := perform_cells hop t

/-- **The cells kept stand for an endless tape.**  Whatever the chunk is and whatever is done, one operation
    after the other, with a blank tape and with a blank endless one, the tape represents the
    endless one, so that the next operation cannot tell them apart either. -/
theorem represents_endless (chunk : Chunk) (ops : List Op) :
    ((blank chunk).after ops).Represents (EndlessTape.after {} ops) :=
  ((StandsFor.blank chunk).after ops).represents

end Tape

end TapeLang
