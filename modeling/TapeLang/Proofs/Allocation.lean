/-
  Allocation — how many cells a run keeps.

  A tape grows when the cell under the head is needed and is not kept yet: by a chunk, and by the
  distance from the edge of the cells kept to the head.  In a run that distance is always zero, so that
  the number of cells is a number of whole chunks, just enough for the largest address at which a cell
  was needed so far (`Tape.room`).

  1. **The invariant (`Tape.Fits`)** — the head is at most at the edge, and the number of cells is what the
     addresses needed so far ask for.  The head comes to the edge only by a step to the right from the last
     cell, which was needed for it, so nothing can lead further.
  2. **The step (`Machine.fits_move`)** — what a move needs (`Machine.need?`) is the address under the head
     or nothing, and `Tape.room_concat` says what one more address asks for: nothing more, or one chunk.
  3. **Access (`Machine.runChecked_eq`)** — a run with a check at every access to a cell is the run.
-/
import TapeLang.Proofs.EndlessTape
import TapeLang.Proofs.Run

namespace TapeLang

/-! ## Room for addresses -/

namespace Tape

/-- How many cells there are, in whole chunks, if the cells at some addresses were needed. -/
def room (c : Chunk) (needed : List Nat) : Nat :=
  match needed.max? with
  | none => 0
  | some m => c.size * (m / c.size + 1)

theorem room_of_max {c : Chunk} {needed : List Nat} {m : Nat} (h : needed.max? = some m) :
    room c needed = c.size * (m / c.size + 1) := by
  rw [room, h]

/-- There are whole chunks of cells. -/
theorem size_dvd_room (c : Chunk) (needed : List Nat) : c.size ∣ room c needed := by
  unfold room
  split
  · exact Nat.dvd_zero _
  · exact Nat.dvd_mul_right _ _

theorem max?_concat {needed : List Nat} {m : Nat} (h : needed.max? = some m) (a : Nat) :
    (needed ++ [a]).max? = some (max m a) := by
  obtain ⟨hmem, hle⟩ := List.max?_eq_some_iff.1 h
  refine List.max?_eq_some_iff.2 ⟨?_, ?_⟩
  · rcases Nat.le_total m a with hma | ham
    · rw [Nat.max_eq_right hma]
      exact List.mem_append_right _ List.mem_cons_self
    · rw [Nat.max_eq_left ham]
      exact List.mem_append_left _ hmem
  · intro b hb
    rcases List.mem_append.1 hb with hb | hb
    · exact Nat.le_trans (hle b hb) (Nat.le_max_left m a)
    · rw [List.mem_singleton.1 hb]
      exact Nat.le_max_right m a

/-- **One more address** that is at most at the edge asks for no cell more, or for one chunk more if it is
    at the edge. -/
theorem room_concat {c : Chunk} {needed : List Nat} {a : Nat} (h : a ≤ room c needed) :
    room c (needed ++ [a]) = if a < room c needed then room c needed else room c needed + c.size := by
  have hpos := c.pos
  cases hmax : needed.max? with
  | none =>
    obtain rfl := List.max?_eq_none_iff.1 hmax
    obtain rfl : a = 0 := Nat.le_zero.1 h
    simp [room]
  | some m =>
    rw [room_of_max (max?_concat hmax a)]
    rw [room_of_max hmax] at h ⊢
    split
    · -- the chunk of the largest address is the same, or the new address is in it
      rename_i hlt
      have hdiv : max m a / c.size = m / c.size := by
        have hm : m < c.size * (m / c.size + 1) := Nat.lt_mul_div_succ m hpos
        refine Nat.le_antisymm (Nat.le_of_lt_succ ?_) (Nat.div_le_div_right (Nat.le_max_left m a))
        exact Nat.div_lt_of_lt_mul (Nat.max_lt.2 ⟨hm, hlt⟩)
      rw [hdiv]
    · rename_i hge
      obtain rfl : a = c.size * (m / c.size + 1) := Nat.le_antisymm h (Nat.le_of_not_lt hge)
      have hm : m ≤ c.size * (m / c.size + 1) := Nat.le_of_lt (Nat.lt_mul_div_succ m hpos)
      rw [Nat.max_eq_right hm, Nat.mul_div_cancel_left _ hpos, Nat.mul_add_one]

/-! ## The invariant -/

/-- The number of cells kept is what the addresses needed so far ask for, and the head is at most at the
    edge. -/
structure Fits (c : Chunk) (needed : List Nat) (t : Tape) : Prop where
  /-- The tape grows by this chunk. -/
  chunk : t.chunk = c
  /-- The head is at a cell that is kept, or just behind the last one. -/
  head : t.head ≤ t.cells.size
  /-- There are as many cells as are asked for. -/
  size : t.cells.size = room c needed

theorem reach_chunk (t : Tape) : t.reach.chunk = t.chunk := by
  unfold reach
  split <;> rfl

/-- A tape whose head is at most at the edge grows by one chunk if the head is at the edge. -/
theorem reach_size {t : Tape} (h : t.head ≤ t.cells.size) : t.reach.cells.size =
    if t.head < t.cells.size then t.cells.size else t.cells.size + t.chunk.size := by
  unfold reach
  by_cases hlt : t.head < t.cells.size
  · rw [if_neg (Nat.not_le.2 hlt), if_pos hlt]
  · rw [if_pos (Nat.le_of_not_lt hlt), if_neg hlt]
    simp
    omega

theorem write_size (t : Tape) (b : UInt8) : (t.write b).cells.size = t.reach.cells.size := by
  simp [write]

namespace Fits

variable {c : Chunk} {needed : List Nat} {t : Tape}

theorem blank (c : Chunk) : (Tape.blank c).Fits c [] := ⟨rfl, Nat.le_refl 0, rfl⟩

/-- The cell under the head is needed. -/
theorem reach (h : t.Fits c needed) : t.reach.Fits c (needed ++ [t.head]) := by
  refine ⟨t.reach_chunk.trans h.chunk, ?_, ?_⟩
  · rw [reach_head]
    exact Nat.le_of_lt t.head_lt_reach_size
  · rw [reach_size h.head, room_concat (h.size ▸ h.head), h.size, h.chunk]

theorem write (h : t.Fits c needed) (b : UInt8) : (t.write b).Fits c (needed ++ [t.head]) := by
  obtain ⟨hchunk, hhead, hsize⟩ := h.reach
  rw [reach_head] at hhead
  exact ⟨hchunk, by rw [write_head, write_size]; exact hhead, by rw [write_size, hsize]⟩

/-- From a cell that is kept the head comes at most to the edge. -/
theorem right (h : t.Fits c needed) : t.right.Fits c (needed ++ [t.head]) := by
  refine ⟨h.reach.chunk, ?_, h.reach.size⟩
  show t.reach.head + 1 ≤ t.reach.cells.size
  rw [reach_head]
  exact t.head_lt_reach_size

theorem left (h : t.Fits c needed) {n : Nat} (hn : t.head = n + 1) : (t.seek n).Fits c needed := by
  have hhead := h.head
  exact ⟨h.chunk, show n ≤ t.cells.size by omega, h.size⟩

end Fits

end Tape

/-! ## Moves -/

/-- The address at which a command needs a cell in a state. -/
def State.need? (s : State) (code : Value) : Option Nat :=
  match Command.ofCode? code with
  | some .right | some .increment | some .decrement | some .output => some s.tape.head
  | some .input => if s.input = [] then none else some s.tape.head
  | some .left | none => none

/-- A command keeps the invariant. -/
theorem Acts.fits {code : Value} {position : Option Int} {s : State} {e : Effect} {c : Chunk}
    {needed : List Nat} (h : Acts code position s e) (hs : s.tape.Fits c needed) :
    e.ending.state.tape.Fits c (needed ++ (s.need? code).toList) := by
  cases h with
  | right hc =>
    rw [State.need?, hc]
    exact hs.right
  | left hc hn =>
    rw [State.need?, hc, Option.toList_none, List.append_nil]
    exact hs.left hn
  | edge hc =>
    rw [State.need?, hc, Option.toList_none, List.append_nil]
    exact hs
  | increment hc =>
    rw [State.need?, hc]
    exact hs.write _
  | decrement hc =>
    rw [State.need?, hc]
    exact hs.write _
  | output hc =>
    rw [State.need?, hc]
    exact hs.reach
  | input hc hi =>
    rw [State.need?, hc, hi]
    exact hs.write _
  | exhausted hc hi =>
    rw [State.need?, hc, hi, if_pos rfl, Option.toList_none, List.append_nil]
    exact hs
  | unknown hc =>
    rw [State.need?, hc, Option.toList_none, List.append_nil]
    exact hs

namespace Machine

/-- The address at which the next move of a machine needs a cell. -/
def need? (m : Machine) : Option Nat :=
  match m.node? with
  | some (.command code _) => m.state.need? code
  | some (.loop ..) => some m.state.tape.head
  | none => none

/-- The addresses at which the steps among the first `n` moves need a cell, in order. -/
def needed (n : Nat) (m : Machine) : List Nat := (m.stops n).filterMap need?

/-- A machine that makes no step needs no cell. -/
theorem need?_of_no_node {m : Machine} (h : m.node? = none) : m.need? = none := by
  rw [need?, h]

theorem needed_of_going {m m' : Machine} (h : m.move = .going m') (n : Nat) :
    m.needed (n + 1) = m.need?.toList ++ m'.needed n :=
  filterMap_stops_of_going (fun _ => need?_of_no_node) h n

theorem needed_of_ended {m : Machine} (h : ∀ m', m.move ≠ .going m') (n : Nat) :
    m.needed (n + 1) = m.need?.toList :=
  filterMap_stops_of_ended (fun _ => need?_of_no_node) h n

variable {c : Chunk} {before : List Nat}

/-- **One move** keeps the invariant. -/
theorem fits_move {m : Machine} (h : m.state.tape.Fits c before) :
    m.move.state.tape.Fits c (before ++ m.need?.toList) := by
  have hmoves := m.moves_move
  generalize m.move = next at hmoves ⊢
  cases hmoves with
  | finish => exact (List.append_nil before).symm ▸ h
  | drop => exact (List.append_nil before).symm ▸ h
  | skip => exact h.reach
  | enter => exact h.reach
  | @done _ _ code position _ s t he =>
    have hacts := acts_execute code position s.count
    rw [he] at hacts
    exact hacts.fits h
  | @fail _ _ code position _ s t f he =>
    have hacts := acts_execute code position s.count
    rw [he] at hacts
    exact hacts.fits h

/-- **A run** keeps the invariant. -/
theorem fits_run {m : Machine} (h : m.state.tape.Fits c before) (n : Nat) :
    (m.run n).state.tape.Fits c (before ++ m.needed n) := by
  induction n generalizing m before with
  | zero => exact (List.append_nil before).symm ▸ h
  | succ n ih =>
    have hnext := fits_move h
    obtain ⟨m', hmove⟩ | hended := m.move.going_or_ended
    · rw [hmove] at hnext
      rw [run_of_going hmove, needed_of_going hmove, ← List.append_assoc]
      exact ih hnext
    · rw [run_of_ended hended, needed_of_ended hended, Progress.ending_state]
      exact hnext

/-- What a move needs is the cell under the head. -/
theorem need?_eq_head {m : Machine} {a : Nat} (h : m.need? = some a) : a = m.state.tape.head := by
  unfold need? State.need? at h
  grind

/-- A move adds one chunk of cells or none. -/
theorem size_move {m : Machine} (h : m.state.tape.Fits c before) :
    m.move.state.tape.cells.size = m.state.tape.cells.size ∨
      m.move.state.tape.cells.size = m.state.tape.cells.size + c.size := by
  rw [(fits_move h).size, h.size]
  cases hneed : m.need? with
  | none => exact Or.inl (by rw [Option.toList_none, List.append_nil])
  | some a =>
    have ha : a ≤ Tape.room c before := by
      rw [need?_eq_head hneed, ← h.size]
      exact h.head
    rw [Option.toList_some, Tape.room_concat ha]
    split
    · exact Or.inl rfl
    · exact Or.inr rfl

/-- A run adds one chunk of cells or none with each further move. -/
theorem size_run_succ {m : Machine} (h : m.state.tape.Fits c before) (n : Nat) :
    (m.run (n + 1)).state.tape.cells.size = (m.run n).state.tape.cells.size ∨
      (m.run (n + 1)).state.tape.cells.size = (m.run n).state.tape.cells.size + c.size := by
  have hfits := fits_run h n
  obtain ⟨m', hrun⟩ | hended := (m.run n).unfinished_or_ended
  · rw [hrun] at hfits
    rw [run_append hrun, run_one, Progress.ending_state, hrun]
    exact size_move hfits
  · rw [run_add hended]
    exact Or.inl rfl

end Machine

/-! ## Access to cells -/

/-- Carries a command out with a check at every access to a cell; nothing if a check fails. -/
def State.executeChecked (s : State) (code : Value) (position : Option Int) : Option Effect :=
  match Command.ofCode? code with
  | some .increment => (s.tape.checked .increment).map fun r => .done { s with tape := r.2 }
  | some .decrement => (s.tape.checked .decrement).map fun r => .done { s with tape := r.2 }
  | some .output =>
    s.tape.reach.read?.map fun b => .done { s with output := s.output.push b, tape := s.tape.reach }
  | some .input =>
    match s.input with
    | [] => some (.failed (.fault .noInput) s)
    | b :: rest => (s.tape.reach.store? b).map fun tape => .done { s with tape, input := rest }
  | some .right | some .left | none => some (s.execute code position)

/-- A command makes no access to a cell that is not kept. -/
theorem State.executeChecked_eq (s : State) (code : Value) (position : Option Int) :
    s.executeChecked code position = some (s.execute code position) := by
  have hacts := acts_execute code position s
  generalize he : s.execute code position = e at hacts ⊢
  cases hacts with
  | right hc => simp only [executeChecked, hc, he]
  | left hc => simp only [executeChecked, hc, he]
  | edge hc => simp only [executeChecked, hc, he]
  | increment hc =>
    simp only [executeChecked, hc, Tape.checked_eq]
    rfl
  | decrement hc =>
    simp only [executeChecked, hc, Tape.checked_eq]
    rfl
  | output hc => simp only [executeChecked, hc, Tape.reach_read?, Option.map_some]
  | input hc hi => simp only [executeChecked, hc, hi, Tape.reach_store?, Option.map_some]
  | exhausted hc hi => simp only [executeChecked, hc, hi]
  | unknown hc => simp only [executeChecked, hc, he]

namespace Machine

/-- Makes one move with a check at every access to a cell. -/
def moveChecked (m : Machine) : Option Progress :=
  match m.cursors with
  | ⟨before, .command code position :: after⟩ :: below =>
    (m.state.count.executeChecked code position).map fun
      | .done s => .going ⟨⟨.command code position :: before, after⟩ :: below, s⟩
      | .failed f s => .failed f s
  | ⟨before, .loop body position :: after⟩ :: below =>
    m.state.tape.reach.read?.map fun b =>
      if b = 0 then .going ⟨⟨.loop body position :: before, after⟩ :: below, m.state.test⟩
      else .going ⟨Cursor.start body :: ⟨before, .loop body position :: after⟩ :: below, m.state.test⟩
  | ⟨_, []⟩ :: below => some (.going ⟨below, m.state⟩)
  | [] => some (.finished m.state)

/-- Makes up to a number of moves with a check at every access to a cell; nothing if a check fails. -/
def runChecked : Nat → Machine → Option Ending
  | 0, m => some (.unfinished m)
  | n + 1, m =>
    match m.moveChecked with
    | none => none
    | some (.going m) => runChecked n m
    | some (.finished s) => some (.finished s)
    | some (.failed f s) => some (.failed f s)

theorem moveChecked_eq (m : Machine) : m.moveChecked = some m.move := by
  have hmoves := m.moves_move
  generalize m.move = next at hmoves ⊢
  cases hmoves with
  | finish => rfl
  | drop => rfl
  | skip hcell => simp only [moveChecked, Tape.reach_read?, Option.map_some, if_pos hcell]
  | enter hcell => simp only [moveChecked, Tape.reach_read?, Option.map_some, if_neg hcell]
  | done he => simp only [moveChecked, State.executeChecked_eq, he, Option.map_some]
  | fail he => simp only [moveChecked, State.executeChecked_eq, he, Option.map_some]

/-- **No access to a cell is out of range in a run.** -/
theorem runChecked_eq (m : Machine) (n : Nat) : m.runChecked n = some (m.run n) := by
  induction n generalizing m with
  | zero => rfl
  | succ n ih =>
    rw [runChecked, moveChecked_eq]
    cases hmove : m.move with
    | going m' => rw [run_of_going hmove, ← ih]
    | finished s => rw [run_of_finished hmove]
    | failed f s => rw [run_of_failed hmove]

end Machine

/-! ## The theorem -/

/-- **A run keeps whole chunks of cells, as few as will do.**  In every state that a run comes to the head is
    at most at the edge of the cells kept; their number is one of whole chunks, grows by one chunk at a time,
    and is what the largest address asks for at which a cell was needed so far, zero if none was.  So no
    access to a cell is out of range. -/
theorem Program.run_keeps_room (p : Program) (chunk : Chunk) (input : List UInt8) (n : Nat) :
    (p.run n chunk input).state.tape.head ≤ (p.run n chunk input).state.tape.cells.size ∧
    chunk.size ∣ (p.run n chunk input).state.tape.cells.size ∧
    ((p.run (n + 1) chunk input).state.tape.cells.size =
        (p.run n chunk input).state.tape.cells.size ∨
      (p.run (n + 1) chunk input).state.tape.cells.size =
        (p.run n chunk input).state.tape.cells.size + chunk.size) ∧
    (p.run n chunk input).state.tape.cells.size =
      Tape.room chunk ((Machine.start p (State.initial chunk input)).needed n) ∧
    (Machine.start p (State.initial chunk input)).runChecked n = some (p.run n chunk input) := by
  have hblank : (Machine.start p (State.initial chunk input)).state.tape.Fits chunk [] := .blank chunk
  have hfits : (p.run n chunk input).state.tape.Fits chunk
      ((Machine.start p (State.initial chunk input)).needed n) := Machine.fits_run hblank n
  refine ⟨hfits.head, ?_, Machine.size_run_succ hblank n, hfits.size, Machine.runChecked_eq _ n⟩
  rw [hfits.size]
  exact Tape.size_dvd_room _ _

end TapeLang
