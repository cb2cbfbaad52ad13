/-
  Run — what is true of runs because of how they are made of moves.

  `Acts` and `Machine.Moves` say once what a command and a move can do; what is true of every command or
  move is shown case by case from them.  `Refused` says why a command fails.

  The budget of a run is there for totality only.  `Machine.EndsIn` and `Machine.Endless` are runs without
  it: a machine comes to an end, or it has moves to make for ever.  `Machine.visits` are the steps of a
  run in their order, each with the node it is about and the state before it; it is what an observer
  sees who takes a note before every move.  `Machine.stops` are the same steps, each as the machine that
  makes it, and `Machine.makesStep_iff` says that they have the numbers that they are counted by.

  Two machines run in **lockstep** if a relation between them outlives a move of both.  That is all
  `Machine.run_alike` asks for, and it gives the relation after any number of moves, so a comparison of
  two runs is a comparison of two moves.  Where the relation outlives only the moves of some machines, it
  lasts as long as the run comes to no other (`Machine.run_alike_while`).
-/
import TapeLang.Machine

namespace TapeLang

/-! ## Loop tests -/

namespace State

/-- A loop test is started: it counts as a step, and the cell under the head is kept from now on. -/
def test (s : State) : State := { s.count with tape := s.tape.reach }

@[simp] theorem test_tape (s : State) : s.test.tape = s.tape.reach := rfl
@[simp] theorem test_input (s : State) : s.test.input = s.input := rfl
@[simp] theorem test_output (s : State) : s.test.output = s.output := rfl
@[simp] theorem test_steps (s : State) : s.test.steps = s.steps + 1 := rfl
@[simp] theorem count_tape (s : State) : s.count.tape = s.tape := rfl
@[simp] theorem count_input (s : State) : s.count.input = s.input := rfl
@[simp] theorem count_output (s : State) : s.count.output = s.output := rfl
@[simp] theorem count_steps (s : State) : s.count.steps = s.steps + 1 := rfl

end State

/-! ## Commands -/

/-- What a command does to a state. -/
inductive Acts (code : Value) (position : Option Int) (s : State) : Effect → Prop where
  /-- The head goes to the right. -/
  | right (h : Command.ofCode? code = some .right) :
    Acts code position s (.done { s with tape := s.tape.right })
  /-- The head goes to the left. -/
  | left {n : Nat} (h : Command.ofCode? code = some .left) (hn : s.tape.head = n + 1) :
    Acts code position s (.done { s with tape := s.tape.seek n })
  /-- The head cannot go to the left of the left edge. -/
  | edge (h : Command.ofCode? code = some .left) (hn : s.tape.head = 0) :
    Acts code position s (.failed (.fault .leftEdge) s)
  /-- The byte under the head goes up. -/
  | increment (h : Command.ofCode? code = some .increment) :
    Acts code position s (.done { s with tape := s.tape.increment })
  /-- The byte under the head goes down. -/
  | decrement (h : Command.ofCode? code = some .decrement) :
    Acts code position s (.done { s with tape := s.tape.decrement })
  /-- The byte under the head is put out. -/
  | output (h : Command.ofCode? code = some .output) :
    Acts code position s (.done { s with output := s.output.push s.tape.cell, tape := s.tape.reach })
  /-- The first byte of the input goes under the head. -/
  | input {b : UInt8} {rest : List UInt8} (h : Command.ofCode? code = some .input)
      (hs : s.input = b :: rest) :
    Acts code position s (.done { s with tape := s.tape.write b, input := rest })
  /-- There is no byte of input left. -/
  | exhausted (h : Command.ofCode? code = some .input) (hs : s.input = []) :
    Acts code position s (.failed (.fault .noInput) s)
  /-- There is no such command. -/
  | unknown (h : Command.ofCode? code = none) :
    Acts code position s (.failed (.undefined code (Fault.positionValue position)) s)

/-- A command is carried out as the table says. -/
theorem acts_execute (code : Value) (position : Option Int) (s : State) :
    Acts code position s (s.execute code position) := by
  unfold State.execute
  split
  · rename_i h; exact .right h
  · rename_i h
    cases hn : s.tape.head with
    | zero => simpa only [Tape.left?, hn] using .edge h hn
    | succ n => simpa only [Tape.left?, hn] using .left h hn
  · rename_i h; exact .increment h
  · rename_i h; exact .decrement h
  · rename_i h; exact .output h
  · rename_i h
    cases hs : s.input with
    | nil => exact .exhausted h hs
    | cons b rest => exact .input h hs
  · rename_i h; exact .unknown h

/-- The table gives one effect to each command and state. -/
theorem Acts.execute_eq {code : Value} {position : Option Int} {s : State} {e : Effect}
    (h : Acts code position s e) : s.execute code position = e := by
  cases h with
  | right h => simp only [State.execute, h]
  | left h hn => simp only [State.execute, h, Tape.left?, hn, Tape.seek]
  | edge h hn => simp only [State.execute, h, Tape.left?, hn]
  | increment h => simp only [State.execute, h]
  | decrement h => simp only [State.execute, h]
  | output h => simp only [State.execute, h]
  | input h hs => simp only [State.execute, h, hs]
  | exhausted h hs => simp only [State.execute, h, hs]
  | unknown h => simp only [State.execute, h]

/-! ### Refusal -/

/-- A command that is no number is refused for its type, and not as a command that there is not. -/
theorem Failure.ofCommand_ne_fault (code : Value) (f : Fault) : Failure.ofCommand code ≠ .fault f := by
  unfold Failure.ofCommand
  split
  · split <;> intro h <;> cases h
  · intro h
    cases h

/-- A command that there is not is a fault if it is a number and its position can be written. -/
theorem Failure.undefined_of_isWritable {code q : Value} (isNumber : code.integer?.isSome)
    (hasPlace : q.isWritable) :
    Failure.undefined code q = .fault (.undefined code q isNumber hasPlace) := by
  rw [Failure.undefined, dif_pos hasPlace, dif_pos isNumber]

/-- A command whose position cannot be written is refused for that, whatever it is. -/
theorem Failure.undefined_of_not_isWritable (code : Value) {q : Value} (h : ¬ q.isWritable) :
    Failure.undefined code q = .tooManyDigits :=
  dif_neg h

/-- The only fault about a command that there is not names it. -/
theorem Failure.undefined_eq_fault {code q : Value} {f : Fault} (h : Failure.undefined code q = .fault f) :
    ∃ isNumber hasPlace, f = .undefined code q isNumber hasPlace := by
  unfold Failure.undefined at h
  split at h
  · rename_i hasPlace
    split at h
    · rename_i isNumber
      cases h
      exact ⟨isNumber, hasPlace, rfl⟩
    · exact absurd h (Failure.ofCommand_ne_fault code f)
  · cases h

/-- A position that can be written is never told to be too long. -/
theorem Failure.undefined_ne_tooManyDigits (code : Value) {q : Value} (h : q.isWritable) :
    Failure.undefined code q ≠ .tooManyDigits := by
  intro he
  unfold Failure.undefined Failure.ofCommand at he
  rw [dif_pos h] at he
  split at he
  · cases he
  · split at he
    · split at he <;> cases he
    · cases he

/-- Why a command is refused in a state. -/
inductive Refused (code : Value) (position : Option Int) (s : State) : Failure → Prop where
  /-- The head cannot go to the left of the left edge. -/
  | edge (h : Command.ofCode? code = some .left) (hn : s.tape.head = 0) :
    Refused code position s (.fault .leftEdge)
  /-- There is no byte of input left. -/
  | exhausted (h : Command.ofCode? code = some .input) (hs : s.input = []) :
    Refused code position s (.fault .noInput)
  /-- There is no such command. -/
  | unknown (h : Command.ofCode? code = none) :
    Refused code position s (.undefined code (Fault.positionValue position))

section

variable {code : Value} {position : Option Int} {s t : State} {f g : Failure}

/-- **A command fails exactly if it is refused**, and then it has left the state as it was. -/
theorem execute_eq_failed_iff :
    s.execute code position = .failed f t ↔ t = s ∧ Refused code position s f := by
  constructor
  · intro h
    have hacts := acts_execute code position s
    rw [h] at hacts
    cases hacts with
    | edge hc hn => exact ⟨rfl, .edge hc hn⟩
    | exhausted hc hs => exact ⟨rfl, .exhausted hc hs⟩
    | unknown hc => exact ⟨rfl, .unknown hc⟩
  · rintro ⟨rfl, h⟩
    cases h with
    | edge hc hn => exact (Acts.edge hc hn).execute_eq
    | exhausted hc hs => exact (Acts.exhausted hc hs).execute_eq
    | unknown hc => exact (Acts.unknown hc).execute_eq

namespace Refused

/-- There is one reason to refuse a command. -/
theorem unique (h : Refused code position s f) (h' : Refused code position s g) : f = g := by
  have hf : s.execute code position = .failed f s := execute_eq_failed_iff.2 ⟨rfl, h⟩
  have hg : s.execute code position = .failed g s := execute_eq_failed_iff.2 ⟨rfl, h'⟩
  rw [hf] at hg
  injection hg

/-- To count a step changes nothing about it. -/
theorem count_iff : Refused code position s.count f ↔ Refused code position s f := by
  constructor
  · intro h
    cases h with
    | edge hc hn => exact .edge hc hn
    | exhausted hc hs => exact .exhausted hc hs
    | unknown hc => exact .unknown hc
  · intro h
    cases h with
    | edge hc hn => exact .edge (s := s.count) hc hn
    | exhausted hc hs => exact .exhausted (s := s.count) hc hs
    | unknown hc => exact .unknown hc

theorem leftEdge_iff : Refused code position s (.fault .leftEdge) ↔
    Command.ofCode? code = some .left ∧ s.tape.head = 0 := by
  constructor
  · intro h
    generalize hf : Failure.fault .leftEdge = f at h
    cases h with
    | edge hc hn => exact ⟨hc, hn⟩
    | exhausted => cases hf
    | unknown =>
      obtain ⟨_, _, hundefined⟩ := Failure.undefined_eq_fault hf.symm
      cases hundefined
  · rintro ⟨hc, hn⟩
    exact .edge hc hn

theorem noInput_iff : Refused code position s (.fault .noInput) ↔
    Command.ofCode? code = some .input ∧ s.input = [] := by
  constructor
  · intro h
    generalize hf : Failure.fault .noInput = f at h
    cases h with
    | edge => cases hf
    | exhausted hc hs => exact ⟨hc, hs⟩
    | unknown =>
      obtain ⟨_, _, hundefined⟩ := Failure.undefined_eq_fault hf.symm
      cases hundefined
  · rintro ⟨hc, hs⟩
    exact .exhausted hc hs

/-- A command that there is not is named by itself and its position. -/
theorem undefined_iff {c q : Value} {isNumber : c.integer?.isSome} {hasPlace : q.isWritable} :
    Refused code position s (.fault (.undefined c q isNumber hasPlace)) ↔
      Command.ofCode? code = none ∧ c = code ∧ q = Fault.positionValue position := by
  constructor
  · intro h
    generalize hf : Failure.fault (.undefined c q isNumber hasPlace) = f at h
    cases h with
    | edge => cases hf
    | exhausted => cases hf
    | unknown hc =>
      obtain ⟨_, _, hundefined⟩ := Failure.undefined_eq_fault hf.symm
      cases hundefined
      exact ⟨hc, rfl, rfl⟩
  · rintro ⟨hc, rfl, rfl⟩
    exact Failure.undefined_of_isWritable isNumber hasPlace ▸ .unknown hc

/-- A position that is too long to be written is told in place of a command that there is not. -/
theorem tooManyDigits_iff : Refused code position s .tooManyDigits ↔
    Command.ofCode? code = none ∧ ¬ (Fault.positionValue position).isWritable := by
  constructor
  · intro h
    generalize hf : Failure.tooManyDigits = f at h
    cases h with
    | edge => cases hf
    | exhausted => cases hf
    | unknown hc => exact ⟨hc, fun hplace => Failure.undefined_ne_tooManyDigits code hplace hf.symm⟩
  · rintro ⟨hc, hplace⟩
    exact Failure.undefined_of_not_isWritable code hplace ▸ .unknown hc

/-- An integer that is refused is refused with a fault, unless its position is too long to be told. -/
theorem fault_or_tooManyDigits {f : Failure} (h : Refused code position s f) (hcode : code.integer?.isSome) :
    (∃ g, f = .fault g) ∨ f = .tooManyDigits := by
  cases h with
  | edge => exact .inl ⟨_, rfl⟩
  | exhausted => exact .inl ⟨_, rfl⟩
  | unknown =>
    by_cases hplace : (Fault.positionValue position).isWritable = true
    · exact .inl ⟨_, Failure.undefined_of_isWritable hcode hplace⟩
    · exact .inr (Failure.undefined_of_not_isWritable code hplace)

end Refused

end

/-- A command that there is not is named by itself and its position. -/
theorem State.execute_undefined {s t : State} {code c q : Value} {position : Option Int}
    {isNumber : c.integer?.isSome} {hasPlace : q.isWritable}
    (h : s.execute code position = .failed (.fault (.undefined c q isNumber hasPlace)) t) :
    c = code ∧ q = Fault.positionValue position :=
  (Refused.undefined_iff.1 (execute_eq_failed_iff.1 h).2).2

namespace Machine

/-! ## One move -/

/-- A cursor at its end is dropped. -/
theorem move_drop (before : List Node) (below : List Cursor) (s : State) :
    (Machine.mk (⟨before, []⟩ :: below) s).move = .going ⟨below, s⟩ := rfl

/-- A loop on a zero cell is passed. -/
theorem move_skip {before body after : List Node} {position : Option Int} {below : List Cursor}
    {s : State} (h : s.tape.cell = 0) :
    (Machine.mk (⟨before, .loop body position :: after⟩ :: below) s).move =
      .going ⟨⟨.loop body position :: before, after⟩ :: below, s.test⟩ := by
  have hcell : s.tape.reach.cell = 0 := by rw [Tape.reach_cell, h]
  exact if_pos hcell

/-- A loop on any other cell is entered, and the cursor below stays at the loop. -/
theorem move_enter {before body after : List Node} {position : Option Int} {below : List Cursor}
    {s : State} (h : s.tape.cell ≠ 0) :
    (Machine.mk (⟨before, .loop body position :: after⟩ :: below) s).move =
      .going ⟨Cursor.start body :: ⟨before, .loop body position :: after⟩ :: below, s.test⟩ := by
  have hcell : s.tape.reach.cell ≠ 0 := by rw [Tape.reach_cell]; exact h
  exact if_neg hcell

/-- A command that succeeds is passed. -/
theorem move_done {before after : List Node} {code : Value} {position : Option Int}
    {below : List Cursor} {s t : State} (h : s.count.execute code position = .done t) :
    (Machine.mk (⟨before, .command code position :: after⟩ :: below) s).move =
      .going ⟨⟨.command code position :: before, after⟩ :: below, t⟩ := by
  simp only [move, h]

/-- A command that fails ends the run. -/
theorem move_fail {before after : List Node} {code : Value} {position : Option Int}
    {below : List Cursor} {s t : State} {f : Failure}
    (h : s.count.execute code position = .failed f t) :
    (Machine.mk (⟨before, .command code position :: after⟩ :: below) s).move = .failed f t := by
  simp only [move, h]

/-- The next move is about the first node to come. -/
@[simp] theorem node?_cons (before after : List Node) (n : Node) (below : List Cursor) (s : State) :
    (Machine.mk (⟨before, n :: after⟩ :: below) s).node? = some n := rfl

/-- What a move can be: one case for each way a machine can go on. -/
inductive Moves : Machine → Progress → Prop where
  /-- There is no cursor any more. -/
  | finish {s : State} : Moves ⟨[], s⟩ (.finished s)
  /-- A cursor at its end is dropped. -/
  | drop {before : List Node} {below : List Cursor} {s : State} :
    Moves ⟨⟨before, []⟩ :: below, s⟩ (.going ⟨below, s⟩)
  /-- A loop on a zero cell is passed. -/
  | skip {before body after : List Node} {position : Option Int} {below : List Cursor} {s : State}
      (hcell : s.tape.cell = 0) :
    Moves ⟨⟨before, .loop body position :: after⟩ :: below, s⟩
      (.going ⟨⟨.loop body position :: before, after⟩ :: below, s.test⟩)
  /-- A loop on any other cell is entered. -/
  | enter {before body after : List Node} {position : Option Int} {below : List Cursor} {s : State}
      (hcell : s.tape.cell ≠ 0) :
    Moves ⟨⟨before, .loop body position :: after⟩ :: below, s⟩
      (.going ⟨Cursor.start body :: ⟨before, .loop body position :: after⟩ :: below, s.test⟩)
  /-- A command that succeeds is passed. -/
  | done {before after : List Node} {code : Value} {position : Option Int} {below : List Cursor}
      {s t : State} (he : s.count.execute code position = .done t) :
    Moves ⟨⟨before, .command code position :: after⟩ :: below, s⟩
      (.going ⟨⟨.command code position :: before, after⟩ :: below, t⟩)
  /-- A command that fails ends the run. -/
  | fail {before after : List Node} {code : Value} {position : Option Int} {below : List Cursor}
      {s t : State} {f : Failure} (he : s.count.execute code position = .failed f t) :
    Moves ⟨⟨before, .command code position :: after⟩ :: below, s⟩ (.failed f t)

/-- A move is one of these. -/
theorem moves_move (m : Machine) : m.Moves m.move := by
  obtain ⟨cursors, s⟩ := m
  match cursors with
  | [] => exact .finish
  | ⟨before, []⟩ :: below => exact .drop
  | ⟨before, .command code position :: after⟩ :: below =>
    cases he : s.count.execute code position with
    | done t =>
      rw [move_done he]
      exact .done he
    | failed f t =>
      rw [move_fail he]
      exact .fail he
  | ⟨before, .loop body position :: after⟩ :: below =>
    by_cases hcell : s.tape.cell = 0
    · rw [move_skip hcell]
      exact .skip hcell
    · rw [move_enter hcell]
      exact .enter hcell

/-- **A move fails** exactly at a command that is refused, and it leaves all but the count of steps as it
    was. -/
theorem move_eq_failed_iff {m : Machine} {f : Failure} {t : State} : m.move = .failed f t ↔
    ∃ code position, m.node? = some (.command code position) ∧ t = m.state.count ∧
      Refused code position m.state f := by
  constructor
  · intro h
    have hmoves := m.moves_move
    rw [h] at hmoves
    cases hmoves with
    | @fail _ _ code position _ s _ _ he =>
      obtain ⟨rfl, hrefused⟩ := execute_eq_failed_iff.1 he
      exact ⟨code, position, rfl, rfl, Refused.count_iff.1 hrefused⟩
  · rintro ⟨code, position, hnode, rfl, hrefused⟩
    obtain ⟨cursors, s⟩ := m
    match cursors with
    | [] => cases hnode
    | ⟨before, []⟩ :: below => cases hnode
    | ⟨before, node :: after⟩ :: below =>
      obtain rfl : node = .command code position := Option.some.inj hnode
      exact move_fail (execute_eq_failed_iff.2 ⟨rfl, Refused.count_iff.2 hrefused⟩)

/-- A move at a loop does not fail. -/
theorem move_of_loop {m : Machine} {body : List Node} {position : Option Int}
    (h : m.node? = some (.loop body position)) : ∃ m', m.move = .going m' := by
  obtain ⟨cursors, s⟩ := m
  match cursors with
  | [] => cases h
  | ⟨before, []⟩ :: below => cases h
  | ⟨before, node :: after⟩ :: below =>
    obtain rfl : node = .loop body position := Option.some.inj h
    by_cases hcell : s.tape.cell = 0
    · exact ⟨_, move_skip hcell⟩
    · exact ⟨_, move_enter hcell⟩

end Machine

/-! ## Runs from moves -/

namespace Progress

/-- The state that a move leads to. -/
def state : Progress → State
  | going m => m.state
  | finished s => s
  | failed _ s => s

/-- How a run ends that has no budget after this. -/
def ending : Progress → Ending
  | going m => .unfinished m
  | finished s => .finished s
  | failed f s => .failed f s

@[simp] theorem ending_state (p : Progress) : p.ending.state = p.state := by cases p <;> rfl

/-- After a move a machine is at work, or at an end. -/
theorem going_or_ended (p : Progress) : (∃ m, p = .going m) ∨ ∀ m, p ≠ .going m := by
  cases p with
  | going m => exact .inl ⟨m, rfl⟩
  | finished s => exact .inr fun m h => by cases h
  | failed f s => exact .inr fun m h => by cases h

end Progress

/-- A run has its budget used up, or it is at an end. -/
theorem Ending.unfinished_or_ended (e : Ending) :
    (∃ m, e = .unfinished m) ∨ ∀ m, e ≠ .unfinished m := by
  cases e with
  | unfinished m => exact .inl ⟨m, rfl⟩
  | finished s => exact .inr fun m h => by cases h
  | failed f s => exact .inr fun m h => by cases h

namespace Machine

theorem run_of_going {m m' : Machine} (h : m.move = .going m') (n : Nat) :
    m.run (n + 1) = m'.run n := by
  simp only [run, h]

theorem run_of_finished {m : Machine} {s : State} (h : m.move = .finished s) (n : Nat) :
    m.run (n + 1) = .finished s := by
  simp only [run, h]

theorem run_of_failed {m : Machine} {f : Failure} {s : State} (h : m.move = .failed f s) (n : Nat) :
    m.run (n + 1) = .failed f s := by
  simp only [run, h]

theorem run_one (m : Machine) : m.run 1 = m.move.ending := by
  cases h : m.move with
  | going m' => exact run_of_going h 0
  | finished s => exact run_of_finished h 0
  | failed f s => exact run_of_failed h 0

/-- A move that does not go on is the last one. -/
theorem run_of_ended {m : Machine} (h : ∀ m', m.move ≠ .going m') (n : Nat) :
    m.run (n + 1) = m.move.ending := by
  cases hmove : m.move with
  | going m' => exact absurd hmove (h m')
  | finished s => exact run_of_finished hmove n
  | failed f s => exact run_of_failed hmove n

/-- A run that is not over has made its first move. -/
theorem exists_going_of_run {n : Nat} {m m' : Machine} (h : m.run (n + 1) = .unfinished m') :
    ∃ next, m.move = .going next ∧ next.run n = .unfinished m' := by
  cases hmove : m.move with
  | going next => exact ⟨next, rfl, by rwa [run_of_going hmove] at h⟩
  | finished s =>
    rw [run_of_finished hmove] at h
    cases h
  | failed f s =>
    rw [run_of_failed hmove] at h
    cases h

/-- A run goes on from where its first moves lead. -/
theorem run_append {a : Nat} {m m' : Machine} (h : m.run a = .unfinished m') (b : Nat) :
    m.run (a + b) = m'.run b := by
  induction a generalizing m with
  | zero =>
    have hm : m = m' := by injection h
    rw [hm, Nat.zero_add]
  | succ a ih =>
    obtain ⟨next, hmove, hnext⟩ := exists_going_of_run h
    rw [show a + 1 + b = (a + b) + 1 from by omega, run_of_going hmove, ih hnext]

/-- **An invariant** of moves is one of runs. -/
theorem run_keeps {P : Machine → Prop} (hmove : ∀ m m', P m → m.move = .going m' → P m')
    {m m' : Machine} (h : P m) {n : Nat} (hrun : m.run n = .unfinished m') : P m' := by
  induction n generalizing m with
  | zero =>
    have hm : m = m' := by injection hrun
    exact hm ▸ h
  | succ n ih =>
    obtain ⟨next, hgoing, hnext⟩ := exists_going_of_run hrun
    exact ih (hmove m next h hgoing) hnext

/-! ### What is to come -/

/-- What is so of a sequence of nodes is so of its rest and of the bodies in it. -/
structure Hereditary (P : List Node → Prop) : Prop where
  /-- It is so of the rest. -/
  tail {n : Node} {rest : List Node} (h : P (n :: rest)) : P rest
  /-- It is so of a body. -/
  body {body rest : List Node} {position : Option Int} (h : P (.loop body position :: rest)) : P body

/-- It is so of all sequences that a machine has yet to go through. -/
def ToCome (P : List Node → Prop) (m : Machine) : Prop := ∀ c ∈ m.cursors, P c.after

namespace ToCome

variable {P : List Node → Prop} {m m' : Machine}

theorem start {p : Program} (h : P p) (s : State) : (Machine.start p s).ToCome P :=
  List.forall_mem_singleton.2 h

/-- It is so of the sequence that a machine is in. -/
theorem head {before after : List Node} {below : List Cursor} {s : State}
    (h : ToCome P ⟨⟨before, after⟩ :: below, s⟩) : P after :=
  h _ List.mem_cons_self

/-- It is so of a sequence that begins with the node that a machine is at. -/
theorem node {n : Node} (h : m.ToCome P) (hnode : m.node? = some n) : ∃ rest, P (n :: rest) := by
  obtain ⟨cursors, s⟩ := m
  match cursors with
  | [] => cases hnode
  | ⟨_, []⟩ :: below => cases hnode
  | ⟨_, first :: after⟩ :: below =>
    cases hnode
    exact ⟨after, h.head⟩

/-- **One move** leads to nothing of which it is not so. -/
theorem move (hP : Hereditary P) (h : m.ToCome P) (hmove : m.move = .going m') : m'.ToCome P := by
  have hmoves := m.moves_move
  rw [hmove] at hmoves
  -- past a node, the rest is to come instead
  have hpast : ∀ {before before' after : List Node} {n : Node} {below : List Cursor} {s t : State},
      ToCome P ⟨⟨before, n :: after⟩ :: below, s⟩ → ToCome P ⟨⟨before', after⟩ :: below, t⟩ :=
    fun h => List.forall_mem_cons.2 ⟨hP.tail h.head, (List.forall_mem_cons.1 h).2⟩
  cases hmoves with
  | drop => exact (List.forall_mem_cons.1 h).2
  | skip => exact hpast h
  | enter => exact List.forall_mem_cons.2 ⟨hP.body h.head, h⟩
  | done => exact hpast h

/-- **A run** comes to nothing of which it is not so. -/
theorem run (hP : Hereditary P) (h : m.ToCome P) {n : Nat} (hrun : m.run n = .unfinished m') :
    m'.ToCome P :=
  run_keeps (fun _ _ h hmove => h.move hP hmove) h hrun

end ToCome

end Machine

namespace Program

/-- All positions in a sequence of nodes can be written. -/
def Writable (p : List Node) : Prop := ∀ x ∈ positions p, (Fault.positionValue x).isWritable = true

theorem Writable.hereditary : Machine.Hereditary Writable where
  tail h := fun x hx => h x (List.mem_append_right _ hx)
  body h := fun x hx => h x (List.mem_append_left _ (List.mem_cons_of_mem _ hx))

/-- The first node of a sequence stands where the sequence stands. -/
theorem Writable.first {n : Node} {rest : List Node} (h : Writable (n :: rest)) :
    (Fault.positionValue n.position).isWritable = true := by
  cases n <;> exact h _ (List.mem_append_left _ List.mem_cons_self)

/-- A position of too many digits cannot be written. -/
theorem not_isWritable_of_le {n : Nat} (h : Value.tooLong ≤ n) :
    ¬ (Fault.positionValue (some (n : Int))).isWritable = true :=
  fun hplace => Nat.not_lt.2 h (Value.isWritable_int_iff.1 hplace)

end Program

/-! ## Runs without a budget -/

/-- The end of a run whose outcome is an effect. -/
def Effect.ending : Effect → Ending
  | done s => .finished s
  | failed f s => .failed f s

theorem Effect.ending_ne_unfinished (e : Effect) (m : Machine) : e.ending ≠ .unfinished m := by
  cases e <;> intro h <;> cases h

theorem Effect.ending_injective {e e' : Effect} (h : e.ending = e'.ending) : e = e' := by
  cases e <;> cases e' <;> cases h <;> rfl

namespace Machine

/-- The run of a machine comes to an end, and `e` is the outcome. -/
def EndsIn (m : Machine) (e : Effect) : Prop := ∃ n, m.run n = e.ending

/-- The run of a machine never comes to an end. -/
def Endless (m : Machine) : Prop := ∀ n, ∃ m', m.run n = .unfinished m'

/-- A run has one outcome. -/
theorem EndsIn.unique {m : Machine} {e e' : Effect} (h : m.EndsIn e) (h' : m.EndsIn e') : e = e' := by
  obtain ⟨n, hn⟩ := h
  obtain ⟨n', hn'⟩ := h'
  -- with both budgets together either run is at its end
  have hlong : m.run (n + n') = e.ending := by
    rw [run_add (fun m' => hn ▸ e.ending_ne_unfinished m') n', hn]
  have hlong' : m.run (n' + n) = e'.ending := by
    rw [run_add (fun m' => hn' ▸ e'.ending_ne_unfinished m') n, hn']
  rw [Nat.add_comm] at hlong'
  exact Effect.ending_injective (hlong ▸ hlong')

/-- What a machine ends in does not change on the way there. -/
theorem EndsIn.of_run {m m' : Machine} {e : Effect} {n : Nat} (h : m'.EndsIn e)
    (hn : m.run n = .unfinished m') : m.EndsIn e := by
  obtain ⟨k, hk⟩ := h
  exact ⟨n + k, by rw [run_append hn, hk]⟩

theorem EndsIn.of_going {m m' : Machine} {e : Effect} (h : m'.EndsIn e) (hm : m.move = .going m') :
    m.EndsIn e :=
  h.of_run (n := 1) (run_of_going hm 0)

/-- Every machine comes to an end or runs for ever. -/
theorem endless_iff {m : Machine} : m.Endless ↔ ∀ e, ¬ m.EndsIn e := by
  constructor
  · rintro h e ⟨n, hn⟩
    obtain ⟨m', hm'⟩ := h n
    exact e.ending_ne_unfinished m' (hn ▸ hm')
  · intro h n
    cases hn : m.run n with
    | finished s => exact absurd ⟨n, hn⟩ (h (.done s))
    | failed f s => exact absurd ⟨n, hn⟩ (h (.failed f s))
    | unfinished m' => exact ⟨m', rfl⟩

/-! ## Visits -/

/-- The node that a machine is about to make a step with, and the state before the step; nothing if its
    next move is no step. -/
def visit? (m : Machine) : Option (Node × State) := m.node?.map fun node => (node, m.state)

/-- The steps among the first `n` moves of a machine, in order. -/
def visits (n : Nat) (m : Machine) : List (Node × State) :=
  (m.runNoting (fun notes m => notes ++ m.visit?.toList) n []).1

/-- Step `k` of the run, counted from zero, is with a node in a state. -/
def Visits (m : Machine) (k : Nat) (visit : Node × State) : Prop := ∃ n, (m.visits n)[k]? = some visit

/-- Notes that are only added to begin with the notes there are. -/
theorem runNoting_append {α : Type} (note : Machine → List α) (n : Nat) (notes : List α) (m : Machine) :
    (m.runNoting (fun notes m => notes ++ note m) n notes).1 =
      notes ++ (m.runNoting (fun notes m => notes ++ note m) n []).1 := by
  induction n generalizing notes m with
  | zero => exact (List.append_nil _).symm
  | succ n ih =>
    simp only [runNoting]
    cases m.move with
    | going m' =>
      show (runNoting _ n (notes ++ note m) m').1 = notes ++ (runNoting _ n ([] ++ note m) m').1
      rw [ih, ih ([] ++ note m), List.nil_append, List.append_assoc]
    | finished s => rfl
    | failed f s => rfl

/-- Before a move that goes on the first notes are taken. -/
theorem runNoting_of_going {α : Type} (note : Machine → List α) {m m' : Machine}
    (h : m.move = .going m') (n : Nat) :
    (m.runNoting (fun notes m => notes ++ note m) (n + 1) []).1 =
      note m ++ (m'.runNoting (fun notes m => notes ++ note m) n []).1 := by
  simp only [runNoting, h, List.nil_append]
  exact runNoting_append note n (note m) m'

/-- Before a move that does not go on the only notes are taken. -/
theorem runNoting_of_ended {α : Type} (note : Machine → List α) {m : Machine}
    (h : ∀ m', m.move ≠ .going m') (n : Nat) :
    (m.runNoting (fun notes m => notes ++ note m) (n + 1) []).1 = note m := by
  cases hmove : m.move with
  | going m' => exact absurd hmove (h m')
  | finished s => simp only [runNoting, hmove, List.nil_append]
  | failed f s => simp only [runNoting, hmove, List.nil_append]

/-- Notes that are kept in an array are the same notes. -/
theorem runNoting_toList {α : Type} (note : Machine → List α) (n : Nat) (notes : Array α) (m : Machine) :
    (m.runNoting (fun (notes : Array α) m => notes ++ note m) n notes).1.toList =
      notes.toList ++ (m.runNoting (fun notes m => notes ++ note m) n []).1 := by
  induction n generalizing notes m with
  | zero => exact (List.append_nil _).symm
  | succ n ih =>
    have happend : (notes ++ note m).toList = notes.toList ++ note m := Array.toList_appendList
    cases hmove : m.move with
    | going m' =>
      rw [runNoting_of_going note hmove, ← List.append_assoc, ← happend, ← ih]
      simp only [runNoting, hmove]
    | finished s =>
      simp only [runNoting, hmove]
      exact happend
    | failed f s =>
      simp only [runNoting, hmove]
      exact happend

theorem visits_of_going {m m' : Machine} (h : m.move = .going m') (n : Nat) :
    m.visits (n + 1) = m.visit?.toList ++ m'.visits n :=
  runNoting_of_going (fun m => m.visit?.toList) h n

theorem visits_of_finished {m : Machine} {s : State} (h : m.move = .finished s) (n : Nat) :
    m.visits (n + 1) = m.visit?.toList :=
  runNoting_of_ended (fun m => m.visit?.toList) (fun _ hm => nomatch h.symm.trans hm) n

theorem visits_of_failed {m : Machine} {f : Failure} {s : State} (h : m.move = .failed f s) (n : Nat) :
    m.visits (n + 1) = m.visit?.toList :=
  runNoting_of_ended (fun m => m.visit?.toList) (fun _ hm => nomatch h.symm.trans hm) n

end Machine

/-! ## Steps -/

/-- To carry a command out is no step of its own. -/
theorem State.execute_steps (code : Value) (position : Option Int) (s : State) :
    (s.execute code position).ending.state.steps = s.steps := by
  have hacts := acts_execute code position s
  generalize s.execute code position = e at hacts ⊢
  cases hacts <;> rfl

namespace Machine

/-- The machine, if it is about to make a step. -/
def stop? (m : Machine) : Option Machine := m.node?.map fun _ => m

/-- The machines among the first `n` moves that are about to make a step, in order. -/
def stops (n : Nat) (m : Machine) : List Machine :=
  (m.runNoting (fun stops m => stops ++ m.stop?.toList) n []).1

theorem stops_of_going {m m' : Machine} (h : m.move = .going m') (n : Nat) :
    m.stops (n + 1) = m.stop?.toList ++ m'.stops n :=
  runNoting_of_going (fun m => m.stop?.toList) h n

theorem stops_of_ended {m : Machine} (h : ∀ m', m.move ≠ .going m') (n : Nat) :
    m.stops (n + 1) = m.stop?.toList :=
  runNoting_of_ended (fun m => m.stop?.toList) h n

/-- Whoever notes nothing where there is no node to come has notes of the steps only. -/
theorem filterMap_stop {α : Type} {note : Machine → Option α}
    (hnote : ∀ m, m.node? = none → note m = none) (m : Machine) :
    m.stop?.toList.filterMap note = (note m).toList := by
  cases hnode : m.node? with
  | none =>
    rw [stop?, hnode, hnote m hnode]
    rfl
  | some node =>
    rw [stop?, hnode]
    cases hm : note m <;> simp [hm]

theorem filterMap_stops_of_going {α : Type} {note : Machine → Option α}
    (hnote : ∀ m, m.node? = none → note m = none) {m m' : Machine} (h : m.move = .going m') (n : Nat) :
    (m.stops (n + 1)).filterMap note = (note m).toList ++ (m'.stops n).filterMap note := by
  rw [stops_of_going h, List.filterMap_append, filterMap_stop hnote]

theorem filterMap_stops_of_ended {α : Type} {note : Machine → Option α}
    (hnote : ∀ m, m.node? = none → note m = none) {m : Machine} (h : ∀ m', m.move ≠ .going m')
    (n : Nat) : (m.stops (n + 1)).filterMap note = (note m).toList := by
  rw [stops_of_ended h, filterMap_stop hnote]

/-- **One move** makes one step if it is about a node, and none otherwise. -/
theorem steps_move (m : Machine) : m.move.state.steps = m.state.steps + m.stop?.toList.length := by
  have hmoves := m.moves_move
  generalize m.move = next at hmoves ⊢
  cases hmoves with
  | finish => rfl
  | drop => rfl
  | skip => rfl
  | enter => rfl
  | @done _ _ code position _ s t he =>
    have hsteps := s.count.execute_steps code position
    rw [he] at hsteps
    exact hsteps
  | @fail _ _ code position _ s t f he =>
    have hsteps := s.count.execute_steps code position
    rw [he] at hsteps
    exact hsteps

/-- **A run** makes as many steps as it counts. -/
theorem run_steps (m : Machine) (n : Nat) :
    (m.run n).state.steps = m.state.steps + (m.stops n).length := by
  induction n generalizing m with
  | zero => rfl
  | succ n ih =>
    have hsteps := m.steps_move
    obtain ⟨m', hmove⟩ | hended := m.move.going_or_ended
    · rw [hmove] at hsteps
      rw [run_of_going hmove, stops_of_going hmove, List.length_append, ih, ← Nat.add_assoc, ← hsteps]
      rfl
    · rw [run_of_ended hended, stops_of_ended hended, Progress.ending_state]
      exact hsteps

theorem stops_one (m : Machine) : m.stops 1 = m.stop?.toList := by
  obtain ⟨m', hmove⟩ | hended := m.move.going_or_ended
  · rw [stops_of_going hmove 0]
    exact List.append_nil _
  · exact stops_of_ended hended 0

/-- The steps of a run that is not over are followed by those of the machine that it has led to. -/
theorem stops_append {a : Nat} {m m' : Machine} (h : m.run a = .unfinished m') (b : Nat) :
    m.stops (a + b) = m.stops a ++ m'.stops b := by
  induction a generalizing m with
  | zero =>
    have hm : m = m' := by injection h
    rw [hm, Nat.zero_add]
    rfl
  | succ a ih =>
    obtain ⟨next, hmove, hnext⟩ := exists_going_of_run h
    rw [show a + 1 + b = (a + b) + 1 from by omega, stops_of_going hmove, stops_of_going hmove, ih hnext,
      List.append_assoc]

/-- A run that has ended makes no more steps. -/
theorem stops_add_of_ended {n : Nat} {m : Machine} (h : ∀ m', m.run n ≠ .unfinished m') (more : Nat) :
    m.stops (n + more) = m.stops n := by
  induction n generalizing m with
  | zero => exact absurd rfl (h m)
  | succ n ih =>
    rw [show n + 1 + more = (n + more) + 1 from by omega]
    obtain ⟨m', hmove⟩ | hended := m.move.going_or_ended
    · rw [run_of_going hmove] at h
      rw [stops_of_going hmove, stops_of_going hmove, ih h]
    · rw [stops_of_ended hended, stops_of_ended hended]

theorem stops_prefix (m : Machine) (n more : Nat) : m.stops n <+: m.stops (n + more) := by
  obtain ⟨m', hrun⟩ | hended := (m.run n).unfinished_or_ended
  · rw [stops_append hrun]
    exact List.prefix_append _ _
  · exact ⟨[], by rw [List.append_nil, stops_add_of_ended hended]⟩

/-- Whoever is about to make a step is the machine itself. -/
theorem eq_of_stop {m m' : Machine} (h : m.stop? = some m') : m' = m := by
  obtain ⟨node, -, hm⟩ := Option.map_eq_some_iff.1 h
  exact hm.symm

theorem stop?_of_node {m : Machine} {node : Node} (h : m.node? = some node) : m.stop? = some m := by
  rw [stop?, h]
  rfl

/-- A machine with a node to come makes the step that comes after those before it. -/
theorem stops_succ {n : Nat} {m m' : Machine} (h : m.run n = .unfinished m')
    (hstop : m'.stop? = some m') : m.stops (n + 1) = m.stops n ++ [m'] := by
  rw [stops_append h, stops_one, hstop]
  rfl

theorem mem_stops {k n : Nat} {m m' : Machine} (hk : k < n) (hrun : m.run k = .unfinished m')
    (hstop : m'.stop? = some m') : m' ∈ m.stops n := by
  obtain ⟨more, rfl⟩ := Nat.exists_eq_add_of_le (Nat.succ_le_of_lt hk)
  have hsucc : m' ∈ m.stops (k + 1) := by
    rw [stops_succ hrun hstop]
    exact List.mem_append_right _ List.mem_cons_self
  exact (m.stops_prefix (k + 1) more).subset hsucc

/-- Step `k` of the run of a machine, counted from zero, is the next move of `m'`. -/
def MakesStep (m : Machine) (k : Nat) (m' : Machine) : Prop := ∃ n, (m.stops n)[k]? = some m'

/-- **Steps have the numbers that they are counted by**: the machines that make them are those that the
    run passes with a node to come. -/
theorem makesStep_iff {m m' : Machine} {k : Nat} : m.MakesStep k m' ↔
    ∃ n, m.run n = .unfinished m' ∧ m'.stop? = some m' ∧ m'.state.steps = m.state.steps + k := by
  constructor
  · rintro ⟨n, hn⟩
    induction n with
    | zero => cases hn
    | succ n ih =>
      obtain ⟨last, hrun⟩ | hended := (m.run n).unfinished_or_ended
      · have hcount : last.state.steps = m.state.steps + (m.stops n).length := by
          rw [← m.run_steps n, hrun]
          rfl
        rw [stops_append hrun, stops_one] at hn
        cases hstop : last.stop? with
        | none =>
          rw [hstop] at hn
          exact ih (by simpa using hn)
        | some stop =>
          obtain rfl := eq_of_stop hstop
          rw [hstop] at hn
          -- the step is among the earlier ones, or it is the last
          rcases Nat.lt_trichotomy k (m.stops n).length with hlt | rfl | hgt
          · rw [List.getElem?_append_left hlt] at hn
            exact ih hn
          · obtain rfl : stop = m' := by simpa using hn
            exact ⟨n, hrun, hstop, hcount⟩
          · rw [List.getElem?_eq_none (by simp; omega)] at hn
            cases hn
      · rw [stops_add_of_ended hended] at hn
        exact ih hn
  · rintro ⟨n, hrun, hstop, hsteps⟩
    have hcount : m'.state.steps = m.state.steps + (m.stops n).length := by
      rw [← m.run_steps n, hrun]
      rfl
    have hk : k = (m.stops n).length := by omega
    refine ⟨n + 1, ?_⟩
    rw [stops_succ hrun hstop, hk]
    exact List.getElem?_concat_length

/-- A machine with a node to come makes some step of the run that it is passed in. -/
theorem exists_makesStep {n : Nat} {m m' : Machine} (h : m.run n = .unfinished m')
    (hstop : m'.stop? = some m') : ∃ k, m.MakesStep k m' := by
  obtain ⟨k, hk⟩ := List.getElem?_of_mem (mem_stops (Nat.lt_succ_self n) h hstop)
  exact ⟨k, n + 1, hk⟩

/-- The steps of a run that ends are all made before its end. -/
theorem makesStep_iff_of_ended {m m' : Machine} {k n : Nat} (h : ∀ m', m.run n ≠ .unfinished m') :
    m.MakesStep k m' ↔ (m.stops n)[k]? = some m' := by
  constructor
  · rintro ⟨l, hl⟩
    obtain ⟨later, hlater⟩ := m.stops_prefix l n
    rw [Nat.add_comm, stops_add_of_ended h] at hlater
    obtain ⟨hk, -⟩ := List.getElem?_eq_some_iff.1 hl
    rw [← hlater, List.getElem?_append_left hk, hl]
  · exact fun hk => ⟨n, hk⟩

/-- A run that fails fails at its last move. -/
theorem exists_last_move {n : Nat} {m : Machine} {f : Failure} {t : State} (h : m.run n = .failed f t) :
    ∃ k m', k < n ∧ m.run k = .unfinished m' ∧ m'.move = .failed f t := by
  induction n generalizing m with
  | zero => cases h
  | succ n ih =>
    cases hmove : m.move with
    | going next =>
      rw [run_of_going hmove] at h
      obtain ⟨k, m', hk, hrun, hlast⟩ := ih h
      exact ⟨k + 1, m', by omega, by rw [run_of_going hmove, hrun], hlast⟩
    | finished s =>
      rw [run_of_finished hmove] at h
      cases h
    | failed g s =>
      rw [run_of_failed hmove] at h
      cases h
      exact ⟨0, m, by omega, rfl, hmove⟩

end Machine

/-! ## Lockstep

Three relations say what two runs have in common: `R` relates machines at work, `S` states at an end,
and `F` failures. -/

section Lockstep

variable {R : Machine → Machine → Prop} {F : Failure → Failure → Prop} {S : State → State → Prop}

/-- Two commands end alike. -/
inductive Effect.Alike (F : Failure → Failure → Prop) (S : State → State → Prop) :
    Effect → Effect → Prop where
  /-- Both are done. -/
  | done {s t : State} (h : S s t) : Alike F S (.done s) (.done t)
  /-- Both cannot be done. -/
  | failed {f g : Failure} {s t : State} (hf : F f g) (h : S s t) : Alike F S (.failed f s) (.failed g t)

/-- Two moves lead alike. -/
inductive Progress.Alike (R : Machine → Machine → Prop) (F : Failure → Failure → Prop)
    (S : State → State → Prop) : Progress → Progress → Prop where
  /-- The work of both goes on. -/
  | going {m m' : Machine} (h : R m m') : Alike R F S (.going m) (.going m')
  /-- Both programs have come to their ends. -/
  | finished {s t : State} (h : S s t) : Alike R F S (.finished s) (.finished t)
  /-- Both fail. -/
  | failed {f g : Failure} {s t : State} (hf : F f g) (h : S s t) :
    Alike R F S (.failed f s) (.failed g t)

/-- Two runs are alike after the same number of moves. -/
inductive Ending.Alike (R : Machine → Machine → Prop) (F : Failure → Failure → Prop)
    (S : State → State → Prop) : Ending → Ending → Prop where
  /-- Both are at work. -/
  | unfinished {m m' : Machine} (h : R m m') : Alike R F S (.unfinished m) (.unfinished m')
  /-- Both have come to the ends of their programs. -/
  | finished {s t : State} (h : S s t) : Alike R F S (.finished s) (.finished t)
  /-- Both have failed. -/
  | failed {f g : Failure} {s t : State} (hf : F f g) (h : S s t) :
    Alike R F S (.failed f s) (.failed g t)

namespace Machine

/-- **Lockstep on a condition.**  A relation that a move of some machines keeps is kept by any number of
    moves that such machines make. -/
theorem run_alike_while {P : Machine → Prop}
    (hmove : ∀ m m', P m → R m m' → Progress.Alike R F S m.move m'.move) {m m' : Machine} (h : R m m')
    {n : Nat} (hP : ∀ k last, k < n → m.run k = .unfinished last → P last) :
    Ending.Alike R F S (m.run n) (m'.run n) := by
  induction n generalizing m m' with
  | zero => exact .unfinished h
  | succ n ih =>
    have hnext := hmove m m' (hP 0 m (Nat.succ_pos n) rfl) h
    generalize hp : m.move = p at hnext
    generalize hq : m'.move = q at hnext
    cases hnext with
    | going h =>
      rw [run_of_going hp, run_of_going hq]
      refine ih h fun k last hk hrun => hP (k + 1) last (Nat.succ_lt_succ hk) ?_
      rw [run_of_going hp, hrun]
    | finished h =>
      rw [run_of_finished hp, run_of_finished hq]
      exact .finished h
    | failed hf h =>
      rw [run_of_failed hp, run_of_failed hq]
      exact .failed hf h

/-- **Lockstep.**  A relation that a move keeps is kept by any number of moves. -/
theorem run_alike (hmove : ∀ m m', R m m' → Progress.Alike R F S m.move m'.move) {m m' : Machine}
    (h : R m m') (n : Nat) : Ending.Alike R F S (m.run n) (m'.run n) :=
  run_alike_while (P := fun _ => True) (fun m m' _ => hmove m m') h fun _ _ _ _ => trivial

end Machine

end Lockstep

end TapeLang
