/-
  Flat — a machine that has no tree.

  1. **Specification** — a `Flat` machine works on the source itself.  All that it has for control is an
     offset.  A command is carried out and the offset goes on by one; an opening bracket counts as a
     step, and on a zero cell the offset jumps behind its partner; a closing bracket counts as none, and
     the offset jumps back to its partner.  Partners are looked up by heights (`Bracket.Paired`), without
     the reader.

  2. **The crux (`Flat.Place`)** — where a stack of cursors is in the source.  What is left of the
     innermost sequence stands from the offset on up to a closing bracket, and the cursors below are at
     the place of its partner: a cursor that stays at its loop is the memory of where to jump back.

  3. **Every move has its move** — dropping a cursor is the jump back, passing a loop the jump forward,
     entering one no jump at all.  So the two machines make the same steps in the same states, one by one
     (`Flat.Sim.visits`), and come to the same outcome (`Flat.Sim.endsIn_iff`); only the end of the
     program is a move more for the stack.
-/
import TapeLang.Proofs.Reading
import TapeLang.Proofs.Run

namespace TapeLang

open TapeLang.Bracket (at? Paired)

/-! ## Looking partners up -/

namespace Bracket

/-- The offset of the bracket that closes what is opened at offset `i`; the length of the source if there
    is none. -/
def closeOf (source : List Value) (i : Nat) : Nat :=
  (List.range source.length).findIdx (Paired source i ·)

/-- The offset of the bracket that opens what is closed at offset `j`; the length of the source if there
    is none. -/
def openOf (source : List Value) (j : Nat) : Nat :=
  (List.range source.length).findIdx (Paired source · j)

variable {source : List Value} {i j : Nat}

theorem Paired.closeOf_eq (h : Paired source i j) : closeOf source i = j := by
  have hj : j < (List.range source.length).length := by
    rw [List.length_range]
    exact lt_length_of_at? h.closing
  refine (List.findIdx_eq hj).2 ⟨?_, fun k hk => ?_⟩
  · rw [List.getElem_range]
    exact decide_eq_true h
  · rw [List.getElem_range]
    exact decide_eq_false fun h' => Nat.ne_of_lt hk (h'.closing_unique h)

theorem Paired.openOf_eq (h : Paired source i j) : openOf source j = i := by
  have hi : i < (List.range source.length).length := by
    rw [List.length_range]
    exact lt_length_of_at? h.opening
  refine (List.findIdx_eq hi).2 ⟨?_, fun k hk => ?_⟩
  · rw [List.getElem_range]
    exact decide_eq_true h
  · rw [List.getElem_range]
    exact decide_eq_false fun h' => Nat.ne_of_lt hk (h'.opening_unique h)

end Bracket

/-! ## The machine -/

/-- A machine that works on a source. -/
structure Flat where
  /-- The source. -/
  source : List Value
  /-- The offset of the value to come. -/
  offset : Nat
  /-- What the machine has done so far. -/
  state : State

namespace Flat

/-- What a move leads to. -/
inductive Progress where
  /-- The work goes on. -/
  | going (f : Flat)
  /-- The work is over. -/
  | ended (e : Effect)

/-- The machine at the start of a source. -/
def start (source : List Value) (s : State) : Flat := ⟨source, 0, s⟩

/-- Makes one move. -/
def move (f : Flat) : Progress :=
  match f.source[f.offset]? with
  | none => .ended (.done f.state)
  | some code =>
    match Bracket.of? code with
    | some .opening =>
      if f.state.test.tape.cell = 0 then
        .going { f with offset := Bracket.closeOf f.source f.offset + 1, state := f.state.test }
      else .going { f with offset := f.offset + 1, state := f.state.test }
    | some .closing => .going { f with offset := Bracket.openOf f.source f.offset }
    | none =>
      match f.state.count.execute code (some (f.offset : Int)) with
      | .done s => .going { f with offset := f.offset + 1, state := s }
      | .failed g s => .ended (.failed g s)

/-- The outcome, if it is reached within a number of moves. -/
def run : Nat → Flat → Option Effect
  | 0, _ => none
  | n + 1, f =>
    match f.move with
    | .going f => run n f
    | .ended e => some e

/-- The offset that the machine is about to make a step at, and the state before the step; nothing if its
    next move is no step. -/
def visit? (f : Flat) : Option (Nat × State) :=
  match f.source[f.offset]? with
  | none => none
  | some code => if Bracket.of? code = some .closing then none else some (f.offset, f.state)

/-- The steps among the first `n` moves, in order. -/
def visits : Nat → Flat → List (Nat × State)
  | 0, _ => []
  | n + 1, f =>
    match f.move with
    | .going f' => f.visit?.toList ++ visits n f'
    | .ended _ => f.visit?.toList

/-- The run of a machine comes to an end, and `e` is the outcome. -/
def EndsIn (f : Flat) (e : Effect) : Prop := ∃ n, f.run n = some e

/-- The run of a machine never comes to an end. -/
def Endless (f : Flat) : Prop := ∀ n, f.run n = none

/-- Step `k` of the run, counted from zero, is at an offset in a state. -/
def Visits (f : Flat) (k : Nat) (visit : Nat × State) : Prop := ∃ n, (f.visits n)[k]? = some visit

theorem endless_iff {f : Flat} : f.Endless ↔ ∀ e, ¬ f.EndsIn e := by
  constructor
  · rintro h e ⟨n, hn⟩
    rw [h n] at hn
    cases hn
  · intro h n
    cases hn : f.run n with
    | none => rfl
    | some e => exact absurd ⟨n, hn⟩ (h e)

/-! ## Moves by what stands at the offset -/

section Moves

variable {source : List Value} {k : Nat} {s : State}

theorem move_end (h : source.length ≤ k) : (Flat.mk source k s).move = .ended (.done s) := by
  simp only [move, List.getElem?_eq_none h]

theorem visit?_end (h : source.length ≤ k) : (Flat.mk source k s).visit? = none := by
  simp only [visit?, List.getElem?_eq_none h]

/-- What stands where a bracket stands. -/
theorem getElem?_of_at? {b : Bracket} (h : at? source k = some b) :
    ∃ code, source[k]? = some code ∧ Bracket.of? code = some b :=
  Option.bind_eq_some_iff.1 h

theorem move_skip {j : Nat} (h : Paired source k j) (hcell : s.test.tape.cell = 0) :
    (Flat.mk source k s).move = .going ⟨source, j + 1, s.test⟩ := by
  obtain ⟨code, hcode, hopen⟩ := getElem?_of_at? h.opening
  simp only [move, hcode, hopen, if_pos hcell, h.closeOf_eq]

theorem move_enter (ho : at? source k = some .opening) (hcell : s.test.tape.cell ≠ 0) :
    (Flat.mk source k s).move = .going ⟨source, k + 1, s.test⟩ := by
  obtain ⟨code, hcode, hopen⟩ := getElem?_of_at? ho
  simp only [move, hcode, hopen, if_neg hcell]

theorem move_back {i : Nat} (h : Paired source i k) :
    (Flat.mk source k s).move = .going ⟨source, i, s⟩ := by
  obtain ⟨code, hcode, hclose⟩ := getElem?_of_at? h.closing
  simp only [move, hcode, hclose, h.openOf_eq]

theorem move_done {code : Value} {t : State} (hcode : source[k]? = some code)
    (hplain : Bracket.of? code = none)
    (h : s.count.execute code (some (k : Int)) = .done t) :
    (Flat.mk source k s).move = .going ⟨source, k + 1, t⟩ := by
  simp only [move, hcode, hplain, h]

theorem move_fail {code : Value} {t : State} {g : Failure} (hcode : source[k]? = some code)
    (hplain : Bracket.of? code = none)
    (h : s.count.execute code (some (k : Int)) = .failed g t) :
    (Flat.mk source k s).move = .ended (.failed g t) := by
  simp only [move, hcode, hplain, h]

theorem visit?_opening (ho : at? source k = some .opening) :
    (Flat.mk source k s).visit? = some (k, s) := by
  obtain ⟨code, hcode, hopen⟩ := getElem?_of_at? ho
  simp only [visit?, hcode, hopen]
  rfl

theorem visit?_closing (hc : at? source k = some .closing) : (Flat.mk source k s).visit? = none := by
  obtain ⟨code, hcode, hclose⟩ := getElem?_of_at? hc
  simp only [visit?, hcode, hclose, if_pos]

theorem visit?_plain {code : Value} (hcode : source[k]? = some code)
    (hplain : Bracket.of? code = none) : (Flat.mk source k s).visit? = some (k, s) := by
  simp only [visit?, hcode, hplain]
  rfl

end Moves

/-! ## Where the cursors are -/

/-- The place of a stack of cursors in a source: the offset of what is left to do. -/
inductive Place (source : List Value) : List Cursor → Nat → Prop where
  /-- What is left of the outermost sequence goes up to the end of the source. -/
  | outermost {before after : List Node} {k : Nat}
      (h : Program.Stands source after k source.length) : Place source [⟨before, after⟩] k
  /-- What is left of a body goes up to its closing bracket, and the cursor below stands at the partner of
      the bracket. -/
  | inner {before after : List Node} {below : List Cursor} {i j k : Nat}
      (h : Program.Stands source after k j) (hpair : Paired source i j)
      (hbelow : Place source below i) : Place source (⟨before, after⟩ :: below) k

/-- What is left of a sequence, further on than before. -/
theorem Place.advance {source : List Value} {before before' after after' : List Node}
    {below : List Cursor} {k m : Nat} (h : Place source (⟨before, after⟩ :: below) k)
    (hstands : ∀ b, Program.Stands source after k b → Program.Stands source after' m b) :
    Place source (⟨before', after'⟩ :: below) m := by
  cases h with
  | outermost h => exact .outermost (hstands _ h)
  | inner h hpair hbelow => exact .inner (hstands _ h) hpair hbelow

/-- What is left of a sequence stands from the offset on. -/
theorem Place.stands {source : List Value} {before after : List Node} {below : List Cursor} {k : Nat}
    (h : Place source (⟨before, after⟩ :: below) k) : ∃ b, Program.Stands source after k b := by
  cases h with
  | outermost h => exact ⟨_, h⟩
  | inner h _ _ => exact ⟨_, h⟩

/-! ## The simulation -/

/-- A machine with a tree and one without are at the same place in the same state. -/
structure Sim (m : Machine) (f : Flat) : Prop where
  /-- The states are equal. -/
  state : m.state = f.state
  /-- The cursors are at the offset. -/
  place : Place f.source m.cursors f.offset

/-- What the moves of both lead to. -/
inductive Moves (m : Machine) (f : Flat) : Prop where
  /-- Both go on. -/
  | going {m' : Machine} {f' : Flat} (hm : m.move = .going m') (hf : f.move = .going f') (h : Sim m' f')
  /-- Both fail. -/
  | failed {g : Failure} {s : State} (hm : m.move = .failed g s) (hf : f.move = .ended (.failed g s))
  /-- One is over, and the other only has to drop its last cursor. -/
  | ended (hm : m.move = .going ⟨[], m.state⟩) (hf : f.move = .ended (.done m.state))

/-- What is seen of a step with a node. -/
def seenInTree (visit : Node × State) : Option Int × State := (visit.1.position, visit.2)

/-- What is seen of a step at an offset. -/
def seenInSource (visit : Nat × State) : Option Int × State := (some (visit.1 : Int), visit.2)

theorem Sim.start {p : Program} {source : List Value} (h : Program.read source = .ok p) (s : State) :
    Sim (Machine.start p s) (Flat.start source s) :=
  ⟨rfl, .outermost (Program.stands_of_read h)⟩

/-- **Every move has its move**, and the same is seen of both. -/
theorem Sim.move {m : Machine} {f : Flat} (h : Sim m f) :
    Moves m f ∧ m.visit?.map seenInTree = f.visit?.map seenInSource := by
  obtain ⟨cursors, s⟩ := m
  obtain ⟨source, k, t⟩ := f
  obtain ⟨hstate, hplace⟩ := h
  obtain rfl : s = t := hstate
  match cursors with
  | [] => cases hplace
  | ⟨before, []⟩ :: below =>
    cases hplace with
    | outermost h =>
      obtain rfl : k = source.length := h
      have hend := Nat.le_refl source.length
      exact ⟨.ended rfl (move_end hend), by rw [visit?_end hend]; rfl⟩
    | inner h hpair hbelow =>
      -- a body is over at its closing bracket, and that is no step for either
      obtain rfl := h
      exact ⟨.going rfl (move_back hpair) ⟨rfl, hbelow⟩, by rw [visit?_closing hpair.closing]; rfl⟩
  | ⟨before, .command code position :: after⟩ :: below =>
    obtain ⟨b, -, ⟨hcode, hplain, rfl, rfl⟩, -⟩ := hplace.stands
    refine ⟨?_, by rw [visit?_plain hcode hplain]; rfl⟩
    cases he : s.count.execute code (some (k : Int)) with
    | done t =>
      refine .going (Machine.move_done he) (move_done hcode hplain he) ⟨rfl, ?_⟩
      refine hplace.advance ?_
      rintro b ⟨_, ⟨-, -, -, rfl⟩, hrest⟩
      exact hrest
    | failed g t => exact .failed (Machine.move_fail he) (move_fail hcode hplain he)
  | ⟨before, .loop body position :: after⟩ :: below =>
    obtain ⟨b, -, ⟨ho, rfl, j, hbody, hc, rfl⟩, -⟩ := hplace.stands
    have hpair := hbody.balanced.paired ho hc
    refine ⟨?_, by rw [visit?_opening ho]; rfl⟩
    by_cases hcell : s.tape.cell = 0
    · refine .going (Machine.move_skip hcell) (move_skip hpair (by simpa using hcell)) ⟨rfl, ?_⟩
      refine hplace.advance ?_
      rintro b ⟨_, ⟨-, -, j', hbody', hc', rfl⟩, hrest⟩
      obtain rfl := hpair.closing_unique (hbody'.balanced.paired ho hc')
      exact hrest
    · -- the cursor that stays at the loop keeps the offset of its opening bracket
      refine .going (Machine.move_enter hcell) (move_enter ho (by simpa using hcell)) ⟨rfl, ?_⟩
      exact .inner hbody hpair hplace

/-- Both make the same steps. -/
theorem Sim.visits {m : Machine} {f : Flat} (h : Sim m f) (n : Nat) :
    (m.visits n).map seenInTree = (f.visits n).map seenInSource := by
  induction n generalizing m f with
  | zero => rfl
  | succ n ih =>
    obtain ⟨hmoves, hseen⟩ := h.move
    have hfirst : m.visit?.toList.map seenInTree = f.visit?.toList.map seenInSource := by
      rw [← Option.toList_map, ← Option.toList_map, hseen]
    cases hmoves with
    | going hm hf h =>
      simp only [Machine.visits_of_going hm, Flat.visits, hf, List.map_append, hfirst, ih h]
    | failed hm hf => simp only [Machine.visits_of_failed hm, Flat.visits, hf, hfirst]
    | ended hm hf =>
      have hover : (Machine.mk [] m.state).visits n = [] := by
        cases n with
        | zero => rfl
        | succ n => exact Machine.visits_of_finished rfl n
      simp only [Machine.visits_of_going hm, Flat.visits, hf, hover, List.append_nil, hfirst]

theorem Sim.seen {m : Machine} {f : Flat} (h : Sim m f) (n k : Nat) :
    (m.visits n)[k]?.map seenInTree = (f.visits n)[k]?.map seenInSource := by
  rw [← List.getElem?_map, ← List.getElem?_map, h.visits]

/-- A step with a node is one at the position of the node. -/
theorem Sim.visit_of_tree {m : Machine} {f : Flat} (h : Sim m f) {k : Nat} {node : Node} {s : State}
    (hv : m.Visits k (node, s)) :
    ∃ offset : Nat, node.position = some (offset : Int) ∧ f.Visits k (offset, s) := by
  obtain ⟨n, hn⟩ := hv
  have hseen := h.seen n k
  rw [hn] at hseen
  obtain ⟨⟨offset, t⟩, hf, hview⟩ := Option.map_eq_some_iff.1 hseen.symm
  obtain ⟨hposition, rfl⟩ := Prod.mk.inj hview
  exact ⟨offset, hposition.symm, n, hf⟩

/-- A step at an offset is one with a node that has the offset for its position. -/
theorem Sim.visit_of_source {m : Machine} {f : Flat} (h : Sim m f) {k offset : Nat} {s : State}
    (hv : f.Visits k (offset, s)) :
    ∃ node, node.position = some (offset : Int) ∧ m.Visits k (node, s) := by
  obtain ⟨n, hn⟩ := hv
  have hseen := h.seen n k
  rw [hn] at hseen
  obtain ⟨⟨node, t⟩, hm, hview⟩ := Option.map_eq_some_iff.1 hseen
  obtain ⟨hposition, rfl⟩ := Prod.mk.inj hview
  exact ⟨node, hposition, n, hm⟩

/-- What comes to an outcome on the tree comes to it on the source. -/
theorem Sim.endsIn_of_tree {m : Machine} {f : Flat} {e : Effect} (h : Sim m f) (he : m.EndsIn e) :
    f.EndsIn e := by
  obtain ⟨n, hn⟩ := he
  induction n generalizing m f with
  | zero => exact absurd hn.symm (e.ending_ne_unfinished m)
  | succ n ih =>
    cases h.move.1 with
    | going hm hf h =>
      rw [Machine.run_of_going hm] at hn
      obtain ⟨k, hk⟩ := ih h hn
      exact ⟨k + 1, by simp only [run, hf, hk]⟩
    | failed hm hf =>
      rw [Machine.run_of_failed hm] at hn
      obtain rfl := Effect.ending_injective (e := .failed _ _) hn
      exact ⟨1, by simp only [run, hf]⟩
    | ended hm hf =>
      -- the outcome is that of two more moves, whatever the budget was
      have hdone : m.EndsIn (.done m.state) := ⟨2, by rw [Machine.run_of_going hm]; rfl⟩
      obtain rfl := hdone.unique ⟨n + 1, hn⟩
      exact ⟨1, by simp only [run, hf]⟩

/-- What comes to an outcome on the source comes to it on the tree. -/
theorem Sim.endsIn_of_source {m : Machine} {f : Flat} {e : Effect} (h : Sim m f)
    (he : f.EndsIn e) : m.EndsIn e := by
  obtain ⟨n, hn⟩ := he
  induction n generalizing m f with
  | zero => cases hn
  | succ n ih =>
    cases h.move.1 with
    | going hm hf h =>
      simp only [run, hf] at hn
      exact (ih h hn).of_going hm
    | failed hm hf =>
      simp only [run, hf, Option.some.injEq] at hn
      subst hn
      exact ⟨1, Machine.run_of_failed hm 0⟩
    | ended hm hf =>
      simp only [run, hf, Option.some.injEq] at hn
      subst hn
      exact ⟨2, by rw [Machine.run_of_going hm]; rfl⟩

/-- Both come to the same outcome. -/
theorem Sim.endsIn_iff {m : Machine} {f : Flat} (h : Sim m f) (e : Effect) :
    m.EndsIn e ↔ f.EndsIn e :=
  ⟨h.endsIn_of_tree, h.endsIn_of_source⟩

/-! ## Commands that there are not -/

/-- A move stays within its source. -/
theorem source_of_going {f f' : Flat} (h : f.move = .going f') : f'.source = f.source := by
  unfold move at h
  split at h
  · cases h
  · split at h
    · split at h <;> cases h <;> rfl
    · cases h
      rfl
    · split at h <;> cases h
      rfl

/-- A move that ends the work with a command that there is not ends it at the command. -/
theorem undefined_of_ended {f : Flat} {code position : Value} {isNumber : code.integer?.isSome}
    {hasPlace : position.isWritable} {s : State}
    (h : f.move = .ended (.failed (.fault (.undefined code position isNumber hasPlace)) s)) :
    f.source[f.offset]? = some code ∧ position = .int f.offset := by
  unfold move at h
  split at h
  · cases h
  · rename_i c hc
    split at h
    · split at h <;> cases h
    · cases h
    · split at h
      · cases h
      · rename_i he
        cases h
        obtain ⟨rfl, rfl⟩ := State.execute_undefined he
        exact ⟨hc, rfl⟩

/-- A command that there is not is named as it stands in the source, with its offset. -/
theorem EndsIn.undefined_at {f : Flat} {code position : Value} {isNumber : code.integer?.isSome}
    {hasPlace : position.isWritable} {s : State}
    (h : f.EndsIn (.failed (.fault (.undefined code position isNumber hasPlace)) s)) :
    ∃ offset : Nat, f.source[offset]? = some code ∧ position = .int offset := by
  obtain ⟨n, hn⟩ := h
  induction n generalizing f with
  | zero => cases hn
  | succ n ih =>
    cases hmove : f.move with
    | going f' =>
      simp only [run, hmove] at hn
      obtain ⟨offset, hcode, hposition⟩ := ih hn
      exact ⟨offset, source_of_going hmove ▸ hcode, hposition⟩
    | ended e =>
      simp only [run, hmove, Option.some.injEq] at hn
      subst hn
      exact ⟨f.offset, undefined_of_ended hmove⟩

end Flat

/-! ## Walk and flat machine agree -/

/-- **The walk implements the flat machine.**  For a source of bytes with a tree, on any input and with any
    chunk, the walk through the tree and the flat machine on the source make the same steps: one has a
    step with a node in a state exactly if the other has that step, at the node's position in the source,
    in the same state.  They come to the same outcome, or both to none.  A command that there is not is
    named as it stands in the source, with its offset. -/
theorem Program.walk_agrees_with_flat {source : List UInt8} {p : Program}
    (h : Program.ofBytes source = .ok p) (chunk : Chunk) (input : List UInt8) :
    (∀ k node s, (Machine.start p (State.initial chunk input)).Visits k (node, s) →
      ∃ offset : Nat, node.position = some (offset : Int) ∧
        (Flat.start (source.map byteCode) (State.initial chunk input)).Visits k (offset, s)) ∧
    (∀ k (offset : Nat) s,
      (Flat.start (source.map byteCode) (State.initial chunk input)).Visits k (offset, s) →
      ∃ node, node.position = some (offset : Int) ∧
        (Machine.start p (State.initial chunk input)).Visits k (node, s)) ∧
    (∀ e, (Machine.start p (State.initial chunk input)).EndsIn e ↔
      (Flat.start (source.map byteCode) (State.initial chunk input)).EndsIn e) ∧
    ((Machine.start p (State.initial chunk input)).Endless ↔
      (Flat.start (source.map byteCode) (State.initial chunk input)).Endless) ∧
    (∀ code position isNumber hasPlace s, (Machine.start p (State.initial chunk input)).EndsIn
        (.failed (.fault (.undefined code position isNumber hasPlace)) s) →
      ∃ (offset : Nat) (b : UInt8), source[offset]? = some b ∧ position = .int offset ∧
        code = byteCode b) := by
  have hsim := Flat.Sim.start h (State.initial chunk input)
  refine ⟨?_, ?_, hsim.endsIn_iff, ?_, ?_⟩
  · intro k node s hv
    exact hsim.visit_of_tree hv
  · intro k offset s hv
    exact hsim.visit_of_source hv
  · rw [Machine.endless_iff, Flat.endless_iff]
    apply forall_congr'
    intro e
    exact not_congr (hsim.endsIn_iff e)
  · intro code position isNumber hasPlace s he
    obtain ⟨offset, hcode, hposition⟩ := ((hsim.endsIn_iff _).1 he).undefined_at
    have hbyte : (source.map byteCode)[offset]? = some code := hcode
    rw [List.getElem?_map] at hbyte
    obtain ⟨b, hb, rfl⟩ := Option.map_eq_some_iff.1 hbyte
    exact ⟨offset, b, hb, hposition, rfl⟩

/-- `+[-]?` is read as a command, a loop and a command that there is not.  The walk passes through the loop
    and fails at offset 4, and so does the flat machine. -/
theorem Program.walk_agrees_with_flat_at_fault :
    Program.ofBytes [43, 91, 45, 93, 63] = .ok [.command (.int 43) (some 0),
      .loop [.command (.int 45) (some 2)] (some 1), .command (.int 63) (some 4)] ∧
    ∃ s, (Flat.start ([43, 91, 45, 93, 63].map byteCode) (State.initial ⟨1, by decide⟩ [])).EndsIn
      (.failed (.fault (.undefined (.int 63) (.int 4) rfl rfl)) s) := by
  have hread : Program.ofBytes [43, 91, 45, 93, 63] = .ok [.command (.int 43) (some 0),
      .loop [.command (.int 45) (some 2)] (some 1), .command (.int 63) (some 4)] := rfl
  have hagree := Program.walk_agrees_with_flat hread ⟨1, by decide⟩ []
  exact ⟨hread, _, (hagree.2.2.1 _).1 ⟨8, rfl⟩⟩

end TapeLang
