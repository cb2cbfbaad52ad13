/-
  Stack — the cursors of a walk stand inside one another.

  A walk of the tree needs nothing but its cursors.  The outermost is in the program itself; each of the
  others is in the body of the loop that the one below it stays at.  So the stack is no higher than loops
  are nested, whatever the program does.

  1. **The invariant (`Cursor.Nested`)** — a move goes on in the innermost sequence, drops it, or puts the
     body of a loop on top that the cursor below stays at.  The nesting of the innermost sequence and the
     number of cursors below it are together no more than the nesting of the program, since a body is nested
     less deeply than what its loop stands in.
  2. **Indices (`Machine.moveIndexed`)** — a cursor is a sequence and an index in it.  The walk that looks
     the next node up by its index never looks behind the last one.
  3. **Progress (`Machine.quiet_le_one`)** — only a cursor that is dropped makes no step.  Then the one
     below it is at a loop, which is tested, or the walk is over; so no two moves in a row make no step, and
     a run that never ends makes steps for ever.
-/
import TapeLang.Proofs.Run

namespace TapeLang

/-! ## Indices -/

namespace Cursor

/-- The place before the node with an index. -/
def atIndex (nodes : List Node) (index : Nat) : Cursor := ⟨(nodes.take index).reverse, nodes.drop index⟩

theorem index_le (c : Cursor) : c.index ≤ c.nodes.length := by
  simp [index, nodes]

/-- A cursor is at the end exactly if there is nothing to come. -/
theorem index_eq_length_iff (c : Cursor) : c.index = c.nodes.length ↔ c.after = [] := by
  rw [← List.length_eq_zero_iff]
  simp [index, nodes]

/-- The node at the index is the next one. -/
theorem getElem?_index (c : Cursor) : c.nodes[c.index]? = c.after.head? := by
  rw [nodes, index, List.getElem?_append_right (by simp), List.length_reverse, Nat.sub_self,
    List.head?_eq_getElem?]

/-- To go past a node is to go to the next index. -/
theorem atIndex_succ (before after : List Node) (n : Node) :
    atIndex (Cursor.mk before (n :: after)).nodes ((Cursor.mk before (n :: after)).index + 1) =
      ⟨n :: before, after⟩ := by
  have hlength : before.length + 1 = (before.reverse ++ [n]).length := by simp
  rw [atIndex, nodes, index, List.append_cons, hlength, List.take_left, List.drop_left,
    List.reverse_append, List.reverse_reverse]
  rfl

end Cursor

namespace Machine

/-- Makes one move with nodes looked up by their indices; nothing if there is no node at an index. -/
def moveIndexed (m : Machine) : Option Progress :=
  match m.cursors with
  | [] => some (.finished m.state)
  | c :: below =>
    if c.index = c.nodes.length then some (.going ⟨below, m.state⟩)
    else c.nodes[c.index]?.map fun
      | .command code position =>
        match m.state.count.execute code position with
        | .done s => .going ⟨Cursor.atIndex c.nodes (c.index + 1) :: below, s⟩
        | .failed f s => .failed f s
      | .loop body _ =>
        if m.state.test.tape.cell = 0 then
          .going ⟨Cursor.atIndex c.nodes (c.index + 1) :: below, m.state.test⟩
        else .going ⟨Cursor.atIndex body 0 :: c :: below, m.state.test⟩

/-- **No index is out of range**: looked up by its index, the next node is there. -/
theorem moveIndexed_eq (m : Machine) : m.moveIndexed = some m.move := by
  obtain ⟨cursors, s⟩ := m
  match cursors with
  | [] => rfl
  | ⟨before, []⟩ :: below =>
    have hend : (Cursor.mk before []).index = (Cursor.mk before []).nodes.length :=
      (Cursor.index_eq_length_iff _).2 rfl
    exact if_pos hend
  | ⟨before, n :: after⟩ :: below =>
    have hinside : ¬ (Cursor.mk before (n :: after)).index = (Cursor.mk before (n :: after)).nodes.length :=
      fun h => nomatch (Cursor.index_eq_length_iff _).1 h
    simp only [moveIndexed, if_neg hinside, Cursor.getElem?_index, Cursor.atIndex_succ, List.head?_cons,
      Option.map_some]
    cases n <;> rfl

end Machine

/-! ## Nesting -/

/-- A node is nested no more deeply than the sequence that it is in. -/
theorem Program.nesting_le_of_mem {n : Node} {nodes : List Node} (h : n ∈ nodes) :
    n.nesting ≤ Program.nesting nodes := by
  induction nodes with
  | nil => cases h
  | cons first rest ih =>
    rcases List.mem_cons.1 h with rfl | hrest
    · exact Nat.le_max_left _ _
    · exact Nat.le_trans (ih hrest) (Nat.le_max_right _ _)

namespace Cursor

/-- Cursors in a program, innermost first: the outermost is in the program itself, and each of the others is
    in the body of the loop that the one below it is at. -/
inductive Nested (p : Program) : List Cursor → Prop where
  /-- The walk is over. -/
  | ended : Nested p []
  /-- The outermost cursor is in the program. -/
  | whole {c : Cursor} (h : c.nodes = p) : Nested p [c]
  /-- A cursor is in the body of a loop. -/
  | inside {c d : Cursor} {below : List Cursor} {position : Option Int}
      (hloop : d.nodes[d.index]? = some (.loop c.nodes position)) (h : Nested p (d :: below)) :
      Nested p (c :: d :: below)

namespace Nested

variable {p : Program} {c d : Cursor} {cs below : List Cursor}

/-- The innermost cursor may be anywhere in its sequence. -/
theorem replace (h : Nested p (c :: below)) (hnodes : d.nodes = c.nodes) : Nested p (d :: below) := by
  cases h with
  | whole h => exact .whole (hnodes.trans h)
  | inside hloop h => exact .inside (hnodes ▸ hloop) h

/-- Without the innermost cursor the others are as they were. -/
theorem tail (h : Nested p (c :: below)) : Nested p below := by
  cases h with
  | whole => exact .ended
  | inside _ h => exact h

theorem nodes_of_getLast? (h : Nested p cs) (hlast : cs.getLast? = some c) : c.nodes = p := by
  induction h with
  | ended => cases hlast
  | whole h =>
    cases hlast
    exact h
  | inside _ _ ih => exact ih (by rwa [List.getLast?_cons_cons] at hlast)

theorem loop_of_getElem? (h : Nested p cs) {i : Nat} (hc : cs[i]? = some c) (hd : cs[i + 1]? = some d) :
    ∃ position, d.nodes[d.index]? = some (.loop c.nodes position) := by
  induction h generalizing i with
  | ended => cases hc
  | whole => cases hd
  | inside hloop _ ih =>
    cases i with
    | zero =>
      cases hc
      cases hd
      exact ⟨_, hloop⟩
    | succ i => exact ih hc hd

/-- **The stack is as high as loops are nested at most**, for a body is nested less deeply than what its
    loop stands in. -/
theorem length_add_nesting_le (h : Nested p (c :: below)) :
    below.length + Program.nesting c.nodes ≤ Program.nesting p := by
  generalize hcs : c :: below = cs at h
  -- from the outermost cursor inwards: one more cursor, and nested one less at least
  induction h generalizing c below with
  | ended => cases hcs
  | whole h =>
    cases hcs
    rw [h]
    exact Nat.le_of_eq (Nat.zero_add _)
  | @inside c d below position hloop _ ih =>
    cases hcs
    have hbelow := ih rfl
    have hbody : Program.nesting c.nodes + 1 ≤ Program.nesting d.nodes :=
      Program.nesting_le_of_mem (List.mem_of_getElem? hloop)
    rw [List.length_cons]
    omega

theorem length_le (h : Nested p cs) : cs.length ≤ Program.depth p + 1 := by
  rw [Program.depth_eq_nesting]
  cases cs with
  | nil => exact Nat.zero_le _
  | cons c below =>
    have hheight := h.length_add_nesting_le
    rw [List.length_cons]
    omega

/-- **One move** leaves the cursors inside one another. -/
theorem move {m m' : Machine} (h : Nested p m.cursors) (hmove : m.move = .going m') :
    Nested p m'.cursors := by
  have hpast : ∀ (before after : List Node) (n : Node),
      (Cursor.mk (n :: before) after).nodes = (Cursor.mk before (n :: after)).nodes := by
    simp [nodes]
  have hmoves := m.moves_move
  rw [hmove] at hmoves
  cases hmoves with
  | drop => exact h.tail
  | skip => exact h.replace (hpast _ _ _)
  | enter => exact .inside (getElem?_index _) h
  | done => exact h.replace (hpast _ _ _)

end Nested

end Cursor

/-! ## Progress -/

namespace Machine

variable {p : Program} {m m' : Machine}

/-- **After a move that makes no step** the walk is over, or the next move makes one. -/
theorem stop?_after_quiet (h : Cursor.Nested p m.cursors) (hquiet : m.stop? = none)
    (hmove : m.move = .going m') : m'.cursors = [] ∨ m'.stop? = some m' := by
  have hmoves := m.moves_move
  rw [hmove] at hmoves
  cases hmoves with
  | drop =>
    -- what is dropped was either the outermost cursor or in the body of a loop
    cases h with
    | whole => exact .inl rfl
    | @inside _ d below position hloop h =>
      obtain ⟨before, after⟩ := d
      rw [Cursor.getElem?_index] at hloop
      exact .inr (stop?_of_node (m := ⟨⟨before, after⟩ :: below, _⟩) hloop)
  | skip => cases hquiet
  | enter => cases hquiet
  | done => cases hquiet

/-- **No two moves in a row make no step.** -/
theorem quiet_le_one (h : Cursor.Nested p m.cursors) {k : Nat} (hrun : m.run k = .unfinished m')
    (hquiet : m'.state.steps = m.state.steps) : k ≤ 1 := by
  match k with
  | 0 | 1 => omega
  | k + 2 =>
    exfalso
    obtain ⟨next, hmove, hnext⟩ := exists_going_of_run hrun
    obtain ⟨last, hlast, -⟩ := exists_going_of_run hnext
    have hsteps : m'.state.steps = m.state.steps + (m.stops (k + 2)).length := by
      rw [← m.run_steps, hrun]
      rfl
    have hzero : (m.stops (k + 2)).length = 0 := by omega
    -- neither of the first two moves has made a step
    have hnone : m.stop?.toList ++ (next.stop?.toList ++ last.stops k) = [] := by
      rw [← stops_of_going hlast, ← stops_of_going hmove]
      exact List.length_eq_zero_iff.1 hzero
    obtain ⟨hfirst, hsecond⟩ := List.append_eq_nil_iff.1 hnone
    rcases stop?_after_quiet h (Option.toList_eq_nil_iff.1 hfirst) hmove with hover | hstop
    · obtain ⟨cursors, s⟩ := next
      obtain rfl : cursors = [] := hover
      cases hlast
    · rw [hstop] at hsecond
      cases hsecond

/-- **A run that never ends makes steps for ever.** -/
theorem Endless.makesStep (hendless : m.Endless) (h : Cursor.Nested p m.cursors) (k : Nat) :
    ∃ m', m.MakesStep k m' := by
  have hmany : ∀ k, k ≤ (m.stops (2 * k)).length := by
    intro k
    induction k with
    | zero => exact Nat.zero_le _
    | succ k ih =>
      obtain ⟨m', hrun⟩ := hendless (2 * k)
      obtain ⟨m'', hlater⟩ := hendless (2 * k + 2)
      rw [run_append hrun] at hlater
      have hnested : Cursor.Nested p m'.cursors :=
        run_keeps (P := fun m => Cursor.Nested p m.cursors) (fun _ _ h => h.move) h hrun
      -- two moves make a step at least
      have hsteps : m''.state.steps = m'.state.steps + (m'.stops 2).length := by
        rw [← m'.run_steps, hlater]
        rfl
      have hstep : (m'.stops 2).length ≠ 0 := fun hzero =>
        absurd (quiet_le_one hnested hlater (by omega)) (by omega)
      rw [show 2 * (k + 1) = 2 * k + 2 from by omega, stops_append hrun, List.length_append]
      omega
  have hlt : k < (m.stops (2 * (k + 1))).length := hmany (k + 1)
  exact ⟨_, 2 * (k + 1), List.getElem?_eq_getElem hlt⟩

end Machine

/-! ## The theorem -/

/-- **The cursors of a walk stand inside one another, and the walk goes on.**  Wherever a run comes to, the
    outermost cursor is in the program itself, no index is greater than the length of its sequence, and each
    cursor but the innermost is at the loop whose body the next one is in.  So there is one cursor more than
    the program has depth at most, and the next node, looked up by its index, is there.  No more moves in a
    row than that go by without a step, so a run comes to an end or makes steps for ever. -/
theorem Program.walk_nests_and_steps (p : Program) (chunk : Chunk) (input : List UInt8) :
    (∀ n m, p.run n chunk input = .unfinished m →
      (∀ c, m.cursors.getLast? = some c → c.nodes = p) ∧
      (∀ c ∈ m.cursors, c.index ≤ c.nodes.length) ∧
      (∀ i c d, m.cursors[i]? = some c → m.cursors[i + 1]? = some d →
        ∃ position, d.nodes[d.index]? = some (.loop c.nodes position)) ∧
      m.cursors.length ≤ p.depth + 1 ∧
      m.moveIndexed = some m.move) ∧
    (∀ n k m m', p.run n chunk input = .unfinished m → p.run (n + k) chunk input = .unfinished m' →
      m'.state.steps = m.state.steps → k ≤ p.depth + 1) ∧
    ((∃ e, (Machine.start p (State.initial chunk input)).EndsIn e) ∨
      ∀ k, ∃ m, (Machine.start p (State.initial chunk input)).MakesStep k m) := by
  have hstart : Cursor.Nested p (Machine.start p (State.initial chunk input)).cursors := .whole rfl
  have hnested : ∀ n m, p.run n chunk input = .unfinished m → Cursor.Nested p m.cursors :=
    fun n m hrun => Machine.run_keeps (P := fun m => Cursor.Nested p m.cursors) (fun _ _ h => h.move)
      hstart hrun
  refine ⟨?_, ?_, ?_⟩
  · intro n m hrun
    have h := hnested n m hrun
    exact ⟨fun c => h.nodes_of_getLast?, fun c _ => c.index_le, fun i c d => h.loop_of_getElem?,
      h.length_le, m.moveIndexed_eq⟩
  · intro n k m m' hrun hlater hquiet
    have hmoves : m.run k = .unfinished m' := (Machine.run_append hrun k).symm.trans hlater
    exact Nat.le_trans (Machine.quiet_le_one (hnested n m hrun) hmoves hquiet) (Nat.le_add_left 1 _)
  · by_cases hend : ∃ e, (Machine.start p (State.initial chunk input)).EndsIn e
    · exact .inl hend
    · have hendless := Machine.endless_iff.2 fun e he => hend ⟨e, he⟩
      exact .inr fun k => hendless.makesStep hstart k

end TapeLang
