/-
  Sequence — one walk after another.

  The walk is one flat loop over a stack of cursors, and nothing in it says that a program can be cut in
  two.  The rules (`Program.Ends`) say so almost in words, and the walk finds what they derive
  (`Program.endsIn_iff`); so all of this is about derivations.

  1. **Two programs in a row (`Program.ends_append_iff`)** — the second starts where the first ends, and a
     failure of the first is one of both.  What has no derivation never ends, so a walk through both never
     ends if the first never ends, or the first ends and the second does not.
  2. **A loop on a cell that is not zero (`Node.ends_loop_iff`)** is its body, and then itself again.  The test
     before the first pass only counts a step: a cell that is not zero is kept already.
  3. **Behind a loop (`Node.Ends.zero_behind`)** the cell under the head is zero, and kept.
-/
import TapeLang.Proofs.Structured

namespace TapeLang

/-! ## Two programs in a row -/

namespace Program

variable {p q : List Node} {s : State} {e : Effect}

/-- A program of one node does what the node does. -/
theorem ends_singleton_iff {n : Node} : Program.Ends [n] s e ↔ Node.Ends n s e := by
  constructor
  · intro h
    cases h with
    | cons hnode hrest =>
      cases hrest
      exact hnode
    | stop hnode => exact hnode
  · intro h
    cases e with
    | done t => exact .cons h .nil
    | failed f t => exact .stop h

/-- **Two programs in a row**: the second starts where the first ends, and a failure of the first is one of
    both. -/
theorem ends_append_iff : Program.Ends (p ++ q) s e ↔
    (∃ t, Program.Ends p s (.done t) ∧ Program.Ends q t e) ∨
      ∃ f t, Program.Ends p s (.failed f t) ∧ e = .failed f t := by
  induction p generalizing s with
  | nil =>
    constructor
    · intro h
      exact .inl ⟨s, .nil, h⟩
    · rintro (⟨t, hp, hq⟩ | ⟨f, t, hp, -⟩)
      · cases hp
        exact hq
      · cases hp
  | cons n rest ih =>
    constructor
    · intro h
      cases h with
      | cons hnode hrest =>
        rcases ih.1 hrest with ⟨t, hp, hq⟩ | ⟨f, t, hp, he⟩
        · exact .inl ⟨t, .cons hnode hp, hq⟩
        · exact .inr ⟨f, t, .cons hnode hp, he⟩
      | stop hnode => exact .inr ⟨_, _, .stop hnode, rfl⟩
    · rintro (⟨t, hp, hq⟩ | ⟨f, t, hp, rfl⟩)
      · cases hp with
        | cons hnode hrest => exact .cons hnode (ih.2 (.inl ⟨t, hrest, hq⟩))
      · cases hp with
        | cons hnode hrest => exact .cons hnode (ih.2 (.inr ⟨f, t, hrest, rfl⟩))
        | stop hnode => exact .stop hnode

/-- A walk never ends exactly if the rules derive no outcome. -/
theorem endless_iff : (Machine.start p s).Endless ↔ ∀ e, ¬ Program.Ends p s e := by
  simp only [Machine.endless_iff, endsIn_iff]

/-- Two programs in a row never end exactly if the first never ends, or ends and the second never does. -/
theorem endless_append_iff : (Machine.start (p ++ q) s).Endless ↔
    (Machine.start p s).Endless ∨
      ∃ t, Program.Ends p s (.done t) ∧ (Machine.start q t).Endless := by
  simp only [endless_iff]
  constructor
  · intro h
    by_cases hp : ∃ e, Program.Ends p s e
    · obtain ⟨e, hp⟩ := hp
      cases e with
      | done t => exact .inr ⟨t, hp, fun e hq => h e (ends_append_iff.2 (.inl ⟨t, hp, hq⟩))⟩
      | failed f t => exact absurd (ends_append_iff.2 (.inr ⟨f, t, hp, rfl⟩)) (h _)
    · exact .inl fun e he => hp ⟨e, he⟩
  · rintro (hp | ⟨t, hp, hq⟩) e he
    · rcases ends_append_iff.1 he with ⟨t, hdone, -⟩ | ⟨f, t, hfailed, -⟩
      · exact hp _ hdone
      · exact hp _ hfailed
    · -- the first program has one outcome, so the second starts at `t`
      have hone := fun e' (h : Program.Ends p s e') => h.endsIn.unique hp.endsIn
      rcases ends_append_iff.1 he with ⟨t', hdone, hrest⟩ | ⟨f, t', hfailed, -⟩
      · cases hone _ hdone
        exact hq e hrest
      · cases hone _ hfailed

end Program

/-! ## Loops -/

/-- A cell that is not zero is kept already. -/
theorem Tape.reach_of_cell_ne_zero {t : Tape} (h : t.cell ≠ 0) : t.reach = t := by
  have hkept : ¬ t.cells.size ≤ t.head := by
    intro hout
    apply h
    rw [cell, byteAt, Array.getD_eq_getD_getElem?, Array.getElem?_eq_none hout]
    rfl
  exact if_neg hkept

/-- The test of a loop on a cell that is not zero only counts a step. -/
theorem State.test_of_cell_ne_zero {s : State} (h : s.tape.cell ≠ 0) : s.test = s.count := by
  rw [test, Tape.reach_of_cell_ne_zero h]
  rfl

variable {body : List Node} {position : Option Int} {s : State}

/-- **A loop on a cell that is not zero** is a step, its body, and then itself again. -/
theorem Node.ends_loop_iff (hcell : s.tape.cell ≠ 0) {e : Effect} :
    Node.Ends (.loop body position) s e ↔
      Program.Ends (body ++ [.loop body position]) s.count e := by
  have htest := State.test_of_cell_ne_zero hcell
  have hguard : s.test.tape.cell ≠ 0 := by rwa [htest]
  rw [Program.ends_append_iff, ← htest]
  constructor
  · intro h
    cases h with
    | «over» hzero => exact absurd hzero hguard
    | again _ hbody hloop => exact .inl ⟨_, hbody, Program.ends_singleton_iff.2 hloop⟩
    | broken _ hbody => exact .inr ⟨_, _, hbody, rfl⟩
  · rintro (⟨t, hbody, hloop⟩ | ⟨f, t, hbody, rfl⟩)
    · exact .again hguard hbody (Program.ends_singleton_iff.1 hloop)
    · exact .broken hguard hbody

/-- **Behind a loop** the cell under the head is zero, and it is kept. -/
theorem Node.Ends.zero_behind {n : Node} {s : State} {e : Effect} : Node.Ends n s e →
    ∀ {t : State}, n = .loop body position → e = .done t →
      t.tape.cell = 0 ∧ t.tape.head < t.tape.cells.size
  | .command _, _, hn, _ => nomatch hn
  | .over h, _, _, he => by
    cases he
    refine ⟨h, ?_⟩
    rw [State.test_tape, Tape.reach_head]
    exact s.tape.head_lt_reach_size
  -- the last test is the one that decides
  | .again _ _ hloop, _, hn, he => hloop.zero_behind hn he
  | .broken _ _, _, _, he => nomatch he

/-! ## The theorem -/

/-- **Walks are composed of walks.**  From any state, a walk through two programs in a row comes to the end in
    a state exactly if the first comes to its end in some state and the second, from there, in the state;
    it fails exactly if the first fails so, or the second does after the first; and it never ends exactly if
    the first never ends, or the second never does after the first.  A walk of a loop on a cell that is not
    zero comes to what a walk of its body and the loop again comes to, with one step counted before; and
    when a loop has come to its end, the cell under the head is zero and kept. -/
theorem Program.walk_composes (p q body : Program) (position : Option Int) (s : State) :
    (∀ u, (∃ n, (Machine.start (p ++ q) s).run n = .finished u) ↔
      ∃ t, (∃ n, (Machine.start p s).run n = .finished t) ∧
        ∃ n, (Machine.start q t).run n = .finished u) ∧
    (∀ f u, (∃ n, (Machine.start (p ++ q) s).run n = .failed f u) ↔
      (∃ n, (Machine.start p s).run n = .failed f u) ∨
        ∃ t, (∃ n, (Machine.start p s).run n = .finished t) ∧
          ∃ n, (Machine.start q t).run n = .failed f u) ∧
    ((Machine.start (p ++ q) s).Endless ↔ (Machine.start p s).Endless ∨
      ∃ t, (∃ n, (Machine.start p s).run n = .finished t) ∧ (Machine.start q t).Endless) ∧
    (s.tape.cell ≠ 0 →
      (∀ e, (Machine.start [.loop body position] s).EndsIn e ↔
        (Machine.start (body ++ [.loop body position]) s.count).EndsIn e) ∧
      ((Machine.start [.loop body position] s).Endless ↔
        (Machine.start (body ++ [.loop body position]) s.count).Endless)) ∧
    (∀ n t, (Machine.start [.loop body position] s).run n = .finished t →
      t.tape.cell = 0 ∧ t.tape.head < t.tape.cells.size) := by
  have hfinished : ∀ (p : Program) (s u : State),
      (∃ n, (Machine.start p s).run n = .finished u) ↔ Program.Ends p s (.done u) :=
    fun p s u => endsIn_iff (e := .done u)
  have hfailed : ∀ (p : Program) (s : State) (f : Failure) (u : State),
      (∃ n, (Machine.start p s).run n = .failed f u) ↔ Program.Ends p s (.failed f u) :=
    fun p s f u => endsIn_iff (e := .failed f u)
  simp only [hfinished, hfailed]
  refine ⟨?_, ?_, endless_append_iff, ?_, ?_⟩
  · intro u
    rw [ends_append_iff]
    constructor
    · rintro (h | ⟨f, t, -, hcontra⟩)
      · exact h
      · cases hcontra
    · exact .inl
  · intro f u
    rw [ends_append_iff, or_comm]
    constructor
    · rintro (⟨g, t, hp, heq⟩ | h)
      · cases heq
        exact .inl hp
      · exact .inr h
    · rintro (hp | h)
      · exact .inl ⟨f, u, hp, rfl⟩
      · exact .inr h
  · intro hcell
    have hloop : ∀ e, Program.Ends [.loop body position] s e ↔
        Program.Ends (body ++ [.loop body position]) s.count e :=
      fun e => ends_singleton_iff.trans (Node.ends_loop_iff hcell)
    exact ⟨fun e => by rw [endsIn_iff, endsIn_iff, hloop], by simp only [endless_iff, hloop]⟩
  · intro n t hrun
    exact (ends_singleton_iff.1 ((hfinished _ s t).1 ⟨n, hrun⟩)).zero_behind rfl rfl

/-- On a one, `[-]` counts a step and goes on as `-[-]` does, which is at its end after three steps. -/
theorem Program.walk_composes_at_one :
    (⟨⟨1, by decide⟩, #[1], 0⟩ : Tape).cell ≠ 0 ∧
    (Machine.start ([.command (.int 45) none] ++ [.loop [.command (.int 45) none] none])
        { tape := ⟨⟨1, by decide⟩, #[1], 0⟩, input := [], steps := 1 }).EndsIn
      (.done { tape := ⟨⟨1, by decide⟩, #[0], 0⟩, input := [], steps := 3 }) := by
  have hone : (⟨⟨1, by decide⟩, #[1], 0⟩ : Tape).cell ≠ 0 := by decide
  have hloop := (walk_composes [] [] [.command (.int 45) none] none
    { tape := ⟨⟨1, by decide⟩, #[1], 0⟩, input := [] }).2.2.2.1 hone
  exact ⟨hone, (hloop.1 _).1 ⟨6, rfl⟩⟩

end TapeLang
