/-
  Refusal — a command that fails leaves the machine as it was.

  A command looks before it acts: whether the head is at the left edge, whether there is input, whether
  there is such a command at all, and if not, whether its position can be told.  So a refused command has
  done nothing, and what a failed run leaves behind is the state before its last step, with that step
  counted (`Machine.move_eq_failed_iff`).

  The crux is that a run stops at the first command that is refused.  So whether it fails, and how, is
  known from the states in which its commands are reached.
-/
import TapeLang.Proofs.Run

namespace TapeLang

namespace Machine

/-- The step at which a run fails is the last one. -/
theorem getLast?_stops {n : Nat} {m : Machine} {f : Failure} {t : State} (h : m.run n = .failed f t) :
    ∃ k m', m.run k = .unfinished m' ∧ m'.move = .failed f t ∧ (m.stops n).getLast? = some m' := by
  obtain ⟨k, m', hk, hrun, hlast⟩ := exists_last_move h
  obtain ⟨code, position, hnode, -, -⟩ := move_eq_failed_iff.1 hlast
  have hend : m.run (k + 1) = .failed f t := by
    rw [run_append hrun]
    exact run_of_failed hlast 0
  obtain ⟨more, rfl⟩ := Nat.exists_eq_add_of_le (show k + 1 ≤ n from hk)
  refine ⟨k, m', hrun, hlast, ?_⟩
  rw [stops_add_of_ended (fun m' hm => nomatch hend.symm.trans hm), stops_succ hrun (stop?_of_node hnode)]
  exact List.getLast?_concat

/-- **A run fails** exactly if one of its steps is with a command that is refused. -/
theorem fails_iff {m : Machine} {f : Failure} : (∃ n t, m.run n = .failed f t) ↔
    ∃ k m' code position, m.MakesStep k m' ∧ m'.node? = some (.command code position) ∧
      Refused code position m'.state f := by
  constructor
  · rintro ⟨n, t, h⟩
    obtain ⟨l, m', -, hrun, hlast⟩ := exists_last_move h
    obtain ⟨code, position, hnode, -, hrefused⟩ := move_eq_failed_iff.1 hlast
    obtain ⟨k, hstep⟩ := exists_makesStep hrun (stop?_of_node hnode)
    exact ⟨k, m', code, position, hstep, hnode, hrefused⟩
  · rintro ⟨k, m', code, position, hstep, hnode, hrefused⟩
    obtain ⟨n, hrun, -, -⟩ := makesStep_iff.1 hstep
    have hlast : m'.move = .failed f m'.state.count :=
      move_eq_failed_iff.2 ⟨code, position, hnode, rfl, hrefused⟩
    exact ⟨n + 1, m'.state.count, by rw [run_append hrun, run_of_failed hlast]⟩

end Machine

/-! ## The theorem -/

/-- **A failing command leaves the state as it was.**  A run that fails fails at its last step, with a
    command, and what it leaves behind is the state before that step but for one step more.  It fails at
    the left edge exactly if the command is to go to the left and the head is there, for want of input
    exactly if the command asks for a byte and none is left, and with a command that there is not, named
    with its position, exactly if there is no such command.  A position of too many digits cannot be named;
    that is then the failure.  A run fails exactly if a step of it is with a command that is refused for
    one of these reasons, and never at a loop. -/
theorem Program.failure_is_refusal (p : Program) (chunk : Chunk) (input : List UInt8) :
    (∀ n f t, p.run n chunk input = .failed f t →
      ∃ m code position,
        ((Machine.start p (State.initial chunk input)).stops n).getLast? = some m ∧
        m.node? = some (.command code position) ∧
        t = { m.state with steps := m.state.steps + 1 } ∧
        (f = .fault .leftEdge ↔ Command.ofCode? code = some .left ∧ m.state.tape.head = 0) ∧
        (f = .fault .noInput ↔ Command.ofCode? code = some .input ∧ m.state.input = []) ∧
        (∀ c q isNumber hasPlace, f = .fault (.undefined c q isNumber hasPlace) ↔
          Command.ofCode? code = none ∧ c = code ∧ q = Fault.positionValue position) ∧
        (f = .tooManyDigits ↔
          Command.ofCode? code = none ∧ ¬ (Fault.positionValue position).isWritable)) ∧
    (∀ f, (∃ n t, p.run n chunk input = .failed f t) ↔
      ∃ k m code position, (Machine.start p (State.initial chunk input)).MakesStep k m ∧
        m.node? = some (.command code position) ∧ Refused code position m.state f) ∧
    (∀ n m body position, p.run n chunk input = .unfinished m →
      m.node? = some (.loop body position) → ∃ m', p.run (n + 1) chunk input = .unfinished m') := by
  refine ⟨?_, fun f => Machine.fails_iff, ?_⟩
  · intro n f t h
    obtain ⟨k, m, -, hlast, hstop⟩ := Machine.getLast?_stops h
    obtain ⟨code, position, hnode, ht, hrefused⟩ := Machine.move_eq_failed_iff.1 hlast
    -- there is one reason for the refusal, so the failure is `g` if `g` is a reason
    have hreason : ∀ g, f = g ↔ Refused code position m.state g :=
      fun g => ⟨fun hg => hg ▸ hrefused, fun hg => hrefused.unique hg⟩
    refine ⟨m, code, position, hstop, hnode, ht, ?_, ?_, ?_, ?_⟩
    · rw [hreason, Refused.leftEdge_iff]
    · rw [hreason, Refused.noInput_iff]
    · intro c q isNumber hasPlace
      rw [hreason, Refused.undefined_iff]
    · rw [hreason, Refused.tooManyDigits_iff]
  · intro n m body position hrun hnode
    obtain ⟨m', hmove⟩ := Machine.move_of_loop hnode
    refine ⟨m', ?_⟩
    have hnext : p.run (n + 1) chunk input = m.run 1 := Machine.run_append hrun 1
    rw [hnext, Machine.run_of_going hmove]
    rfl

end TapeLang
