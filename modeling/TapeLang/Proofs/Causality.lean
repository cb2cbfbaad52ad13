/-
  Causality — a run does not know what input is still to come.

  The input is a queue, and only one command looks at it: what is behind the first byte is never seen, and
  that there is no byte at all is seen by the failure alone.  So a run on some input, and a run on the
  same input with more behind it (`State.more`), make the same moves, with more left over in the second,
  until the first fails for want of input (`Machine.run_more`).  At that very command the second has
  exactly the additional bytes before it, and it has put out what the first has.
-/
import TapeLang.Proofs.Run

namespace TapeLang

/-! ## More input -/

/-- The state with more input behind what is left. -/
def State.more (s : State) (extra : List UInt8) : State := { s with input := s.input ++ extra }

/-- The effect with more input behind what is left. -/
def Effect.more (e : Effect) (extra : List UInt8) : Effect :=
  match e with
  | done s => .done (s.more extra)
  | failed f s => .failed f (s.more extra)

/-- The machine with more input behind what is left. -/
def Machine.more (m : Machine) (extra : List UInt8) : Machine := ⟨m.cursors, m.state.more extra⟩

/-- What a move leads to, with more input behind what is left. -/
def Progress.more (p : Progress) (extra : List UInt8) : Progress :=
  match p with
  | going m => .going (m.more extra)
  | finished s => .finished (s.more extra)
  | failed f s => .failed f (s.more extra)

/-- The end of a run, with more input behind what is left. -/
def Ending.more (e : Ending) (extra : List UInt8) : Ending :=
  match e with
  | finished s => .finished (s.more extra)
  | failed f s => .failed f (s.more extra)
  | unfinished m => .unfinished (m.more extra)

/-- A command does not look behind the first byte of the input. -/
theorem Acts.more {code : Value} {position : Option Int} {s : State} {e : Effect}
    (h : Acts code position s e) (he : e ≠ .failed (.fault .noInput) s) (extra : List UInt8) :
    Acts code position (s.more extra) (e.more extra) := by
  cases h with
  | right hc => exact .right hc
  | left hc hn => exact .left (s := s.more extra) hc hn
  | edge hc hn => exact .edge (s := s.more extra) hc hn
  | increment hc => exact .increment hc
  | decrement hc => exact .decrement hc
  | output hc => exact .output hc
  | @input b rest hc hs =>
    have hfirst : (s.more extra).input = b :: (rest ++ extra) := by
      rw [State.more, hs]
      rfl
    exact .input hc hfirst
  | exhausted hc hs => exact absurd rfl he
  | unknown hc => exact .unknown hc

namespace Machine

/-! ## Moves -/

/-- **One move** is made in the same way with more input, unless it fails for want of input. -/
theorem move_more {m : Machine} (h : ∀ t, m.move ≠ .failed (.fault .noInput) t) (extra : List UInt8) :
    (m.more extra).move = m.move.more extra := by
  have hmoves := m.moves_move
  generalize m.move = next at hmoves h ⊢
  cases hmoves with
  | finish => rfl
  | drop => rfl
  | @skip _ _ _ _ _ s hcell => exact move_skip (s := s.more extra) hcell
  | @enter _ _ _ _ _ s hcell => exact move_enter (s := s.more extra) hcell
  | @done _ _ code position _ s t he =>
    have hacts := acts_execute code position s.count
    rw [he] at hacts
    exact move_done (hacts.more (by intro hfail; cases hfail) extra).execute_eq
  | @fail _ _ code position _ s t f he =>
    have hacts := acts_execute code position s.count
    rw [he] at hacts
    refine move_fail (hacts.more ?_ extra).execute_eq
    rintro ⟨rfl, rfl⟩
    exact h _ rfl

/-- **A run** is the same with more input, until it fails for want of input. -/
theorem run_more {n : Nat} {m : Machine} (h : ∀ t, m.run n ≠ .failed (.fault .noInput) t)
    (extra : List UInt8) : (m.more extra).run n = (m.run n).more extra := by
  induction n generalizing m with
  | zero => rfl
  | succ n ih =>
    have hmore := move_more (fun t ht => h t (run_of_failed ht n)) extra
    cases hmove : m.move with
    | going m' =>
      rw [hmove] at hmore
      rw [run_of_going hmove] at h ⊢
      rw [run_of_going hmore]
      exact ih h
    | finished s =>
      rw [hmove] at hmore
      rw [run_of_finished hmove, run_of_finished hmore]
      rfl
    | failed f s =>
      rw [hmove] at hmore
      rw [run_of_failed hmove, run_of_failed hmore]
      rfl

/-- Where a run fails for want of input, a machine asks for a byte and there is none. -/
theorem exists_asking {n : Nat} {m : Machine} {t : State} (h : m.run n = .failed (.fault .noInput) t) :
    ∃ k m' code position, m.run k = .unfinished m' ∧ m'.node? = some (.command code position) ∧
      Command.ofCode? code = some .input ∧ m'.state.input = [] ∧ t = m'.state.count := by
  obtain ⟨k, m', -, hrun, hlast⟩ := exists_last_move h
  obtain ⟨code, position, hnode, ht, hrefused⟩ := move_eq_failed_iff.1 hlast
  obtain ⟨hc, hinput⟩ := Refused.noInput_iff.1 hrefused
  exact ⟨k, m', code, position, hrun, hnode, hc, hinput, ht⟩

/-! ## Output -/

/-- A move takes no output back. -/
theorem output_prefix_move (m : Machine) :
    m.state.output.toList <+: m.move.state.output.toList := by
  have hmoves := m.moves_move
  generalize m.move = next at hmoves ⊢
  cases hmoves with
  | finish => exact List.prefix_refl _
  | drop => exact List.prefix_refl _
  | skip => exact List.prefix_refl _
  | enter => exact List.prefix_refl _
  | @done _ _ code position _ s t he =>
    have hacts := acts_execute code position s.count
    rw [he] at hacts
    cases hacts with
    | right | left | increment | decrement | input => exact List.prefix_refl _
    | output =>
      show s.output.toList <+: (s.output.push _).toList
      rw [Array.toList_push]
      exact List.prefix_append _ _
  | @fail _ _ code position _ s t f he =>
    have hacts := acts_execute code position s.count
    rw [he] at hacts
    cases hacts <;> exact List.prefix_refl _

/-- A run takes no output back. -/
theorem output_prefix_run (m : Machine) (n : Nat) :
    m.state.output.toList <+: (m.run n).state.output.toList := by
  induction n generalizing m with
  | zero => exact List.prefix_refl _
  | succ n ih =>
    have hfirst := m.output_prefix_move
    obtain ⟨m', hmove⟩ | hended := m.move.going_or_ended
    · rw [hmove] at hfirst
      rw [run_of_going hmove]
      exact hfirst.trans (ih m')
    · rw [run_of_ended hended, Progress.ending_state]
      exact hfirst

end Machine

/-! ## The theorem -/

/-- **Runs are causal in the input.**  A run that ends on some input, but not for want of it, ends on more
    input in the same way and after as many moves, and what it leaves of the input is followed by the
    additional bytes.  If a run fails for want of input, the run on more input comes to the step with the
    same number, a command that asks for a byte, and there it has the same tape, steps and output, and the
    additional bytes as its input; from there on the output only grows.  A run that never ends does not
    end on more input. -/
theorem Program.run_causal (p : Program) (chunk : Chunk) (input extra : List UInt8) :
    (∀ n s, p.run n chunk input = .finished s →
      p.run n chunk (input ++ extra) = .finished { s with input := s.input ++ extra }) ∧
    (∀ n f s, f ≠ .fault .noInput → p.run n chunk input = .failed f s →
      p.run n chunk (input ++ extra) = .failed f { s with input := s.input ++ extra }) ∧
    (∀ n s, p.run n chunk input = .failed (.fault .noInput) s →
      ∃ k m code position, p.run k chunk (input ++ extra) = .unfinished m ∧
        (Machine.start p (State.initial chunk (input ++ extra))).MakesStep m.state.steps m ∧
        m.node? = some (.command code position) ∧ Command.ofCode? code = some .input ∧
        m.state.count = { s with input := extra } ∧
        ∀ l, k ≤ l → s.output.toList <+: (p.run l chunk (input ++ extra)).state.output.toList) ∧
    ((Machine.start p (State.initial chunk input)).Endless →
      (Machine.start p (State.initial chunk (input ++ extra))).Endless) := by
  have hmore : ∀ n, (∀ t, p.run n chunk input ≠ .failed (.fault .noInput) t) →
      p.run n chunk (input ++ extra) = (p.run n chunk input).more extra :=
    fun n h => Machine.run_more h extra
  refine ⟨?_, ?_, ?_, ?_⟩
  · intro n s hs
    rw [hmore n (fun t ht => nomatch hs.symm.trans ht), hs]
    rfl
  · intro n f s hf hs
    rw [hmore n (fun t ht => hf (by rw [hs] at ht; cases ht; rfl)), hs]
    rfl
  · intro n s hs
    obtain ⟨k, m, code, position, hrun, hnode, hc, hinput, rfl⟩ := Machine.exists_asking hs
    have hsame : p.run k chunk (input ++ extra) = .unfinished (m.more extra) := by
      have hk : p.run k chunk input = .unfinished m := hrun
      rw [hmore k (fun t ht => nomatch hk.symm.trans ht), hk]
      rfl
    refine ⟨k, m.more extra, code, position, hsame, ?_, hnode, hc, ?_, ?_⟩
    · exact Machine.makesStep_iff.2
        ⟨k, hsame, Machine.stop?_of_node hnode, (Nat.zero_add _).symm⟩
    · show (m.state.more extra).count = { m.state.count with input := extra }
      rw [State.more, hinput]
      rfl
    · intro l hl
      obtain ⟨d, rfl⟩ := Nat.exists_eq_add_of_le hl
      have hlater : p.run (k + d) chunk (input ++ extra) = (m.more extra).run d :=
        Machine.run_append hsame d
      rw [hlater]
      exact (m.more extra).output_prefix_run d
  · intro h n
    obtain ⟨m, hm⟩ := h n
    have hn : p.run n chunk input = .unfinished m := hm
    refine ⟨m.more extra, ?_⟩
    show p.run n chunk (input ++ extra) = _
    rw [hmore n (fun t ht => nomatch hn.symm.trans ht), hn]
    rfl

end TapeLang
