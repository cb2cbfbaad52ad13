/-
  Ledger — the state of a run adds up.

  A state does not say how it came about.  `Machine.deeds` does: the times that a command was carried out
  in a run, in order, each as the states before and after it.  From these times alone it is known which
  bytes were taken from the input and what is left of it, what was put out, and where the head is; and the
  steps are the commands that were started and the loop tests, counted together.

  The crux is `State.Settles`, which says that two states differ by what was done in between.  One move
  settles its own deed and changes nothing else that is accounted for (`Machine.settles_move`), and what is
  settled can be put together (`State.Settles.trans`), so a run settles all its deeds.
-/
import TapeLang.Proofs.Run

namespace TapeLang

/-! ## Deeds -/

namespace Machine

/-- The states before and after the next move of a machine, if the move carries command `c` out. -/
def deed? (c : Command) (m : Machine) : Option (State × State) :=
  match m.node?, m.move with
  | some (.command code _), .going m' =>
    if Command.ofCode? code = some c then some (m.state, m'.state) else none
  | _, _ => none

/-- The states before and after each time that command `c` is carried out in the first `n` moves. -/
def deeds (c : Command) (n : Nat) (m : Machine) : List (State × State) := (m.stops n).filterMap (deed? c)

/-- A command is about to be started. -/
def atCommand (m : Machine) : Bool :=
  match m.node? with
  | some (.command ..) => true
  | _ => false

/-- A loop is about to be tested. -/
def atLoop (m : Machine) : Bool :=
  match m.node? with
  | some (.loop ..) => true
  | _ => false

section

variable {m m' : Machine} {c : Command}

theorem deed?_of_no_node (h : m.node? = none) : m.deed? c = none := by
  rw [deed?, h]

theorem deed?_of_loop {body : List Node} {position : Option Int}
    (h : m.node? = some (.loop body position)) : m.deed? c = none := by
  rw [deed?, h]

/-- What cannot be carried out is no deed. -/
theorem deed?_of_ended (h : ∀ m', m.move ≠ .going m') : m.deed? c = none := by
  unfold deed?
  split
  · rename_i hmove
    exact absurd hmove (h _)
  · rfl

/-- A command that is carried out is a deed of that command and of no other. -/
theorem deed?_of_going {code : Value} {position : Option Int} {done : Command}
    (hnode : m.node? = some (.command code position)) (hcode : Command.ofCode? code = some done)
    (hmove : m.move = .going m') :
    m.deed? c = if done = c then some (m.state, m'.state) else none := by
  simp only [deed?, hnode, hmove, hcode, Option.some.injEq]

theorem deeds_of_going (h : m.move = .going m') (n : Nat) :
    m.deeds c (n + 1) = (m.deed? c).toList ++ m'.deeds c n :=
  filterMap_stops_of_going (fun _ => deed?_of_no_node) h n

theorem deeds_of_ended (h : ∀ m', m.move ≠ .going m') (n : Nat) : m.deeds c (n + 1) = [] := by
  rw [deeds, filterMap_stops_of_ended (fun _ => deed?_of_no_node) h n, deed?_of_ended h]
  rfl

theorem deeds_prefix (c : Command) (m : Machine) (n more : Nat) : m.deeds c n <+: m.deeds c (n + more) :=
  (m.stops_prefix n more).filterMap (deed? c)

end

end Machine

/-! ## What is settled -/

/-- Two states differ by deeds: the first has as its input the bytes that were taken and the input of the
    second; the output of the second is that of the first and what was put out; and the head has gone as
    often to the right, and to the left, as it was sent there. -/
structure State.Settles (deeds : Command → List (State × State)) (s t : State) : Prop where
  /-- What was taken was put under the head. -/
  input : (deeds .input).map (·.2.tape.cell) ++ t.input = s.input
  /-- What was put out was under the head. -/
  output : t.output.toList = s.output.toList ++ (deeds .output).map (·.1.tape.cell)
  /-- The way of the head. -/
  head : t.tape.head + (deeds .left).length = s.tape.head + (deeds .right).length

theorem Tape.write_cell (t : Tape) (b : UInt8) : (t.write b).cell = b := by
  rw [cell, write_head, write_byteAt, if_pos rfl]

namespace State.Settles

variable {s t u : State} {deeds later : Command → List (State × State)}

/-- Without a deed all is as it was. -/
theorem none (hinput : t.input = s.input) (houtput : t.output = s.output)
    (hhead : t.tape.head = s.tape.head) (hdeeds : ∀ c, deeds c = []) : s.Settles deeds t := by
  refine ⟨?_, ?_, ?_⟩
  · rw [hdeeds, hinput]
    rfl
  · rw [hdeeds, houtput]
    exact (List.append_nil _).symm
  · rw [hdeeds, hdeeds, hhead]

theorem congr (h : s.Settles deeds t) (hdeeds : ∀ c, later c = deeds c) : s.Settles later t := by
  obtain rfl : later = deeds := funext hdeeds
  exact h

/-- Deeds after deeds. -/
theorem trans (h : s.Settles deeds t) (h' : t.Settles later u) :
    s.Settles (fun c => deeds c ++ later c) u := by
  refine ⟨?_, ?_, ?_⟩
  · rw [List.map_append, List.append_assoc, h'.input, h.input]
  · rw [List.map_append, ← List.append_assoc, ← h.output, h'.output]
  · have hfirst := h.head
    have hnext := h'.head
    rw [List.length_append, List.length_append]
    omega

end State.Settles

/-- A command that is carried out settles itself. -/
theorem Acts.settles {code : Value} {position : Option Int} {s t : State}
    (h : Acts code position s.count (.done t)) :
    ∃ c, Command.ofCode? code = some c ∧ s.Settles (fun d => if c = d then [(s, t)] else []) t := by
  cases h with
  | right hc => exact ⟨.right, hc, rfl, (List.append_nil _).symm, by simp [Tape.right]⟩
  | left hc hn =>
    rw [State.count_tape] at hn
    exact ⟨.left, hc, rfl, (List.append_nil _).symm, by simp [Tape.seek, hn]⟩
  | increment hc => exact ⟨.increment, hc, rfl, (List.append_nil _).symm, by simp [Tape.increment]⟩
  | decrement hc => exact ⟨.decrement, hc, rfl, (List.append_nil _).symm, by simp [Tape.decrement]⟩
  | output hc => exact ⟨.output, hc, rfl, Array.toList_push, by simp⟩
  | input hc hs =>
    rw [State.count_input] at hs
    exact ⟨.input, hc, by simp [hs, Tape.write_cell], (List.append_nil _).symm, by simp⟩

namespace Machine

/-- **One move** settles its deed. -/
theorem settles_move (m : Machine) : m.state.Settles (fun c => (m.deed? c).toList) m.move.state := by
  have hmoves := m.moves_move
  generalize hmove : m.move = next at hmoves
  cases hmoves with
  | finish => exact .none rfl rfl rfl fun c => rfl
  | drop => exact .none rfl rfl rfl fun c => rfl
  | skip => exact .none rfl rfl (Tape.reach_head _) fun c => by rw [deed?_of_loop rfl]; rfl
  | enter => exact .none rfl rfl (Tape.reach_head _) fun c => by rw [deed?_of_loop rfl]; rfl
  | @done _ _ code position _ s t he =>
    have hacts := acts_execute code position s.count
    rw [he] at hacts
    obtain ⟨done, hcode, hsettles⟩ := hacts.settles
    refine hsettles.congr fun c => ?_
    rw [deed?_of_going rfl hcode hmove]
    split <;> rfl
  | @fail _ _ code position _ s t f he =>
    -- a refusal leaves the state as it was, and it is no deed of the command that was refused
    obtain ⟨rfl, -⟩ := execute_eq_failed_iff.1 he
    refine .none rfl rfl rfl fun c => ?_
    rw [deed?_of_ended fun m' h => nomatch hmove.symm.trans h]
    rfl

/-- **A run** settles its deeds. -/
theorem settles_run (m : Machine) (n : Nat) : m.state.Settles (m.deeds · n) (m.run n).state := by
  -- by the first move, for the deeds of a run begin with the one of the first move
  induction n generalizing m with
  | zero => exact .none rfl rfl rfl fun c => rfl
  | succ n ih =>
    have hfirst := m.settles_move
    obtain ⟨m', hmove⟩ | hended := m.move.going_or_ended
    · rw [hmove] at hfirst
      simp only [run_of_going hmove, deeds_of_going hmove]
      exact hfirst.trans (ih m')
    · rw [run_of_ended hended, Progress.ending_state]
      refine hfirst.congr fun c => ?_
      rw [deeds_of_ended hended, deed?_of_ended hended]
      rfl

/-! ## Steps -/

/-- A step is with a command or with a loop, and not with both. -/
theorem atLoop_eq_not_atCommand {n : Nat} {m m' : Machine} (h : m' ∈ m.stops n) :
    m'.atLoop = !m'.atCommand := by
  obtain ⟨k, hk⟩ := List.getElem?_of_mem h
  obtain ⟨-, -, hstop, -⟩ := makesStep_iff.1 ⟨n, hk⟩
  obtain ⟨node, hnode, -⟩ := Option.map_eq_some_iff.1 hstop
  rw [atLoop, atCommand, hnode]
  cases node <;> rfl

/-- The steps are the commands that were started and the loop tests. -/
theorem length_stops (m : Machine) (n : Nat) :
    (m.stops n).length = (m.stops n).countP (·.atCommand) + (m.stops n).countP (·.atLoop) := by
  -- a step that is not with a command is with a loop
  have hloops : (m.stops n).countP (·.atLoop) = (m.stops n).countP (fun m => ¬m.atCommand) :=
    List.countP_congr fun m' hm' => by rw [atLoop_eq_not_atCommand hm']; simp
  rw [hloops]
  exact List.length_eq_countP_add_countP _

end Machine

/-! ## The theorem -/

namespace Program

/-- The states before and after each time that command `c` is carried out in the first `n` moves of a
    program on some input. -/
def deeds (c : Command) (n : Nat) (chunk : Chunk) (p : Program) (input : List UInt8) :
    List (State × State) :=
  (Machine.start p (State.initial chunk input)).deeds c n

/-- **The state of a run adds up.**  In every state that a run comes to, the bytes taken so far, in order,
    and the input left are the input, and as many bytes were taken as a byte was asked for with success;
    the output is what was under the head each time that a byte was put out, in order, and what a later
    state has is more of it; the head is as many cells from the left edge as it went to the right more
    often than to the left; the steps are the commands that were started and the loop tests; and all cells
    are bytes.  If the run comes to the end of the program, this output is the result, and if it fails,
    the result is the failure and no output. -/
theorem run_adds_up (p : Program) (chunk : Chunk) (input : List UInt8) (n : Nat) :
    ((p.deeds .input n chunk input).map (·.2.tape.cell) ++ (p.run n chunk input).state.input = input ∧
      input.length = (p.deeds .input n chunk input).length + (p.run n chunk input).state.input.length) ∧
    ((p.run n chunk input).state.output.toList =
        (p.deeds .output n chunk input).map (·.1.tape.cell) ∧
      ∀ more, (p.run n chunk input).state.output.toList <+:
        (p.run (n + more) chunk input).state.output.toList) ∧
    ((p.run n chunk input).state.tape.head : Int) =
      (p.deeds .right n chunk input).length - (p.deeds .left n chunk input).length ∧
    (p.run n chunk input).state.steps =
      ((Machine.start p (State.initial chunk input)).stops n).countP (·.atCommand) +
        ((Machine.start p (State.initial chunk input)).stops n).countP (·.atLoop) ∧
    (∀ b ∈ (p.run n chunk input).state.tape.cells, b.toNat ≤ 255) ∧
    (∀ s, p.run n chunk input = .finished s →
      (p.run n chunk input).result = .ok ((p.deeds .output n chunk input).map (·.1.tape.cell))) ∧
    (∀ f s, p.run n chunk input = .failed f s → (p.run n chunk input).result = .error f) := by
  have hsettles : ∀ k, (State.initial chunk input).Settles (p.deeds · k chunk input)
      (p.run k chunk input).state := fun k => Machine.settles_run _ k
  have houtput : ∀ k, (p.run k chunk input).state.output.toList =
      (p.deeds .output k chunk input).map (·.1.tape.cell) := fun k => (hsettles k).output
  refine ⟨⟨(hsettles n).input, ?_⟩, ⟨houtput n, ?_⟩, ?_, ?_, ?_, ?_, ?_⟩
  · have hlength := congrArg List.length (hsettles n).input
    rw [List.length_append, List.length_map] at hlength
    exact hlength.symm
  · intro more
    rw [houtput, houtput]
    exact (Machine.deeds_prefix .output _ n more).map _
  · have hhead : (p.run n chunk input).state.tape.head + (p.deeds .left n chunk input).length =
        0 + (p.deeds .right n chunk input).length := (hsettles n).head
    omega
  · have hsteps : (p.run n chunk input).state.steps =
        0 + ((Machine.start p (State.initial chunk input)).stops n).length := Machine.run_steps _ n
    rw [hsteps, Nat.zero_add, Machine.length_stops]
  · exact fun b _ => Nat.le_of_lt_succ b.toNat_lt
  · intro s hs
    rw [← houtput, hs]
    rfl
  · intro f s hs
    rw [hs]
    rfl

end Program

end TapeLang
