/-
  Structured — the meaning of a program by its structure, and the walk that finds it.

  1. **Specification** — `Program.Ends` says by rules what a sequence of nodes does to a state, with no
     stack and no budget: a command counts a step and does what the table of `Acts` says; a loop counts a
     step for its test, is over on a zero cell, and on any other means its body and then itself again; a
     sequence is run from left to right, and the first failure ends it.  No rule says what a program
     does that never ends: it has no outcome.

  2. **The walk finds the outcome** — `Program.Ends.leads`, by recursion on the derivation.  What a node
     does it does on top of any cursors, and it leaves its own cursor one place further on.

  3. **The outcome of the walk is derived** — the crux is `Cursor.Outcome`, the outcome of a whole stack of
     cursors: each does what is left of its own sequence, the innermost first.  A cursor below the top
     stands *at* its loop and not behind it, so what it has left begins with the loop itself, and that
     is what the rule for loops asks for after the body.  One move taken back keeps the outcome.
-/
import TapeLang.Proofs.Run

namespace TapeLang

/-! ## The rules -/

mutual

/-- A node, started in a state, ends in an effect. -/
inductive Node.Ends : Node → State → Effect → Prop where
  /-- A command counts a step and acts. -/
  | command {code : Value} {position : Option Int} {s : State} {e : Effect}
      (h : Acts code position s.count e) : Node.Ends (.command code position) s e
  /-- A loop is over on a zero cell. -/
  | over {body : List Node} {position : Option Int} {s : State} (h : s.test.tape.cell = 0) :
    Node.Ends (.loop body position) s (.done s.test)
  /-- On any other cell it is its body, and then itself again. -/
  | again {body : List Node} {position : Option Int} {s t : State} {e : Effect}
      (h : s.test.tape.cell ≠ 0) (hbody : Program.Ends body s.test (.done t))
      (hloop : Node.Ends (.loop body position) t e) : Node.Ends (.loop body position) s e
  /-- A failure in the body is one of the loop. -/
  | broken {body : List Node} {position : Option Int} {s t : State} {f : Failure}
      (h : s.test.tape.cell ≠ 0) (hbody : Program.Ends body s.test (.failed f t)) :
    Node.Ends (.loop body position) s (.failed f t)

/-- A sequence of nodes, started in a state, ends in an effect. -/
inductive Program.Ends : List Node → State → Effect → Prop where
  /-- Where there is no node, nothing is done. -/
  | nil {s : State} : Program.Ends [] s (.done s)
  /-- The first node is run, then the rest. -/
  | cons {n : Node} {rest : List Node} {s t : State} {e : Effect} (hnode : Node.Ends n s (.done t))
      (hrest : Program.Ends rest t e) : Program.Ends (n :: rest) s e
  /-- A failure of the first node ends the sequence. -/
  | stop {n : Node} {rest : List Node} {s t : State} {f : Failure}
      (hnode : Node.Ends n s (.failed f t)) : Program.Ends (n :: rest) s (.failed f t)

end

/-! ## The walk finds the outcome -/

/-- What a part of a program that ends in an effect leads a machine to: the machine that comes next in
    the state left behind, or the failure. -/
def Machine.Leads (m : Machine) (next : State → Machine) : Effect → Prop
  | .done t => ∃ n, m.run n = .unfinished (next t)
  | .failed f t => ∃ n, m.run n = .failed f t

namespace Machine

theorem Leads.of_run {m m' : Machine} {next : State → Machine} {e : Effect} {n : Nat}
    (h : m'.Leads next e) (hn : m.run n = .unfinished m') : m.Leads next e := by
  cases e with
  | done t =>
    obtain ⟨k, hk⟩ := h
    exact ⟨n + k, by rw [run_append hn, hk]⟩
  | failed f t =>
    obtain ⟨k, hk⟩ := h
    exact ⟨n + k, by rw [run_append hn, hk]⟩

theorem Leads.of_going {m m' : Machine} {next : State → Machine} {e : Effect}
    (h : m'.Leads next e) (hm : m.move = .going m') : m.Leads next e :=
  h.of_run (n := 1) (run_of_going hm 0)

end Machine

mutual

/-- A node does what it does on top of any cursors. -/
theorem Node.Ends.leads {n : Node} {s : State} {e : Effect} (before after : List Node)
    (below : List Cursor) : Node.Ends n s e →
      Machine.Leads ⟨⟨before, n :: after⟩ :: below, s⟩
        (fun t => ⟨⟨n :: before, after⟩ :: below, t⟩) e
  | .command (e := .done t) h => ⟨1, Machine.run_of_going (Machine.move_done h.execute_eq) 0⟩
  | .command (e := .failed f t) h => ⟨1, Machine.run_of_failed (Machine.move_fail h.execute_eq) 0⟩
  | .over h => by
    have hcell : s.tape.cell = 0 := by simpa using h
    exact ⟨1, Machine.run_of_going (Machine.move_skip hcell) 0⟩
  | @Node.Ends.again body position _ t _ h hbody hloop => by
    have hcell : s.tape.cell ≠ 0 := by simpa using h
    obtain ⟨k, hk⟩ := hbody.leads [] (⟨before, .loop body position :: after⟩ :: below)
    -- the cursor at the end of the body is dropped, and the one below stands at the loop again
    have hdrop :=
      Machine.move_drop (body.reverse ++ []) (⟨before, .loop body position :: after⟩ :: below) t
    have hback := (hloop.leads before after below).of_going hdrop
    exact (hback.of_run hk).of_going (Machine.move_enter hcell)
  | @Node.Ends.broken body position _ _ _ h hbody => by
    have hcell : s.tape.cell ≠ 0 := by simpa using h
    obtain ⟨k, hk⟩ := hbody.leads [] (⟨before, .loop body position :: after⟩ :: below)
    exact ⟨k + 1, by rw [Machine.run_of_going (Machine.move_enter hcell)]; exact hk⟩

/-- A sequence of nodes does what it does on top of any cursors. -/
theorem Program.Ends.leads {nodes : List Node} {s : State} {e : Effect} (before : List Node)
    (below : List Cursor) : Program.Ends nodes s e →
      Machine.Leads ⟨⟨before, nodes⟩ :: below, s⟩
        (fun t => ⟨⟨nodes.reverse ++ before, []⟩ :: below, t⟩) e
  | .nil => ⟨0, rfl⟩
  | @Program.Ends.cons n rest _ _ _ hnode hrest => by
    obtain ⟨k, hk⟩ := hnode.leads before rest below
    simpa using (hrest.leads (n :: before) below).of_run hk
  | .stop hnode => hnode.leads before _ below

end

/-- A machine at the start of a program comes to the outcome of the program. -/
theorem Program.Ends.endsIn {p : Program} {s : State} {e : Effect} (h : Program.Ends p s e) :
    (Machine.start p s).EndsIn e := by
  have hleads := h.leads [] []
  cases e with
  | done t =>
    obtain ⟨k, hk⟩ := hleads
    have hend : (Machine.mk [⟨p.reverse ++ [], []⟩] t).EndsIn (.done t) := ⟨2, rfl⟩
    exact hend.of_run hk
  | failed f t => exact hleads

/-! ## The outcome of the walk is derived -/

/-- The outcome of a stack of cursors: each does what is left of its sequence, innermost first. -/
def Cursor.Outcome : List Cursor → State → Effect → Prop
  | [], s, e => e = .done s
  | c :: below, s, e =>
    (∃ t, Program.Ends c.after s (.done t) ∧ Cursor.Outcome below t e) ∨
      ∃ f t, Program.Ends c.after s (.failed f t) ∧ e = .failed f t

namespace Cursor.Outcome

variable {before after body : List Node} {below : List Cursor} {s t : State} {e : Effect}

/-- What a node does can be put before what is left behind it. -/
theorem of_node {n : Node} (hnode : Node.Ends n s (.done t))
    (h : Cursor.Outcome (⟨n :: before, after⟩ :: below) t e) :
    Cursor.Outcome (⟨before, n :: after⟩ :: below) s e := by
  rcases h with ⟨u, hrest, hbelow⟩ | ⟨f, u, hrest, rfl⟩
  · exact Or.inl ⟨u, .cons hnode hrest, hbelow⟩
  · exact Or.inr ⟨f, u, .cons hnode hrest, rfl⟩

/-- The rest of a body, and what is left from its loop on, make up what is left at a loop entered. -/
theorem of_enter {position : Option Int} (hcell : s.test.tape.cell ≠ 0)
    (h : Cursor.Outcome (Cursor.start body :: ⟨before, .loop body position :: after⟩ :: below) s.test e) :
    Cursor.Outcome (⟨before, .loop body position :: after⟩ :: below) s e := by
  rcases h with ⟨u, hbody, hloop⟩ | ⟨f, u, hbody, rfl⟩
  · -- the pass through the body goes before what the loop does from `u` on
    rcases hloop with ⟨v, hafter, hbelow⟩ | ⟨f, v, hafter, rfl⟩
    · cases hafter with
      | cons hnode hrest => exact Or.inl ⟨v, .cons (.again hcell hbody hnode) hrest, hbelow⟩
    · cases hafter with
      | cons hnode hrest => exact Or.inr ⟨f, v, .cons (.again hcell hbody hnode) hrest, rfl⟩
      | stop hnode => exact Or.inr ⟨f, v, .stop (.again hcell hbody hnode), rfl⟩
  · exact Or.inr ⟨f, u, .stop (.broken hcell hbody), rfl⟩

end Cursor.Outcome

namespace Machine

/-- **One move taken back.**  What a machine ends in by the rules, it ends in before a move as well. -/
theorem outcome_of_move {m m' : Machine} {e : Effect} (hm : m.move = .going m')
    (h : Cursor.Outcome m'.cursors m'.state e) : Cursor.Outcome m.cursors m.state e := by
  obtain ⟨cursors, s⟩ := m
  match cursors with
  | [] => cases hm
  | ⟨before, []⟩ :: below =>
    cases hm
    exact Or.inl ⟨s, .nil, h⟩
  | ⟨before, .command code position :: after⟩ :: below =>
    have hacts := acts_execute code position s.count
    cases he : s.count.execute code position with
    | done t =>
      rw [move_done he] at hm
      cases hm
      exact .of_node (.command (he ▸ hacts)) h
    | failed f t =>
      rw [move_fail he] at hm
      cases hm
  | ⟨before, .loop body position :: after⟩ :: below =>
    by_cases hcell : s.tape.cell = 0
    · rw [move_skip hcell] at hm
      cases hm
      exact .of_node (.over (by simpa using hcell)) h
    · rw [move_enter hcell] at hm
      cases hm
      exact .of_enter (by simpa using hcell) h

/-- A move that ends the run ends it as the rules say. -/
theorem outcome_of_last_move {m : Machine} {e : Effect} (hm : m.run 1 = e.ending) :
    Cursor.Outcome m.cursors m.state e := by
  obtain ⟨cursors, s⟩ := m
  match cursors with
  | [] => exact (Effect.ending_injective (e := .done s) hm).symm
  | ⟨before, []⟩ :: below => exact absurd hm.symm (e.ending_ne_unfinished _)
  | ⟨before, .command code position :: after⟩ :: below =>
    have hacts := acts_execute code position s.count
    cases he : s.count.execute code position with
    | done t =>
      rw [run_of_going (move_done he)] at hm
      exact absurd hm.symm (e.ending_ne_unfinished _)
    | failed f t =>
      rw [run_of_failed (move_fail he)] at hm
      have hfail : Effect.failed f t = e := Effect.ending_injective hm
      exact Or.inr ⟨f, t, .stop (.command (he ▸ hacts)), hfail.symm⟩
  | ⟨before, .loop body position :: after⟩ :: below =>
    by_cases hcell : s.tape.cell = 0
    · rw [run_of_going (move_skip hcell)] at hm
      exact absurd hm.symm (e.ending_ne_unfinished _)
    · rw [run_of_going (move_enter hcell)] at hm
      exact absurd hm.symm (e.ending_ne_unfinished _)

/-- What a machine ends in is what the rules say of its cursors. -/
theorem EndsIn.outcome {m : Machine} {e : Effect} (h : m.EndsIn e) :
    Cursor.Outcome m.cursors m.state e := by
  obtain ⟨n, hn⟩ := h
  -- from the end of the run backwards, one move at a time
  induction n generalizing m with
  | zero => exact absurd hn.symm (e.ending_ne_unfinished m)
  | succ n ih =>
    cases hmove : m.move with
    | going m' =>
      rw [run_of_going hmove] at hn
      exact outcome_of_move hmove (ih hn)
    | finished s =>
      rw [run_of_finished hmove] at hn
      exact outcome_of_last_move (by rw [run_of_finished hmove, hn])
    | failed f s =>
      rw [run_of_failed hmove] at hn
      exact outcome_of_last_move (by rw [run_of_failed hmove, hn])

end Machine

/-! ## Walk and rules agree -/

/-- A machine at the start of a program comes to an outcome exactly if the rules derive it. -/
theorem Program.endsIn_iff {p : Program} {s : State} {e : Effect} :
    (Machine.start p s).EndsIn e ↔ Program.Ends p s e := by
  constructor
  · intro h
    rcases h.outcome with ⟨t, hp, rfl⟩ | ⟨f, t, hp, rfl⟩
    · exact hp
    · exact hp
  · exact Program.Ends.endsIn

/-- **The walk implements the structured meaning.**  From any state, with any chunk, a walk through a
    program comes to its end in a state, or fails in one, exactly if the rules derive that outcome, and it
    goes on for ever exactly if they derive none. -/
theorem Program.walk_iff_ends (p : Program) (s : State) :
    (∀ t, (∃ n, (Machine.start p s).run n = .finished t) ↔ Program.Ends p s (.done t)) ∧
    (∀ f t, (∃ n, (Machine.start p s).run n = .failed f t) ↔ Program.Ends p s (.failed f t)) ∧
    ((∀ n, ∃ m, (Machine.start p s).run n = .unfinished m) ↔ ∀ e, ¬ Program.Ends p s e) := by
  refine ⟨?_, ?_, ?_⟩
  · intro t
    exact Program.endsIn_iff (e := .done t)
  · intro f t
    exact Program.endsIn_iff (e := .failed f t)
  · show (Machine.start p s).Endless ↔ _
    rw [Machine.endless_iff]
    apply forall_congr'
    intro e
    exact not_congr Program.endsIn_iff

end TapeLang
