/-
  Machine — a program at work on a tape.

  The machine walks the tree of a program with a stack of cursors, one for each sequence of nodes that it
  is inside of, innermost first.  A move does one of three things:

    * a cursor at the end of its sequence is dropped;
    * a command is carried out, and the cursor goes past it;
    * a loop is tested: on a zero cell the cursor goes past it, on any other a cursor at the start of
      the body is put on top, and the cursor below stays at the loop, to test it again afterwards.

  The last two count as steps.  Neither the nesting of the program nor the number of passes through a
  loop needs more than this stack, whose height is bounded by the depth of the program.

  A run makes moves until the stack is empty, a command fails, or a budget of moves is used up.  The
  budget is what makes the definition total; nothing else depends on it, and more budget never changes
  how a run that has ended ends.

  A move is one pass through the loop of `_walk`, and a cursor is one of its frames.  `State.execute` is
  `_execute`, `Program.run` is `run` of `TapeMachine`, and `Machine.runNoting` runs with something in the
  place of its hook `_step`.
-/
import TapeLang.Log
import TapeLang.Program
import TapeLang.Program.Depth
import TapeLang.Program.Source
import TapeLang.Tape

namespace TapeLang

/-! ## State and commands -/

/-- All that a run changes. -/
structure State where
  /-- The memory. -/
  tape : Tape
  /-- The input that is left. -/
  input : List UInt8
  /-- The output so far. -/
  output : Array UInt8 := #[]
  /-- How many commands and loop tests were started. -/
  steps : Nat := 0

/-- How carrying a command out ends. -/
inductive Effect where
  /-- It is done. -/
  | done (s : State)
  /-- It cannot be done. -/
  | failed (f : Failure) (s : State)

namespace State

/-- The state at the start of a run. -/
def initial (chunk : Chunk) (input : List UInt8) : State := { tape := Tape.blank chunk, input }

/-- One more step is started. -/
def count (s : State) : State := { s with steps := s.steps + 1 }

/-- Carries a command out. -/
def execute (s : State) (code : Value) (position : Option Int) : Effect :=
  match Command.ofCode? code with
  | some .right => .done { s with tape := s.tape.right }
  | some .left =>
    match s.tape.left? with
    | some tape => .done { s with tape }
    | none => .failed (.fault .leftEdge) s
  | some .increment => .done { s with tape := s.tape.increment }
  | some .decrement => .done { s with tape := s.tape.decrement }
  | some .output => .done { s with output := s.output.push s.tape.cell, tape := s.tape.reach }
  | some .input =>
    match s.input with
    | [] => .failed (.fault .noInput) s
    | b :: rest => .done { s with tape := s.tape.write b, input := rest }
  | none => .failed (.undefined code (Fault.positionValue position)) s

end State

/-! ## The walk -/

/-- A place in a sequence of nodes. -/
structure Cursor where
  /-- The nodes passed, latest first. -/
  before : List Node
  /-- The nodes to come. -/
  after : List Node

namespace Cursor

/-- The place before the first node. -/
def start (nodes : List Node) : Cursor := ⟨[], nodes⟩

/-- The whole sequence. -/
def nodes (c : Cursor) : List Node := c.before.reverse ++ c.after

/-- How many nodes are passed. -/
def index (c : Cursor) : Nat := c.before.length

end Cursor

/-- A machine in the middle of its work. -/
structure Machine where
  /-- Where it is, innermost sequence first. -/
  cursors : List Cursor
  /-- What it has done so far. -/
  state : State

/-- What a move leads to. -/
inductive Progress where
  /-- The work goes on. -/
  | going (m : Machine)
  /-- The program has come to its end. -/
  | finished (s : State)
  /-- A command cannot be carried out. -/
  | failed (f : Failure) (s : State)

/-- How a run ends. -/
inductive Ending where
  /-- At the end of the program. -/
  | finished (s : State)
  /-- At a command that cannot be carried out. -/
  | failed (f : Failure) (s : State)
  /-- With the budget used up. -/
  | unfinished (m : Machine)

namespace Machine

/-- A machine at the start of a program. -/
def start (p : Program) (s : State) : Machine := ⟨[Cursor.start p], s⟩

/-- The node that the next move is about; none if the move drops a cursor or there is none. -/
def node? (m : Machine) : Option Node := m.cursors.head?.bind (·.after.head?)

/-- Makes one move. -/
def move (m : Machine) : Progress :=
  match m.cursors with
  | [] => .finished m.state
  | ⟨_, []⟩ :: below => .going ⟨below, m.state⟩
  | ⟨before, .command code position :: after⟩ :: below =>
    match m.state.count.execute code position with
    | .done s => .going ⟨⟨.command code position :: before, after⟩ :: below, s⟩
    | .failed f s => .failed f s
  | ⟨before, .loop body position :: after⟩ :: below =>
    let s := { m.state.count with tape := m.state.tape.reach }
    if s.tape.cell = 0 then .going ⟨⟨.loop body position :: before, after⟩ :: below, s⟩
    else .going ⟨Cursor.start body :: ⟨before, .loop body position :: after⟩ :: below, s⟩

/-- Makes up to `budget` moves. -/
def run : Nat → Machine → Ending
  | 0, m => .unfinished m
  | budget + 1, m =>
    match m.move with
    | .going m => run budget m
    | .finished s => .finished s
    | .failed f s => .failed f s

/-- Makes up to `budget` moves and takes a note before each. -/
def runNoting (note : α → Machine → α) : Nat → α → Machine → α × Ending
  | 0, notes, m => (notes, .unfinished m)
  | budget + 1, notes, m =>
    let notes := note notes m
    match m.move with
    | .going m => runNoting note budget notes m
    | .finished s => (notes, .finished s)
    | .failed f s => (notes, .failed f s)

/-- Taking notes changes nothing. -/
theorem runNoting_snd (note : α → Machine → α) (budget : Nat) (notes : α) (m : Machine) :
    (runNoting note budget notes m).2 = run budget m := by
  induction budget generalizing notes m with
  | zero => rfl
  | succ n ih =>
    simp only [runNoting, run]
    split <;> simp_all

/-- More budget never changes how a run that has ended ends. -/
theorem run_add {budget : Nat} {m : Machine} (h : ∀ m', run budget m ≠ .unfinished m') (more : Nat) :
    run (budget + more) m = run budget m := by
  induction budget generalizing m with
  | zero => exact absurd rfl (h m)
  | succ n ih =>
    rw [Nat.add_right_comm]
    simp only [run] at h ⊢
    split <;> simp_all

end Machine

/-! ## Runs -/

namespace Ending

/-- The state in which a run ends. -/
def state : Ending → State
  | finished s => s
  | failed _ s => s
  | unfinished m => m.state

/-- The result of a run: the whole output, or the failure and no output. -/
def result : Ending → Except Failure (List UInt8)
  | finished s => .ok s.output.toList
  | failed f _ => .error f
  | unfinished _ => .error .unfinished

end Ending

/-- Runs a program on some input, from a blank tape. -/
def Program.run (budget : Nat) (chunk : Chunk) (p : Program) (input : List UInt8) : Ending :=
  (Machine.start p (State.initial chunk input)).run budget

/-- Reads a program, then its input, and runs it.  Either the whole output is the result, or a
    failure. -/
def evaluate [Codecs] (budget : Nat) (s : Settings) (program : Value) (input : Value := .bytes []) :
    Except Failure (List UInt8) := do
  let p ← (Program.ofBytes (← s.bytesOf program)).mapError Failure.fault
  (p.run budget s.chunk (← s.bytesOf input)).result

/-! ## What a run leaves behind -/

/-- What is seen of a machine just before a command or a loop test. -/
structure Snapshot where
  /-- The number of the step, counting from one. -/
  step : Nat
  /-- Whether it is a loop test. -/
  isLoop : Bool
  /-- Where the node stands. -/
  position : Option Int
  /-- The address under the head. -/
  head : Nat
  /-- How many cells are kept. -/
  kept : Nat
  /-- How much input is left. -/
  inputLeft : Nat
  /-- How much output there is. -/
  outputSize : Nat

/-- The snapshot of a machine that is about to make a step. -/
def Machine.snapshot? (m : Machine) : Option Snapshot :=
  m.node?.map fun n =>
    { step := m.state.steps + 1
      isLoop := match n with
        | .command .. => false
        | .loop .. => true
      position := n.position
      head := m.state.tape.head
      kept := m.state.tape.cells.size
      inputLeft := m.state.input.length
      outputSize := m.state.output.size }

/-- A run with a snapshot for each step. -/
def Program.runWithSnapshots (budget : Nat) (chunk : Chunk) (p : Program) (input : List UInt8) :
    Array Snapshot × Ending :=
  (Machine.start p (State.initial chunk input)).runNoting
    (fun notes m => match m.snapshot? with
      | some s => notes.push s
      | none => notes) budget #[]

/-- The line in the log with which a run starts. -/
def startLine (p : Program) (input : List UInt8) : LogLine :=
  ⟨.machine, .debug, "Running " ++ Text.natural p.length ++ " top-level instructions (depth " ++
    Text.natural (Program.depth p) ++ ") with " ++ Text.natural input.length ++ " input bytes"⟩

/-- The line in the log with which a run ends, unless it ends with a failure that is no fault. -/
def Ending.line? : Ending → Option LogLine
  | finished s => some ⟨.machine, .debug, "Run finished after " ++ Text.natural s.steps ++
      " steps: " ++ Text.natural s.output.size ++ " output bytes, " ++
      Text.natural s.tape.cells.size ++ " cells allocated"⟩
  | failed (.fault f) s => some ⟨.machine, .debug, "Run aborted after " ++ Text.natural s.steps ++
      " steps: " ++ f.message⟩
  | failed .. | unfinished _ => none

/-- The lines in the log about a run. -/
def Ending.log (e : Ending) (p : Program) (input : List UInt8) : List LogLine :=
  startLine p input :: e.line?.toList

end TapeLang
