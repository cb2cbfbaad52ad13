/-
  Trace — a run told step by step.

  A trace has a heading with the program and the input, an account of every step, and an ending with the
  output or the reason why there is none.  The account of a command says what is carried out and then,
  if that succeeds, what tape, input and output look like; the account of a loop test says what is under
  the head and whether the loop is entered.

  A trace is written by a machine of its own.  It walks through the program as `Machine.move` does, and
  it writes when a step is started and when a command is done.  Not all of that is mere looking: the
  cell that is shown before a loop test is needed for it, so the tape may grow there, and a command that
  is no byte, or a position of too many digits, cannot be shown at all.  That the run is otherwise the run
  without a trace is a theorem about `Trace.move`.  Numbers that a run counts up itself, of steps and of
  cells, are shown whatever they are: no run gets to one of too many digits.

  That machine is `TracingMachine`: `Trace.announce` is its `_step`, `Trace.perform` its `_execute`,
  `Trace.stateRows` its `_show_state` and `Program.traceShowing` its `run`.
-/
import TapeLang.Machine

namespace TapeLang

namespace Trace

/-! ## Pieces of a line -/

/-- Bytes as a text between quotation marks, one code point for each. -/
def shownBytes (bs : List UInt8) : Text := Text.quoted (Text.ofBytes bs)

/-- Bytes as a list of numbers. -/
def byteList (bs : List UInt8) : Text :=
  "[" ++ Text.join ", " (bs.map fun b => Text.natural b.toNat) ++ "]"

/-- Bytes in both ways. -/
def bothWays (bs : List UInt8) : Text := shownBytes bs ++ " -> " ++ byteList bs

/-- The number of a node's place, of one that can be written. -/
def placeText (position : Option Int) : Text := (Fault.positionValue position).shown

/-! ## The state after a command -/

/-- The row of cells around the head. -/
def memoryRow (values : List UInt8) : Text :=
  "Memory:  [" ++ Text.join "|" (values.map fun v => Text.flushRight 3 (Text.natural v.toNat)) ++ "]"

/-- The row that points at the head, under the row of cells. -/
def pointerRow (start size head : Nat) : Text :=
  "Pointer:  " ++ Text.join " " ((List.range size).map fun i =>
    if start + i = head then (" ^ " : Text) else "   ")

/-- The row of addresses, under both. -/
def addressRow (start size : Nat) : Text :=
  "Address:  " ++ Text.join " " ((List.range size).map fun i =>
    Text.flushRight 3 (Text.natural (start + i)))

/-- The row with the output so far. -/
def outputRow (output : List UInt8) : Text :=
  if output.isEmpty then "Output:  (empty)" else "Output:  " ++ bothWays output

/-- The row with the input that is left. -/
def inputRow (input : List UInt8) : Text := "Input:   " ++ byteList input

/-- The five rows about a state, with `range` cells of the tape. -/
def stateRows (range : Int) (s : State) : List Text :=
  let (start, values) := s.tape.window range
  [memoryRow values, pointerRow start values.length s.tape.head, addressRow start values.length,
   inputRow s.input, outputRow s.output.toList]

/-! ## Steps -/

/-- The line about a command, with the byte that it is. -/
def commandLine (step : Nat) (byte : List UInt8) (position : Option Int) : Text :=
  "Step " ++ Text.natural step ++ ": Execute " ++ shownBytes byte ++ " at offset " ++ placeText position

/-- The line about a loop test. -/
def loopLine (step : Nat) (position : Option Int) (head : Nat) (cell : UInt8) : Text :=
  "Step " ++ Text.natural step ++ ": Loop at offset " ++ placeText position ++ ": cell[" ++
    Text.natural head ++ "] = " ++ Text.natural cell.toNat ++ " -> " ++
    (if cell = 0 then ("skip loop" : Text) else "enter loop")

/-- What is written when a step is started, after an empty line, and the state behind it: to show the cell
    under the head, it has to be kept.  A command that is no byte cannot be shown, and neither can a position
    that is too long to be written. -/
def announce (n : Node) (s : State) : Except Failure (List Text) × State :=
  match n with
  | .command code position =>
    (do
      let byte ← Settings.bytesOfList [code]
      (Fault.positionValue position).checkWritable
      return [[], commandLine s.steps byte position], s)
  | .loop _ position =>
    let s := { s with tape := s.tape.reach }
    (do
      (Fault.positionValue position).checkWritable
      return [[], loopLine s.steps position s.tape.head s.tape.cell], s)

/-- Carries a command out and writes what the state is like behind it, with `range` cells of the tape; to
    show a state is not possible if it is not known how many. -/
def perform (range : Option Int) (code : Value) (position : Option Int) (s : State) :
    List Text × Effect :=
  match s.execute code position with
  | .failed f t => ([], .failed f t)
  | .done t =>
    match range with
    | some size => (stateRows size t, .done t)
    | none => ([], .failed (.blank .range) t)

/-- Makes one move and tells it: the lines written, and what the move leads to. -/
def move (range : Option Int) (m : Machine) : List Text × Progress :=
  match m.cursors with
  | [] => ([], .finished m.state)
  | ⟨_, []⟩ :: below => ([], .going ⟨below, m.state⟩)
  | ⟨before, n :: after⟩ :: below =>
    match announce n m.state.count with
    | (.error f, s) => ([], .failed f s)
    | (.ok lines, s) =>
      match n with
      | .command code position =>
        match perform range code position s with
        | (rows, .done t) => (lines ++ rows, .going ⟨⟨n :: before, after⟩ :: below, t⟩)
        | (rows, .failed f t) => (lines ++ rows, .failed f t)
      | .loop body _ =>
        let s := { s with tape := s.tape.reach }
        if s.tape.cell = 0 then (lines, .going ⟨⟨n :: before, after⟩ :: below, s⟩)
        else (lines, .going ⟨Cursor.start body :: ⟨before, n :: after⟩ :: below, s⟩)

/-- Makes up to `budget` moves and tells them, after what is told already. -/
def run (range : Option Int) : Nat → Array Text → Machine → Array Text × Ending
  | 0, told, m => (told, .unfinished m)
  | budget + 1, told, m =>
    match move range m with
    | (lines, .going m) => run range budget (told ++ lines) m
    | (lines, .finished s) => (told ++ lines, .finished s)
    | (lines, .failed f s) => (told ++ lines, .failed f s)

/-! ## Heading and ending -/

/-- The line under the heading. -/
def rule : Text := List.replicate 60 (CodePoint.ofChar '=')

/-- The last lines of a trace. -/
def closing : Ending → List Text
  | .finished s => [[], "FINAL RESULT:", "Output: " ++ bothWays s.output.toList]
  | .failed (.fault f) _ => [[], "ABORTED: " ++ f.message, "Output discarded."]
  | .failed .. | .unfinished _ => []

/-- The first lines of a trace, written one by one: a program that is no byte string, and an input that
    is none, leave the lines before them.  With the lines come the bytes of the input. -/
def heading [Codecs] (s : Settings) (p : Program) (input : Value) : List Text × Except Failure (List UInt8) :=
  let title : List Text := ["TRACE"]
  match Program.source p with
  | .error f => (title, .error f)
  | .ok source =>
    let title := title ++ [("Program: " : Text) ++ shownBytes source]
    match s.bytesOf input with
    | .error f => (title, .error f)
    | .ok bytes => (title ++ [inputRow bytes, rule], .ok bytes)

end Trace

/-- A run told step by step, as far as it got. -/
structure Trace where
  /-- The lines written. -/
  lines : List Text
  /-- How the run ended, or the failure that kept it from starting or from going on. -/
  ending : Except Failure Ending
  /-- The lines in the log about the run. -/
  log : List LogLine

/-- Traces a program.  The machine makes bytes of the input for itself, as it does without a trace. -/
def Program.traceShowing [Codecs] (budget : Nat) (s : Settings) (range : Option Int) (p : Program)
    (input : Value) : Trace :=
  match Trace.heading s p input with
  | (lines, .error f) => ⟨lines, .error f, []⟩
  | (lines, .ok _) =>
    match s.bytesOf input with
    | .error f => ⟨lines, .error f, []⟩
    | .ok bytes =>
      let (told, ending) :=
        Trace.run range budget #[] (Machine.start p (State.initial s.chunk bytes))
      ⟨lines ++ told.toList ++ Trace.closing ending, .ok ending, ending.log p bytes⟩

/-- Traces a program, with a given number of cells of the tape in each state. -/
def Program.trace [Codecs] (budget : Nat) (s : Settings) (range : Int) (p : Program) (input : Value) : Trace :=
  p.traceShowing budget s (some range) input

end TapeLang
