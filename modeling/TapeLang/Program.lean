/-
  Program — the tree of a program.

  A program of the tape language is a sequence of nodes.  A node is a single command, known to the
  machine or not, or a loop around a sequence of nodes.  Every node carries the offset at which it stands
  in a source, for messages only.

  A command is a number; six numbers mean something, and brackets make the loops.  A program that is put
  together from values may hold any other value in the place of a number.  What a command means hangs on
  what the value is worth alone (`Value.whole?`): a number with a zero fraction means what the integer
  means, and a value that is worth no integer means nothing.

  The token list of a tree says what stands where in reading order.  It is the view in which trees are
  built by hand and shown to other programs.

  Nodes are `Leaf` and `Loop`, and programs are trees.
-/
import TapeLang.Value

namespace TapeLang

/-! ## Commands -/

/-- The commands that a machine carries out. -/
inductive Command where
  /-- Move the head one cell to the right. -/
  | right
  /-- Move the head one cell to the left. -/
  | left
  /-- Add one to the cell under the head. -/
  | increment
  /-- Take one from the cell under the head. -/
  | decrement
  /-- Put the cell under the head out. -/
  | output
  /-- Read a byte of input into the cell under the head. -/
  | input
  deriving DecidableEq

/-- The number that stands for a command in a source. -/
def Command.code : Command → Int
  | right => 62
  | left => 60
  | increment => 43
  | decrement => 45
  | output => 46
  | input => 44

/-- The command that a number stands for. -/
def Command.ofNumber? (n : Int) : Option Command :=
  if n = 62 then some right
  else if n = 60 then some left
  else if n = 43 then some increment
  else if n = 45 then some decrement
  else if n = 46 then some output
  else if n = 44 then some input
  else none

/-- The command that a value stands for. -/
def Command.ofCode? (code : Value) : Option Command := code.whole?.bind ofNumber?

/-- The number of the bracket that opens a loop. -/
def openCode : Int := 91

/-- The number of the bracket that closes a loop. -/
def closeCode : Int := 93

/-- The number of a byte, as a command. -/
def byteCode (b : UInt8) : Value := .int b.toNat

/-! ## Trees -/

/-- A node of a program: a command, or a loop around nodes. -/
inductive Node where
  /-- A single command, be it known or not, and where it stands. -/
  | command (code : Value) (position : Option Int)
  /-- A loop around a body, and where its opening bracket stands. -/
  | loop (body : List Node) (position : Option Int)

/-- A program is a sequence of nodes. -/
abbrev Program := List Node

/-- Where a node stands. -/
def Node.position : Node → Option Int
  | command _ p => p
  | loop _ p => p

mutual

/-- The positions of a node and of all in it, in reading order. -/
def Node.positions : Node → List (Option Int)
  | .command _ p => [p]
  | .loop body p => p :: Program.positions body

/-- The positions in a program, in reading order. -/
def Program.positions : List Node → List (Option Int)
  | [] => []
  | n :: rest => n.positions ++ Program.positions rest

end

/-! ### Tokens -/

/-- What stands at some place of a program, in reading order. -/
inductive Token where
  /-- A command and its position. -/
  | command (code : Value) (position : Option Int)
  /-- The start of a loop and its position. -/
  | enter (position : Option Int)
  /-- The end of the innermost loop. -/
  | leave

mutual

/-- The tokens of a node. -/
def Node.tokens : Node → List Token
  | .command c p => [.command c p]
  | .loop body p => .enter p :: (Program.tokens body ++ [.leave])

/-- The tokens of a program, in reading order. -/
def Program.tokens : List Node → List Token
  | [] => []
  | n :: rest => n.tokens ++ Program.tokens rest

end

/-- A loop under construction: its position, and what stands before it, latest first. -/
structure Unclosed where
  /-- The position of the opening bracket. -/
  position : Option Int
  /-- The nodes before the loop on its own level, latest first. -/
  before : List Node

/-- Builds a program from tokens: `unclosed` holds the loops not yet left, innermost first, and `level`
    the nodes of the innermost one, latest first.  Nothing if the loops do not match. -/
def Program.ofTokensFrom (unclosed : List Unclosed) (level : List Node) :
    List Token → Option Program
  | [] => if unclosed.isEmpty then some level.reverse else none
  | .command c p :: rest => ofTokensFrom unclosed (.command c p :: level) rest
  | .enter p :: rest => ofTokensFrom (⟨p, level⟩ :: unclosed) [] rest
  | .leave :: rest =>
    match unclosed with
    | [] => none
    | u :: us => ofTokensFrom us (.loop level.reverse u.position :: u.before) rest

/-- The program with the given tokens. -/
def Program.ofTokens? (ts : List Token) : Option Program := Program.ofTokensFrom [] [] ts

end TapeLang
