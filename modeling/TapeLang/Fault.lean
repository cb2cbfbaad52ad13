/-
  Fault — what can be wrong with a program, or go wrong when it runs.

  The faults form a family.  Two say that brackets do not match and are found before anything runs;
  three say that the machine cannot carry a command out and are found when the command is reached.
  Above them stand a general fault of each sort, and above those the most general one.  A test of a
  program may name any member, and a fault counts for its own kind and every kind above it.

  A fault can be taken apart into a kind and a list of arguments, and `Fault.make` puts it together
  again: nothing a fault says is lost on the way.

  The names of the kinds are the error classes that go with them (`FaultKind.name`): `strayClose` is
  `UnmatchedCloseBracket`, `openLoop` is `UnterminatedLoop`, `undefined` is `UndefinedCommand`, `noInput`
  is `InputExhausted`, `leftEdge` is `BackwardBoundaryUnderflow`, and above them `brackets` is
  `ParseError`, `execution` is `ExecutionError` and `any` is `BrainfError`.  `Fault.describe` is
  `_describe`.
-/
import TapeLang.Value
import TapeLang.Value.Display

namespace TapeLang

/-! ## Kinds -/

/-- The kinds of faults. -/
inductive FaultKind where
  /-- Any fault at all. -/
  | any
  /-- Brackets that do not match. -/
  | brackets
  /-- A closing bracket without an opening one. -/
  | strayClose
  /-- An opening bracket without a closing one. -/
  | openLoop
  /-- A command that cannot be carried out. -/
  | execution
  /-- A command that there is not. -/
  | undefined
  /-- A byte of input is asked for and there is none. -/
  | noInput
  /-- The head is to move left of the first cell. -/
  | leftEdge
  deriving DecidableEq

namespace FaultKind

/-- The kinds, each after the one above it. -/
def all : List FaultKind :=
  [any, brackets, strayClose, openLoop, execution, undefined, noInput, leftEdge]

/-- The name by which a test of a program asks for a kind. -/
def name : FaultKind → Text
  | any => "BrainfError"
  | brackets => "ParseError"
  | strayClose => "UnmatchedCloseBracket"
  | openLoop => "UnterminatedLoop"
  | execution => "ExecutionError"
  | undefined => "UndefinedCommand"
  | noInput => "InputExhausted"
  | leftEdge => "BackwardBoundaryUnderflow"

/-- The kind of a name. -/
def named? (t : Text) : Option FaultKind := all.find? (·.name == t)

/-- The kind directly above. -/
def parent? : FaultKind → Option FaultKind
  | any => none
  | brackets | execution => some any
  | strayClose | openLoop => some brackets
  | undefined | noInput | leftEdge => some execution

/-- A kind and the kinds above it. -/
def lineage : FaultKind → List FaultKind
  | any => [any]
  | brackets => [brackets, any]
  | execution => [execution, any]
  | strayClose => [strayClose, brackets, any]
  | openLoop => [openLoop, brackets, any]
  | undefined => [undefined, execution, any]
  | noInput => [noInput, execution, any]
  | leftEdge => [leftEdge, execution, any]

/-- A kind covers itself and all kinds below it. -/
def covers (k j : FaultKind) : Bool := j.lineage.contains k

/-- A lineage is the kind followed by the lineage of its parent. -/
theorem lineage_eq (k : FaultKind) :
    k.lineage = k :: (k.parent?.map lineage).getD [] := by cases k <;> rfl

end FaultKind

/-! ## Faults -/

/-- A fault.  Positions are offsets into the source, or whatever else they are said to be by someone who
    makes a fault by hand; the absent value says that there is none. -/
inductive Fault where
  /-- A fault of no particular kind. -/
  | general (arguments : List Value)
  /-- Brackets that do not match, in words. -/
  | brackets (message position : Value)
  /-- A closing bracket without an opening one, at `position`. -/
  | strayClose (position : Value)
  /-- An opening bracket without a closing one, at `position`. -/
  | openLoop (position : Value)
  /-- A command that cannot be carried out, in words. -/
  | execution (arguments : List Value)
  /-- A command that there is not, at `position`.  A command is a number, or a truth value in place of
      one; its message shows the position, so the position can be written. -/
  | undefined (code position : Value) (isNumber : code.integer?.isSome) (hasPlace : position.isWritable)
  /-- A byte of input is asked for and there is none. -/
  | noInput
  /-- The head is to move left of the first cell. -/
  | leftEdge

namespace Fault

/-- The kind of a fault. -/
def kind : Fault → FaultKind
  | general _ => .any
  | brackets .. => .brackets
  | strayClose _ => .strayClose
  | openLoop _ => .openLoop
  | execution _ => .execution
  | undefined .. => .undefined
  | noInput => .noInput
  | leftEdge => .leftEdge

/-! ### Wording -/

/-- The commands there are. -/
def commands : Text := ".,+-><[]"

/-- A command in a message: a visible ASCII sign between double quotes, anything else by its number,
    in at least two hexadecimal digits. -/
def describe (code : Int) : Text :=
  match code with
  | .ofNat n =>
    if 0x20 < n ∧ n < 0x7F then "\"" ++ (CodePoint.ofNat? n).toList ++ "\"" else "0x" ++ Text.hex 2 n
  | .negSucc n => "0x-" ++ Text.hex 1 (n + 1)

/-- Where a command stands; nothing if that is not known. -/
def place : Value → Text
  | .null => []
  | p => " at offset " ++ p.shown

/-- The message about a command that there is not. -/
def undefinedMessage (code : Int) (position : Value) : Text :=
  "Undefined command " ++ describe code ++ place position ++ ". Available commands are: " ++ commands

/-- An offset as a value. -/
def positionValue : Option Int → Value
  | none => .null
  | some p => .int p

/-- What a fault says of itself, apart from the place of a bracket. -/
def contents : Fault → List Value
  | general arguments | execution arguments => arguments
  | brackets message _ => [message]
  | strayClose _ => [.text "Unexpected close loop command ']'"]
  | openLoop _ => [.text "Unexpected end of the loop opened by '['"]
  | undefined code position h _ => [.text (undefinedMessage (code.integer?.get h) position)]
  | noInput => [.text "Can not read value from the input because input buffer is empty."]
  | leftEdge => [.text "Can not move memory backward because there is no memory to move."]

/-- The position of a fault, of those that have one. -/
def position? : Fault → Option Value
  | brackets _ position | strayClose position | openLoop position | undefined _ position _ _ =>
    some position
  | _ => none

/-- The command of a fault, if it is about one. -/
def code? : Fault → Option Value
  | undefined code .. => some code
  | _ => none

/-- The text of some values: of one value its own text, of more their notation as a tuple. -/
def spoken : List Value → Text
  | [] => []
  | [v] => v.shown
  | vs => (Value.tuple vs).literal

/-- The message of a fault.  Faults about brackets end with the place. -/
def message (f : Fault) : Text :=
  match f with
  | brackets _ position | strayClose position | openLoop position =>
    spoken f.contents ++ " (at offset " ++ position.shown ++ ")"
  | _ => spoken f.contents

/-- The fault in one line: its kind and its message. -/
def summary (f : Fault) : Text := f.kind.name ++ ": " ++ f.message

/-! ### Taking apart and putting together -/

/-- The arguments from which `make` builds the fault. -/
def arguments : Fault → List Value
  | general arguments | execution arguments => arguments
  | brackets message position => [message, position]
  | strayClose position | openLoop position => [position]
  | undefined code position _ _ => [code, position]
  | noInput | leftEdge => []

/-- Builds a fault of a kind; nothing if the arguments are not those of the kind. -/
def make? : FaultKind → List Value → Option Fault
  | .any, arguments => some (general arguments)
  | .execution, arguments => some (execution arguments)
  | .brackets, [message, position] => some (brackets message position)
  | .strayClose, [position] => some (strayClose position)
  | .openLoop, [position] => some (openLoop position)
  | .undefined, [code] =>
    if h : code.integer?.isSome then some (undefined code .null h rfl) else none
  | .undefined, [code, position] =>
    if h : code.integer?.isSome ∧ position.isWritable then some (undefined code position h.1 h.2)
    else none
  | .noInput, [] => some noInput
  | .leftEdge, [] => some leftEdge
  | _, _ => none

/-- Two faults that cannot be told apart: they are of one kind, say the same and have the same
    arguments. -/
def alike (f g : Fault) : Bool :=
  f.kind == g.kind && f.message == g.message && (f.code?.map Value.literal == g.code?.map Value.literal) &&
    (Value.literals f.contents == Value.literals g.contents) &&
    (f.position?.map Value.literal == g.position?.map Value.literal)

/-- Whether taking a fault apart and putting it together gives the fault. -/
def rebuilds (f : Fault) : Bool := ((make? f.kind f.arguments).map (alike f)).getD false

/-- What is taken apart can be put together again. -/
theorem make?_arguments (f : Fault) : make? f.kind f.arguments = some f := by
  cases f <;> simp_all [make?, kind, arguments]

end Fault

example : (Fault.undefined (.int (-5)) .null rfl rfl).message
    = "Undefined command 0x-5. Available commands are: .,+-><[]" := by decide +kernel
example : (Fault.strayClose (.int 3)).message
    = "Unexpected close loop command ']' (at offset 3)" := by decide +kernel

end TapeLang
