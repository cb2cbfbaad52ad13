/-
  Case — a program with an input and the outcome it should have.

  A case is first a mapping in a document.  `CheckedCase.ofValue` accepts a mapping with a name, a
  program and exactly one expectation, an output or the kind of a fault, and refuses any other, naming
  the first thing that is wrong.  The order of the checks is the order in which a reader meets the
  fields: mapping, name, program, expectation, kind of fault, and then the contents.

  `CheckedCase.ofValue` is `_coerce_case` and `fieldBytes` is `_coerce_bytes`.
-/
import TapeLang.Settings

namespace TapeLang

/-- A case as someone may put it together: its fields are values of any kind. -/
structure Case where
  /-- The name. -/
  name : Value
  /-- The program. -/
  program : Value
  /-- The input. -/
  input : Value := .bytes []
  /-- The output it should have; absent if it has none in mind. -/
  expected : Value := .null
  /-- The name of the kind of fault it should end with; absent if it should not. -/
  fault : Value := .null

/-- A case from a suite. -/
structure CheckedCase where
  /-- The name. -/
  name : Text
  /-- The program. -/
  program : List UInt8
  /-- The input. -/
  input : List UInt8
  /-- The output it should have. -/
  expected : Option (List UInt8)
  /-- The kind of fault it should end with. -/
  fault : Option FaultKind

/-- A checked case is a case. -/
def CheckedCase.toCase (c : CheckedCase) : Case where
  name := .text c.name
  program := .bytes c.program
  input := .bytes c.input
  expected := (c.expected.map Value.bytes).getD .null
  fault := (c.fault.map fun k => Value.text k.name).getD .null

/-! ## Cases from arguments -/

/-- What a case is made from. -/
def Case.signature : Signature where
  title := "Case.__init__()"
  required := ["name", "program"]
  optional := ["input", "expected", "error"]

/-- Makes a case from named arguments. -/
def Case.ofArguments (arguments : List (Text × Value)) : Except Failure Case :=
  match Case.signature.checkNames (arguments.map (·.1)) with
  | some m => .error (.mismatch Case.signature m)
  | none =>
    let field (name : Text) (usual : Value) : Value := (arguments.lookup name).getD usual
    .ok { name := field "name" .null
          program := field "program" .null
          input := field "input" (.bytes [])
          expected := field "expected" .null
          fault := field "error" .null }

/-! ## Cases from documents -/

/-- The bytes of a list of values in a field of a suite. -/
def fieldElements (field : Text) : List Value → Except Failure (List UInt8)
  | [] => .ok []
  | v :: rest =>
    match v.integer? with
    | some n =>
      if 0 ≤ n ∧ n ≤ 255 then (fieldElements field rest).map (UInt8.ofNat n.toNat :: ·)
      else .error (.shape (.element field))
    | none => .error (.shape (.element field))

/-- The bytes of a field of a suite: a text, or a list of bytes. -/
def fieldBytes [Codecs] (field encoding : Text) : Value → Except Failure (List UInt8)
  | .text t => (t.encoded encoding).mapError Failure.encoding
  | .list items | .tuple items => fieldElements field items
  | _ => .error (.shape (.content field))

/-- Refuses a case because of some values that the message shows, if they can be written. -/
def refuse [WritingRoom] {α : Type} (e : ShapeError) (shown : List Value) : Except Failure α := do
  shown.forM Value.write
  throw (.shape e)

/-- The kind of fault that a field names, if it names one at all. -/
def expectedFault [WritingRoom] (name : Value) : Value → Except Failure (Option FaultKind)
  | .null => .ok none
  | v =>
    match v.changeable? with
    | some part => .error (.unhashable part.typeName)
    | none =>
      match v with
      | .text t =>
        match FaultKind.named? t with
        | some k => .ok (some k)
        | none => refuse (.unknownFault name v) [name]
      | _ => refuse (.unknownFault name v) [name, v]

/-- Checks a case of a suite whose texts are in the given encoding. -/
def CheckedCase.ofValue [Codecs] [WritingRoom] (encoding : Text) : Value → Except Failure CheckedCase
  | .dict fields => do
    let name := (Value.entry? "name" fields).getD .null
    let program? := Value.entry? "program" fields
    let expected? := Value.entry? "expected" fields
    let fault? := Value.entry? "error" fields
    if !name.truthy then throw (.shape .noName)
    match program? with
    | none => refuse (.noProgram name) [name]
    | some program =>
      if expected?.isSome == fault?.isSome then refuse (.expectations name) [name]
      let fault ← expectedFault name (fault?.getD .null)
      name.write
      let program ← fieldBytes "program" encoding program
      let input ← fieldBytes "input" encoding ((Value.entry? "input" fields).getD (.text []))
      let expected ← match expected? with
        | some v => (fieldBytes "expected" encoding v).map some
        | none => pure none
      return { name := name.shown, program, input, expected, fault }
  | _ => .error (.shape .notMapping)

end TapeLang
