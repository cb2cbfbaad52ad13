/-
  Source — programs as sequences of numbers.

  Reading a source judges its brackets and nothing else: any other number, or whatever stands in the
  place of one, becomes a command, and whether there is such a command shows when the machine gets
  there.  Writing a tree gives the numbers back, which are bytes if all commands are.

  The crux is the invariant of `Program.readFrom`.  With `unclosed` for the loops entered and not yet
  left and `level` for the nodes of the innermost one, the numbers read so far are those of the nodes
  below, with an opening bracket for each unclosed loop.  So a closing bracket has a partner exactly
  if `unclosed` is not empty, and the source is balanced exactly if it is empty at the end.

  A tree is written without recursion on it, by `Program.writeFrom`.  A list holds what is left of the
  sequences that are open, innermost first; a loop puts its body in front, and a sequence that is
  written to its end leaves a closing bracket, unless it is the program itself.  `Program.codes` says by
  recursion what the source of a tree is, and `Program.source_eq` that the loop writes it.

  `Program.read` is `build` on numbers and `Program.ofValue` is `build` on any value; `Program.source` is
  `render`, and `Program.writeFrom` the loop in it.
-/
import TapeLang.Encoding
import TapeLang.Failure
import TapeLang.Program

namespace TapeLang

/-! ## Reading -/

/-- Reads a source from `offset` on: `unclosed` holds the loops entered and not yet left, innermost
    first, and `level` the nodes of the innermost one, latest first. -/
def Program.readFrom (offset : Nat) (unclosed : List Unclosed) (level : List Node) :
    List Value → Except Fault Program
  | [] =>
    match unclosed with
    | [] => .ok level.reverse
    | u :: _ => .error (.openLoop (Fault.positionValue u.position))
  | c :: rest =>
    if c.whole? = some openCode then
      readFrom (offset + 1) (⟨some (offset : Int), level⟩ :: unclosed) [] rest
    else if c.whole? = some closeCode then
      match unclosed with
      | [] => .error (.strayClose (.int offset))
      | u :: us => readFrom (offset + 1) us (.loop level.reverse u.position :: u.before) rest
    else readFrom (offset + 1) unclosed (.command c (some (offset : Int)) :: level) rest

/-- Reads a source. -/
def Program.read (source : List Value) : Except Fault Program := Program.readFrom 0 [] [] source

/-- Reads a source of bytes. -/
def Program.ofBytes (source : List UInt8) : Except Fault Program :=
  Program.read (source.map byteCode)

/-! ## Writing -/

mutual

/-- The source of a node. -/
def Node.codes : Node → List Value
  | .command c _ => [c]
  | .loop body _ => .int openCode :: (Program.codes body ++ [.int closeCode])

/-- The source of a program. -/
def Program.codes : List Node → List Value
  | [] => []
  | n :: rest => n.codes ++ Program.codes rest

end

/-- The byte that a command is. -/
def byteOf (code : Value) : Except Failure UInt8 :=
  match code.integer? with
  | none => .error (.notInteger code.typeName)
  | some n => if 0 ≤ n ∧ n < 256 then .ok (UInt8.ofNat n.toNat) else .error .byteRange

/-- The bracket that opens a loop, as a byte. -/
def openByte : UInt8 := 91

/-- The bracket that closes a loop, as a byte. -/
def closeByte : UInt8 := 93

/-- How much is left to write of some sequences: the source of each, and the bracket behind it. -/
def Program.unwritten : List Program → Nat
  | [] => 0
  | nodes :: around => (Program.codes nodes).length + 1 + unwritten around

/-- Writes what is left of some sequences, innermost first: each is the rest of the body of a loop that
    the next one stands around.  The first command that is no byte decides. -/
def Program.writeFrom (written : Array UInt8) : List Program → Except Failure (List UInt8)
  | [] | [[]] => .ok written.toList
  | [] :: nodes :: around => writeFrom (written.push closeByte) (nodes :: around)
  | (.command code _ :: rest) :: around =>
    match byteOf code with
    | .ok b => writeFrom (written.push b) (rest :: around)
    | .error f => .error f
  | (.loop body _ :: rest) :: around => writeFrom (written.push openByte) (body :: rest :: around)
termination_by pending => Program.unwritten pending
decreasing_by
  all_goals
    simp only [Program.unwritten, Program.codes, Node.codes, List.length_append, List.length_cons,
      List.length_nil]
    omega

/-- The bytes of a program. -/
def Program.source (p : Program) : Except Failure (List UInt8) := Program.writeFrom #[] [p]

/-! ### The loop writes the source -/

/-- The source of what is left of some sequences, with a closing bracket between neighbours. -/
def Program.codesLeft : List Program → List Value
  | [] => []
  | [nodes] => Program.codes nodes
  | nodes :: around => Program.codes nodes ++ .int closeCode :: codesLeft around

theorem Program.codesLeft_cons (n : Node) (rest : Program) (around : List Program) :
    codesLeft ((n :: rest) :: around) = n.codes ++ codesLeft (rest :: around) := by
  cases around with
  | nil => rfl
  | cons nodes around => exact List.append_assoc _ _ _

/-- The first of some values is written, then the rest. -/
theorem mapM_byteOf_cons {c : Value} {b : UInt8} (h : byteOf c = .ok b) (rest : List Value) :
    (c :: rest).mapM byteOf = (rest.mapM byteOf).map (b :: ·) := by
  rw [List.mapM_cons, h]
  rfl

/-- A value that is no byte decides, if it is the first one. -/
theorem mapM_byteOf_cons_error {c : Value} {f : Failure} (h : byteOf c = .error f) (rest : List Value) :
    (c :: rest).mapM byteOf = .error f := by
  rw [List.mapM_cons, h]
  rfl

/-- What is written stands behind what is written already. -/
theorem map_push_append (written : Array UInt8) (b : UInt8) (r : Except Failure (List UInt8)) :
    r.map ((written.push b).toList ++ ·) = (r.map (b :: ·)).map (written.toList ++ ·) := by
  cases r with
  | ok bytes => simp [Except.map]
  | error f => rfl

/-- The loop writes the source of what is left, one value after the other. -/
theorem Program.writeFrom_eq (written : Array UInt8) (pending : List Program) :
    writeFrom written pending = ((codesLeft pending).mapM byteOf).map (written.toList ++ ·) := by
  fun_induction writeFrom written pending with
  | case1 written | case2 written =>
    show Except.ok _ = Except.ok (written.toList ++ [])
    rw [List.append_nil]
  | case3 written nodes around ih =>
    have hclose : byteOf (.int closeCode) = .ok closeByte := rfl
    have hnext : codesLeft ([] :: nodes :: around) = .int closeCode :: codesLeft (nodes :: around) := rfl
    rw [ih, hnext, mapM_byteOf_cons hclose, map_push_append]
  | case4 written code position rest around b hb ih =>
    have hcode : (Node.command code position).codes = [code] := rfl
    rw [ih, codesLeft_cons, hcode, List.singleton_append, mapM_byteOf_cons hb, map_push_append]
  | case5 written code position rest around f hf =>
    have hcode : (Node.command code position).codes = [code] := rfl
    rw [codesLeft_cons, hcode, List.singleton_append, mapM_byteOf_cons_error hf]
    rfl
  | case6 written body position rest around ih =>
    have hopen : byteOf (.int openCode) = .ok openByte := rfl
    -- what is left of the loop is its body and a bracket, and the bracket stands before the rest
    have hloop : codesLeft ((.loop body position :: rest) :: around) =
        .int openCode :: codesLeft (body :: rest :: around) := by
      rw [codesLeft_cons]
      show .int openCode :: (Program.codes body ++ [.int closeCode]) ++ _ = _
      rw [List.cons_append, List.append_assoc]
      rfl
    rw [ih, hloop, mapM_byteOf_cons hopen, map_push_append]

/-- The bytes of a program are those of its source, one by one. -/
theorem Program.source_eq (p : Program) : Program.source p = (Program.codes p).mapM byteOf := by
  rw [source, writeFrom_eq]
  show ((Program.codes p).mapM byteOf).map (fun bytes => bytes) = _
  cases (Program.codes p).mapM byteOf <;> rfl

/-! ## Programs as values -/

/-- Reads a program from a value.  A text is encoded first; of any other value, the elements are the
    source, whatever they are. -/
def Program.ofValue [Codecs] (encoding : Text) (v : Value) : Except Failure Program := do
  let source ← match v with
    | .text t => ((t.encoded encoding).mapError Failure.encoding).map (·.map byteCode)
    | .bytes bs | .buffer bs => .ok (bs.map byteCode)
    | .list items | .tuple items | .set items => .ok items
    | .dict entries => .ok (entries.map (·.1))
    | v => .error (.notIterable v.typeName)
  (Program.read source).mapError Failure.fault

end TapeLang
