/-
  Settings — the two knobs of a run, and where they come from.

  The chunk is how many cells a tape grows by, never less than one; a proof goes with the number, so a
  tape needs no check of its own.  The encoding is a name and stays one until a text has to become
  bytes: programs and inputs that are bytes already never look at it.

  Settings are a `MachineConfig`: `Settings.ofEnvironment` is `from_env` and `Settings.bytesOf` is
  `to_bytes`.
-/
import TapeLang.Failure

namespace TapeLang

/-- The number of cells by which a tape grows. -/
structure Chunk where
  /-- The number. -/
  size : Nat
  /-- There is at least one cell in a chunk. -/
  pos : 0 < size := by decide

/-- What a run depends on besides program and input. -/
structure Settings where
  /-- How the tape grows. -/
  chunk : Chunk := ⟨100, by decide⟩
  /-- The name of the encoding for texts. -/
  encoding : Text := "utf-8"

/-- What the environment may set. -/
structure Environment where
  /-- The text of the chunk size. -/
  chunkSize : Option Text := none
  /-- The name of the encoding. -/
  encoding : Option Text := none

/-- A chunk of a given size. -/
def Chunk.ofInt (n : Int) : Except Failure Chunk :=
  if h : 0 < n.toNat then .ok ⟨n.toNat, h⟩ else .error (.chunkSize n)

/-- Reads an integer. -/
def Text.integer? (t : Text) : Except Failure Int := t.toInteger.mapError (Failure.numeral t)

namespace Settings

/-- The settings with the given knobs. -/
def make (chunkSize : Int := 100) (encoding : Text := "utf-8") : Except Failure Settings :=
  (Chunk.ofInt chunkSize).map (⟨·, encoding⟩)

/-- The settings of an environment; what it does not set is as usual. -/
def ofEnvironment (e : Environment) : Except Failure Settings := do
  let n ← match e.chunkSize with
    | none => pure 100
    | some t => t.integer?
  make n (e.encoding.getD "utf-8")

/-! ## Values as bytes -/

/-- The bytes of a list of values.  The first that is no integer, or no byte, decides. -/
def bytesOfList : List Value → Except Failure (List UInt8)
  | [] => .ok []
  | v :: rest =>
    match v.integer? with
    | none => .error (.notInteger v.typeName)
    | some n =>
      if 0 ≤ n ∧ n < 256 then (bytesOfList rest).map (UInt8.ofNat n.toNat :: ·)
      else .error .bytesRange

/-- The bytes of a program or an input that is given as a value.  A text is encoded, the absent value
    is empty, and a number is refused: it is no list of bytes. -/
def bytesOf [Codecs] (s : Settings) (v : Value) : Except Failure (List UInt8) :=
  match v with
  | .null => .ok []
  | .text t => (t.encoded s.encoding).mapError Failure.encoding
  | .int _ | .bool _ => v.checkWritable >>= fun _ => .error (.notBytes v)
  | .bytes bs | .buffer bs => .ok bs
  | .list items | .tuple items | .set items => bytesOfList items
  | .dict entries => bytesOfList (entries.map (·.1))
  | .float _ | .date _ | .moment .. | .again _ => .error (.unconvertible v.typeName)

end Settings

end TapeLang
