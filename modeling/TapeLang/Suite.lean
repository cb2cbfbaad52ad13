/-
  Suite — a document of cases, and what becomes of them.

  The cases are the items of a list: the whole document, or what its key `cases` holds.  Every item is
  checked in turn, and the first that is no case decides.  A suite is run case by case, each on a machine
  of its own.

  A document may name one collection in many places, so written out as a value it can be far larger than
  its file.  Only what a check looks at is written out.

  `Suite.load` is `load_cases`, with the reader of files as a parameter, and `Suite.run` is `run_suite`.
-/
import TapeLang.Suite.Verdict
import TapeLang.Yaml.Document

namespace TapeLang.Suite

/-- An item of a suite as far as its check looks at it: the name of a case as a whole, since messages show
    it, and of other fields the outline. -/
def item (d : Yaml.Document) (id : Yaml.NodeId) : Value :=
  match d.object id with
  | .mapping fields => .dict (fields.map fun f =>
      (f.key, if f.key.sameKey (.text "name") then d.value f.value else d.outline f.value))
  | _ => d.outline id

/-- The items of an object, if it is a list.  A pair is an item, but no case. -/
def itemsOf? (d : Yaml.Document) : Yaml.Object → Option (List Value)
  | .list ids => some (ids.map (item d))
  | .pairs ids => some (ids.map fun p => .tuple [d.outline p.1, d.outline p.2])
  | _ => none

/-- The items of a document in which each should be a case. -/
def items? (d : Yaml.Document) : Option (List Value) :=
  match d.object d.root with
  | .mapping fields => do
    let f ← fields.find? (·.key.sameKey (.text "cases"))
    itemsOf? d (d.object f.value)
  | o => itemsOf? d o

/-- The cases of a document at a path. -/
def ofDocument [Codecs] [WritingRoom] (path encoding : Text) (d : Yaml.Document) :
    Except Failure (List CheckedCase) :=
  match items? d with
  | some items => items.mapM (CheckedCase.ofValue encoding)
  | none => .error (.shape (.outline path))

/-- Loads the suite at a path, `file` being how the file at a path is read. -/
def load [Codecs] [WritingRoom] [Yaml.Reader] (file : Text → Except Failure (List UInt8))
    (path encoding : Text) : Except Failure (List CheckedCase) := do
  ofDocument path encoding (← Yaml.Reader.read path (← file path))

/-- Runs the cases of a suite in order. -/
def run [Codecs] (budget : Nat) (s : Settings) (cases : List CheckedCase) : Except Failure (List Verdict) :=
  cases.mapM fun c => c.toCase.judge budget s

end TapeLang.Suite
