/-
  Node — the structure of a document: scalars, sequences and mappings, each with a tag.

  The tag of a node says what kind of value it stands for.  It is written before the node, or follows
  from the form of the node; for a plain scalar `Tag.ofPlain` tells it from the text.

  A node can be part of several others, and even of itself, for an alias means the very node of its
  anchor.  So the nodes of a document are kept in a row, and the parts of a node are named by their
  numbers in it.
-/
import TapeLang.Yaml.Error

namespace TapeLang.Yaml

/-- What kind of value a node stands for. -/
inductive Tag where
  /-- The absent value. -/
  | null
  /-- A truth value. -/
  | bool
  /-- An integer. -/
  | int
  /-- A number with a fraction. -/
  | float
  /-- A day, perhaps with a time. -/
  | timestamp
  /-- A text. -/
  | text
  /-- A byte string, written in base sixty-four. -/
  | binary
  /-- A list. -/
  | sequence
  /-- A mapping. -/
  | mapping
  /-- A mapping of which the keys count alone. -/
  | set
  /-- A list of pairs, one for each of some mappings. -/
  | pairs
  /-- The same, in an order that means something. -/
  | orderedMap
  /-- The key `<<`, behind which stand mappings to take entries from. -/
  | merge
  /-- The key `=`, behind which stands what a mapping counts as where a scalar is needed. -/
  | standIn
  /-- A tag that stands for no kind of value. -/
  | unknown (name : Text)
  deriving DecidableEq

namespace Tag

/-- What the names of the known tags start with. -/
def stem : Text := "tag:yaml.org,2002:"

/-- The last parts of the names of the known tags. -/
def known : List (Text × Tag) := [
    ("null", null), ("bool", bool), ("int", int), ("float", float), ("timestamp", timestamp),
    ("str", text), ("binary", binary), ("seq", sequence), ("map", mapping), ("set", set),
    ("pairs", pairs), ("omap", orderedMap), ("merge", merge), ("value", standIn)]

/-- The tag of a name. -/
def ofName (name : Text) : Tag :=
  ((known.find? fun k => stem ++ k.1 == name).map (·.2)).getD (unknown name)

/-- The name of a tag. -/
def name : Tag → Text
  | unknown name => name
  | t => stem ++ ((known.find? (·.2 == t)).map (·.1)).getD []

end Tag

/-- The number of a node. -/
abbrev NodeId := Nat

/-- The form of a node. -/
inductive Form where
  /-- A scalar. -/
  | scalar (text : Text)
  /-- A sequence. -/
  | sequence (items : List NodeId)
  /-- A mapping; keys may occur more than once. -/
  | mapping (entries : List (NodeId × NodeId))

/-- The name of a form. -/
def Form.name : Form → Text
  | scalar _ => "scalar"
  | sequence _ => "sequence"
  | mapping _ => "mapping"

/-- A part of a document. -/
structure Node where
  /-- What kind of value it stands for. -/
  tag : Tag
  /-- What it is made of. -/
  form : Form
  /-- Where it starts. -/
  mark : Mark

instance : Inhabited Node := ⟨⟨.null, .scalar [], ⟨0, 0⟩⟩⟩

/-- The entries of a node that is a mapping. -/
def Node.entries (n : Node) : List (NodeId × NodeId) :=
  match n.form with
  | .mapping entries => entries
  | _ => []

/-- The nodes of a document. -/
structure Graph where
  /-- All nodes, each at its number. -/
  nodes : Array Node
  /-- The whole document. -/
  root : NodeId

end TapeLang.Yaml
