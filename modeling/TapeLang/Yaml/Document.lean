/-
  Document — a file as the objects that it writes down.

  The file is read as text, page by page, cut into tokens, read as a graph of nodes, and every node taken
  for its object.  A file without a document writes down the absent value.

  An object can be looked at as a value.  A value is a tree, so a collection that is a part of itself is
  cut where it is met again on the way down.
-/
import TapeLang.Yaml.Node.Grammar
import TapeLang.Yaml.Object
import TapeLang.Yaml.Page

namespace TapeLang.Yaml

/-- A document: the objects of its nodes. -/
structure Document where
  /-- The objects. -/
  objects : Array Object
  /-- The node that is the whole document. -/
  root : NodeId

namespace Document

/-- A document that is the absent value. -/
def empty : Document := ⟨#[], 0⟩

/-- The object of a node. -/
def object (d : Document) (id : NodeId) : Object := d.objects[id]?.getD default

/-- The value of a node, down to so many levels of collections; what is deeper is left out.  `above` holds
    the nodes of the collections on the way down. -/
def valueTo (d : Document) : (levels : Nat) → (above : List NodeId) → NodeId → Value
  | 0, _, _ => .null
  | levels + 1, above, id =>
    let part := d.valueTo levels (id :: above)
    match d.object id with
    | .value v => v
    | .set items => .set items
    | .list items => if above.contains id then .again false else .list (items.map part)
    | .pairs items =>
      if above.contains id then .again false
      else .list (items.map fun p => .tuple [part p.1, part p.2])
    | .mapping fields =>
      if above.contains id then .again true
      else .dict (fields.map fun f => (f.key, part f.value))

/-- The value of a node.  A way down meets every node once at most before it is cut. -/
def value (d : Document) (id : NodeId) : Value := d.valueTo (d.objects.size + 2) [] id

/-- The value of a node as far as the outermost parts; collections among them are shown without parts. -/
def outline (d : Document) (id : NodeId) : Value := d.valueTo 2 [] id

/-- Reads the document in some tokens. -/
def ofTokens (l : Lexed) : Except Error Document := do
  match ← Graph.ofTokens? l with
  | none => return empty
  | some g => return ⟨← g.objects, g.root⟩

/-- Reads the document in the bytes of a file; `name` is the name of the file. -/
def read (name : Text) (bytes : List UInt8) : Except Failure Document :=
  let (text, behind) := readable bytes
  (ofTokens (Lexed.ofText text behind)).mapError (Error.failure name)

end Document

/-- How files are read as documents.  What is made of a document does not depend on it. -/
class Reader where
  /-- Reads the document in the bytes of the file of a name. -/
  read (name : Text) (bytes : List UInt8) : Except Failure Document

/-- The reader of this library. -/
instance : Reader := ⟨Document.read⟩

end TapeLang.Yaml
