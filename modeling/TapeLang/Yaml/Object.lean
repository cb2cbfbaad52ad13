/-
  Object — what the nodes of a document stand for.

  Every node becomes one object, and an alias means the very object of its node.  A scalar becomes its
  value at once.  A collection becomes an object without parts first and gets them later, when its turn
  comes: collections are filled in the order in which they were met, so the outline of a document is
  judged before its details, and a collection can be a part of itself.

  The crux is that each node is met once.  `Builder.objects` says which nodes have their objects, only a
  node without one is put in the queue, and so there are no more turns than nodes.
-/
import TapeLang.Value.SetOrder
import TapeLang.Yaml.Node.Meaning
import TapeLang.Yaml.Node.Merge

namespace TapeLang.Yaml

/-! ## Objects -/

/-- An entry of a mapping. -/
structure Field where
  /-- The key. -/
  key : Value
  /-- The node of the key; none if the key is the one value that is no number. -/
  source : Option NodeId
  /-- The node of what stands behind it. -/
  value : NodeId

/-- What a node stands for.  Its parts are named by their nodes. -/
inductive Object where
  /-- A value without parts. -/
  | value (v : Value)
  /-- A list. -/
  | list (items : List NodeId)
  /-- A list of pairs. -/
  | pairs (items : List (NodeId × NodeId))
  /-- A mapping. -/
  | mapping (fields : List Field)
  /-- A set. -/
  | set (items : List Value)

instance : Inhabited Object := ⟨.value .null⟩

/-- Whether a key is not a number, though of the type of one.  Such a key equals no other. -/
def Field.isNaN (f : Field) : Bool :=
  match f.key with
  | .float x => Decimal.Content.of x == .nan
  | _ => false

/-- Two keys are the same if they are one object, or equal. -/
def Field.sameKey (f g : Field) : Bool := f.source == g.source || (!f.isNaN && f.key.sameKey g.key)

/-- Sets a field: a key that is there keeps its place and its own form. -/
def Field.insert (new : Field) : List Field → List Field
  | [] => [new]
  | f :: rest => if f.sameKey new then { f with value := new.value } :: rest else f :: insert new rest

/-! ## Building -/

/-- The objects of a document, as far as they are made. -/
structure Builder where
  /-- The nodes. -/
  nodes : Array Node
  /-- The objects of those nodes that have one. -/
  objects : Array (Option Object)
  /-- The collections met so far, in order. -/
  queue : Array NodeId := #[]

/-- Work on the objects of a document. -/
abbrev Building := StateT Builder (Except Error)

namespace Building

/-- The node of a number. -/
def node (id : NodeId) : Building Node := return (← get).nodes[id]?.getD default

/-- Makes an object the object of a node. -/
def setObject (id : NodeId) (o : Object) : Building Unit :=
  modify fun b => { b with objects := b.objects.setIfInBounds id (some o) }

/-- The complaint about a node that has not the form its tag asks for. -/
def formError (expected : Text) (n : Node) : Error :=
  .plain ("expected a " ++ expected ++ " node, but found " ++ n.form.name) n.mark

/-- The text that a node counts as where a scalar is needed: a mapping counts as what stands behind its
    key `=`.  With fuel for all nodes, a way that does not end is one in a circle. -/
def scalarText (nodes : Array Node) : Nat → NodeId → Except Error Text
  | 0, _ => .error (.value .endless)
  | fuel + 1, id =>
    let n := nodes[id]?.getD default
    match n.form with
    | .scalar t => .ok t
    | .sequence _ => .error (formError "scalar" n)
    | .mapping entries =>
      match entries.find? fun e => (nodes[e.1]?.map (·.tag)) == some .standIn with
      | some (_, value) => scalarText nodes fuel value
      | none => .error (formError "scalar" n)

/-- The object of a node as it is when the node is first met, a collection without its parts. -/
def first (id : NodeId) : Building Object := do
  let n ← node id
  match n.tag with
  | .sequence => return .list []
  | .mapping => return .mapping []
  | .set => return .set []
  | .pairs | .orderedMap => return .pairs []
  | .unknown _ | .merge | .standIn =>
    throw (.plain ("could not determine a constructor for the tag " ++ n.tag.name.quoted) n.mark)
  | tag => do
    let nodes := (← get).nodes
    let t ← scalarText nodes (nodes.size + 1) id
    match tag, n.form with
    | .timestamp, .mapping _ => throw (.value .listAsText)
    | _, _ => return .value (← scalarMeaning tag t n.mark)

/-- The object of a node. -/
def construct (id : NodeId) : Building Object := do
  match ((← get).objects[id]?).join with
  | some o => return o
  | none => do
    let o ← first id
    setObject id o
    match o with
    | .value _ => return o
    | _ => do
      modify fun b => { b with queue := b.queue.push id }
      return o

/-! ## Filling collections -/

/-- The fields of a mapping that starts at `start`, behind those `found` before. -/
def fieldsOf (start : Mark) (found : List Field) : List (NodeId × NodeId) → Building (List Field)
  | [] => return found
  | (k, v) :: rest => do
    let n ← node k
    match ← construct k with
    | .value key => do
      let source := match n.form with
        | .scalar t => if n.tag = .float && isNanWord t then none else some k
        | _ => some k
      let _ ← construct v
      fieldsOf start (Field.insert ⟨key, source, v⟩ found) rest
    | _ => throw (.during "while constructing a mapping" start "found unhashable key" n.mark)

/-- The fields of a node. -/
def mappingFields (id : NodeId) : Building (List Field) := do
  let n ← node id
  match n.form with
  | .mapping _ => do
    let nodes ← merged (← get).nodes id
    modify fun b => { b with nodes }
    fieldsOf n.mark [] (← node id).entries
  | _ => throw (formError "mapping" n)

/-- The pairs of a node; `context` says what is being built. -/
def pairsOf (context : Text) (id : NodeId) : Building (List (NodeId × NodeId)) := do
  let n ← node id
  match n.form with
  | .sequence items => items.mapM fun item => do
    let m ← node item
    match m.form with
    | .mapping [(k, v)] => do
      let _ ← construct k
      let _ ← construct v
      return (k, v)
    | .mapping entries =>
      throw (.during context n.mark ("expected a single mapping item, but found " ++
        Text.natural entries.length ++ " items") m.mark)
    | _ => throw (.during context n.mark
        ("expected a mapping of length 1, but found " ++ m.form.name) m.mark)
  | _ => throw (.during context n.mark ("expected a sequence, but found " ++ n.form.name) n.mark)

/-- Gives a collection its parts. -/
def fill (id : NodeId) : Building Unit := do
  let n ← node id
  match n.tag with
  | .sequence =>
    match n.form with
    | .sequence items => do
      items.forM fun item => do let _ ← construct item
      setObject id (.list items)
    | _ => throw (formError "sequence" n)
  | .mapping => do setObject id (.mapping (← mappingFields id))
  | .set => do
    let fields ← mappingFields id
    setObject id (.set (Value.setOrder (fields.map (·.key))))
  | .pairs => do setObject id (.pairs (← pairsOf "while constructing pairs" id))
  | .orderedMap => do setObject id (.pairs (← pairsOf "while constructing an ordered map" id))
  | _ => return

/-- Fills the collections in the queue from a place on; `fuel` bounds their number. -/
def fillFrom (turn : Nat) : Nat → Building Unit
  | 0 => return
  | fuel + 1 => do
    match (← get).queue[turn]? with
    | none => return
    | some id => do
      fill id
      fillFrom (turn + 1) fuel

/-- Builds the objects that a document is made of. -/
def all (root : NodeId) : Building Unit := do
  let _ ← construct root
  fillFrom 0 (← get).nodes.size

end Building

/-- The objects of the nodes of a document.  A node that is no part of it has the absent value. -/
def Graph.objects (g : Graph) : Except Error (Array Object) := do
  let start : Builder := { nodes := g.nodes, objects := g.nodes.map fun _ => none }
  let (_, b) ← (Building.all g.root).run start
  return b.objects.map (·.getD default)

end TapeLang.Yaml
