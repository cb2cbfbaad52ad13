/-
  Merge — mappings that take entries from other mappings.

  Behind a key `<<` stands a mapping, or a sequence of them, whose entries go in front of those of the
  mapping itself, where a later entry prevails.  Of several mappings in a sequence an earlier one
  prevails, so its entries come later.  A mapping to take entries from is itself merged first.

  Merging removes the keys `<<` one by one, each before the entries behind it are looked at.  So it comes
  to an end even for a mapping that takes entries from itself: every step needs a key `<<`, and there is
  one less of them after it.
-/
import TapeLang.Yaml.Node

namespace TapeLang.Yaml

/-- Work on the nodes of a document. -/
abbrev Merging := StateT (Array Node) (Except Error)

namespace Merging

/-- The node of a number. -/
def node (id : NodeId) : Merging Node := return (← get)[id]?.getD default

/-- Changes the entries of a mapping. -/
def setEntries (id : NodeId) (entries : List (NodeId × NodeId)) : Merging Unit :=
  modify fun nodes => nodes.modify id fun n => { n with form := .mapping entries }

/-- Makes the keys `=` of some entries texts. -/
def textKeys (entries : List (NodeId × NodeId)) : Merging Unit :=
  modify fun nodes => entries.foldl (fun nodes e => nodes.modify e.1 fun n =>
    if n.tag = .standIn then { n with tag := .text } else n) nodes

/-- Removes the first key `<<` of a mapping: the node behind it. -/
def takeFirst (id : NodeId) : Merging (Option NodeId) := do
  let nodes ← get
  let entries := (nodes[id]?.map Node.entries).getD []
  let before := entries.takeWhile fun e => (nodes[e.1]?.map (·.tag)) != some .merge
  match entries.drop before.length with
  | [] => return none
  | (_, value) :: rest =>
    setEntries id (before ++ rest)
    return some value

/-- The complaint about a node in the place of a mapping to take entries from. -/
def unfit (start : Mark) (expected : Text) (found : Node) : Error :=
  .during "while constructing a mapping" start
    ("expected " ++ expected ++ " for merging, but found " ++ found.form.name) found.mark

mutual

/-- Merges a mapping. -/
def merge : Nat → NodeId → Merging Unit
  | 0, _ => return
  | fuel + 1, id => do
    let taken ← takeAll fuel id []
    let own := (← node id).entries
    textKeys own
    if !taken.isEmpty then setEntries id (taken ++ own)

/-- Removes the keys `<<` of a mapping: the entries that they ask for, behind those `found` before. -/
def takeAll : Nat → NodeId → List (NodeId × NodeId) → Merging (List (NodeId × NodeId))
  | 0, _, found => return found
  | fuel + 1, id, found => do
    match ← takeFirst id with
    | none => return found
    | some value => takeAll fuel id (found ++ (← entriesOf fuel (← node id).mark value))

/-- The entries of a node behind a key `<<`. -/
def entriesOf : Nat → Mark → NodeId → Merging (List (NodeId × NodeId))
  | 0, _, _ => return []
  | fuel + 1, start, id => do
    let n ← node id
    match n.form with
    | .mapping _ =>
      merge fuel id
      return (← node id).entries
    | .sequence items =>
      let parts ← items.mapM fun item => do
        let m ← node item
        match m.form with
        | .mapping _ =>
          merge fuel item
          return (← node item).entries
        | _ => throw (unfit start "a mapping" m)
      return parts.reverse.flatten
    | .scalar _ => throw (unfit start "a mapping or list of mappings" n)

end

/-- The number of entries in all mappings. -/
def entryCount (nodes : Array Node) : Nat := nodes.foldl (fun k n => k + n.entries.length) 0

end Merging

/-- Whether a mapping has a key that merging changes. -/
def Merging.concerns (nodes : Array Node) (id : NodeId) : Bool :=
  ((nodes[id]?.map Node.entries).getD []).any fun e =>
    nodes[e.1]?.any fun key => key.tag = .merge || key.tag = .standIn

/-- The nodes of a document with one mapping merged.  The fuel is three for every key `<<` there may be,
    and three for the mapping itself. -/
def merged (nodes : Array Node) (id : NodeId) : Except Error (Array Node) :=
  if Merging.concerns nodes id then
    ((Merging.merge (3 * Merging.entryCount nodes + 3) id).run nodes).map (·.2)
  else .ok nodes

end TapeLang.Yaml
