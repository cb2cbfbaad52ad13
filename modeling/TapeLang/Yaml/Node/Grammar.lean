/-
  Grammar — the tokens of a document as a graph of nodes.

  The input of a row of tokens looks one token ahead and never back.  Blocks are nested by their start
  and end tokens, and brackets by theirs; a sequence that is the value of a key may stand at the column
  of the key, without a start and an end of its own.  Where a node is missing, the empty plain scalar
  stands for it.

  A node may be named by an anchor, once, and an alias means the node of that name.  A collection has its
  name, and its number, before its elements are read, so it may be one of them.
-/
import TapeLang.Yaml.Node.Plain
import TapeLang.Yaml.Token.Lexer

namespace TapeLang.Yaml

/-! ## Reading tokens -/

/-- What is not read yet, and what the tokens before it have named. -/
structure Unread where
  /-- What is left. -/
  tokens : List Token
  /-- What is met behind the last token. -/
  behind : Error
  /-- Where the token read last starts. -/
  last : Mark := ⟨0, 0⟩
  /-- The nodes so far. -/
  nodes : Array Node := #[]
  /-- The nodes that have a name, the latest one first. -/
  anchors : List (Text × NodeId) := []
  /-- What the handles of tags stand for. -/
  handles : List (Text × Text) := []

/-- A rule: it takes tokens and gives what they stand for, or fails. -/
abbrev Grammar := StateT Unread (Except Error)

namespace Grammar

/-- The next token. -/
def peek : Grammar Token := do
  let c ← get
  match c.tokens with
  | t :: _ => return t
  | [] => throw c.behind

/-- Passes over the next token. -/
def advance : Grammar Unit := modify fun c =>
  { c with tokens := c.tokens.tail, last := (c.tokens.head?.map (·.mark)).getD c.last }

/-- Passes over the next token if it is of a kind. -/
def accept (p : TokenKind → Bool) : Grammar Bool := do
  let t ← peek
  if p t.kind then advance
  return p t.kind

/-- Whether the next token is of a kind. -/
def sees (p : TokenKind → Bool) : Grammar Bool := return p (← peek).kind

/-- Fails because of the next token. -/
def unexpected {α : Type} (context : Text) (start : Mark) (expected : Text) : Grammar α := do
  let t ← peek
  throw (.during context start (expected ++ Text.quoted t.kind.name) t.mark)

/-- The same without a context. -/
def unexpectedHere {α : Type} (expected : Text) : Grammar α := do
  let t ← peek
  throw (.plain (expected ++ Text.quoted t.kind.name) t.mark)

/-- Adds a node. -/
def add (tag : Tag) (form : Form) (mark : Mark) : Grammar NodeId :=
  modifyGet fun c => (c.nodes.size, { c with nodes := c.nodes.push ⟨tag, form, mark⟩ })

/-- Gives a node another form. -/
def fill (id : NodeId) (form : Form) : Grammar Unit :=
  modify fun c => { c with nodes := c.nodes.modify id fun n => { n with form } }

/-- The empty plain scalar before the next token. -/
def absent : Grammar NodeId := do add .null (.scalar []) (← peek).mark

/-- The empty plain scalar behind the sign read last. -/
def absentBehind : Grammar NodeId := do
  let m := (← get).last
  add .null (.scalar []) ⟨m.line, m.column + 1⟩

end Grammar

/-! ## Kinds of tokens -/

namespace TokenKind

/-- A hyphen. -/
def isBlockEntry : TokenKind → Bool
  | blockEntry => true
  | _ => false

/-- The end of a block. -/
def isBlockEnd : TokenKind → Bool
  | blockEnd => true
  | _ => false

/-- The mark of a key. -/
def isKey : TokenKind → Bool
  | key => true
  | _ => false

/-- The mark of a value. -/
def isValue : TokenKind → Bool
  | value => true
  | _ => false

/-- A comma. -/
def isFlowEntry : TokenKind → Bool
  | flowEntry => true
  | _ => false

/-- A closing square bracket. -/
def isSequenceEnd : TokenKind → Bool
  | flowSequenceEnd => true
  | _ => false

/-- A closing curly bracket. -/
def isMappingEnd : TokenKind → Bool
  | flowMappingEnd => true
  | _ => false

/-- What follows a key, a value or an entry of a block if there is nothing to it. -/
def endsBlockItem (k : TokenKind) : Bool := k.isKey || k.isValue || k.isBlockEnd

/-- The line `---`. -/
def isDocumentStart : TokenKind → Bool
  | documentStart => true
  | _ => false

/-- The line `...`. -/
def isDocumentEnd : TokenKind → Bool
  | documentEnd => true
  | _ => false

/-- The end of the text. -/
def isStreamEnd : TokenKind → Bool
  | streamEnd => true
  | _ => false

/-- A directive. -/
def isDirective : TokenKind → Bool
  | directive _ => true
  | _ => false

end TokenKind

/-! ## What stands before a node -/

/-- The anchor and the tag of a node, and where they start. -/
structure Property where
  /-- The anchor. -/
  anchor : Option Text := none
  /-- The tag, and where it stands. -/
  tag : Option (TagName × Mark) := none
  /-- Where the first of them starts. -/
  start : Option Mark := none

namespace Grammar

/-- Reads an anchor, if there is one. -/
def anchor? : Grammar (Option (Text × Mark)) := do
  let t ← peek
  match t.kind with
  | .anchor name => do
    advance
    return some (name, t.mark)
  | _ => return none

/-- Reads a tag, if there is one. -/
def tag? : Grammar (Option (TagName × Mark)) := do
  let t ← peek
  match t.kind with
  | .tag name => do
    advance
    return some (name, t.mark)
  | _ => return none

/-- Reads an anchor and a tag, in either order. -/
def property : Grammar Property := do
  match ← anchor? with
  | some (anchor, start) => return { anchor := some anchor, tag := ← tag?, start := some start }
  | none =>
    match ← tag? with
    | some (tag, start) =>
      return { anchor := (← anchor?).map (·.1), tag := some (tag, start), start := some start }
    | none => return {}

/-- The name of the tag that is written, the handle replaced by what it stands for.  A single
    exclamation mark counts as no tag, but makes a scalar a plain one. -/
def tagText (p : Property) : Grammar (Option Text) := do
  match p.tag with
  | none => return none
  | some (⟨none, suffix⟩, _) => return some suffix
  | some (⟨some handle, suffix⟩, mark) =>
    match (← get).handles.lookup handle with
    | some stem => return some (stem ++ suffix)
    | none => throw (.during "while parsing a node" (p.start.getD mark)
        ("found undefined tag handle " ++ handle.quoted) mark)

/-- The tag of a scalar. -/
def scalarTag (written : Option Text) (text : Text) (plain : Bool) : Tag :=
  match written with
  | none => if plain then .ofPlain text else .text
  | some name => if name == "!" then .ofPlain text else .ofName name

/-- The tag of a collection. -/
def collectionTag (written : Option Text) (usual : Tag) : Tag :=
  match written with
  | none => usual
  | some name => if name == "!" then usual else .ofName name

/-- Refuses a name that a node has already. -/
def checkAnchor (anchor : Option Text) (mark : Mark) : Grammar Unit := do
  if let some a := anchor then
    let c ← get
    if let some earlier := c.anchors.lookup a then
      throw (.during ("found duplicate anchor " ++ a.quoted ++ "; first occurrence")
        ((c.nodes[earlier]?.map (·.mark)).getD mark) "second occurrence" mark)

/-- Adds a node and gives it its name, if it has one. -/
def addNamed (anchor : Option Text) (tag : Tag) (form : Form) (mark : Mark) : Grammar NodeId := do
  let id ← add tag form mark
  if let some a := anchor then modify fun c => { c with anchors := (a, id) :: c.anchors }
  return id

/-! ## Nodes -/

/-- What may stand in the place of a node. -/
inductive Place where
  /-- Blocks and brackets. -/
  | block
  /-- These, and a sequence without a start of its own. -/
  | mappingValue
  /-- Brackets alone. -/
  | flow
  deriving DecidableEq

mutual

/-- Reads a node. -/
def node (place : Place) : Nat → Grammar NodeId
  | 0 => unexpectedHere "expected the end of the document, but found "
  | fuel + 1 => do
    let first ← peek
    if let .reference a := first.kind then
      advance
      match (← get).anchors.lookup a with
      | some id => return id
      | none => throw (.plain ("found undefined alias " ++ a.quoted) first.mark)
    let p ← property
    let written ← tagText p
    let t ← peek
    let start := p.start.getD t.mark
    let sequence (read : Grammar (List NodeId)) : Grammar NodeId := do
      let id ← addNamed p.anchor (collectionTag written .sequence) (.sequence []) start
      fill id (.sequence (← read))
      return id
    let mapping (read : Grammar (List (NodeId × NodeId))) : Grammar NodeId := do
      let id ← addNamed p.anchor (collectionTag written .mapping) (.mapping []) start
      fill id (.mapping (← read))
      return id
    match t.kind, place with
    | .blockEntry, .mappingValue => do
      checkAnchor p.anchor start
      sequence (looseEntries fuel [])
    | .scalar text plain, _ =>
      checkAnchor p.anchor start
      advance
      addNamed p.anchor (scalarTag written text plain) (.scalar text) start
    | .flowSequenceStart, _ =>
      checkAnchor p.anchor start
      advance
      sequence (flowItems t.mark fuel [])
    | .flowMappingStart, _ =>
      checkAnchor p.anchor start
      advance
      mapping (flowFields t.mark fuel [])
    | .blockSequenceStart, .block | .blockSequenceStart, .mappingValue =>
      checkAnchor p.anchor start
      advance
      sequence (blockEntries t.mark fuel [])
    | .blockMappingStart, .block | .blockMappingStart, .mappingValue =>
      checkAnchor p.anchor start
      advance
      mapping (blockFields t.mark fuel [])
    | _, _ =>
      if p.start.isSome then
        checkAnchor p.anchor start
        addNamed p.anchor (scalarTag written [] true) (.scalar []) start
      else
        unexpected
          (if place = .flow then "while parsing a flow node" else "while parsing a block node") start
          "expected the node content, but found "

/-- Reads the entries of a block sequence up to its end. -/
def blockEntries (start : Mark) : Nat → List NodeId → Grammar (List NodeId)
  | 0, _ => unexpectedHere "expected the end of the document, but found "
  | fuel + 1, found => do
    if ← accept (·.isBlockEntry) then
      let item ←
        if ← sees fun k => k.isBlockEntry || k.isBlockEnd then absentBehind else node .block fuel
      blockEntries start fuel (item :: found)
    else if ← accept (·.isBlockEnd) then return found.reverse
    else unexpected "while parsing a block collection" start "expected <block end>, but found "

/-- Reads the entries of a sequence that has no start of its own, and no end either. -/
def looseEntries : Nat → List NodeId → Grammar (List NodeId)
  | 0, _ => unexpectedHere "expected the end of the document, but found "
  | fuel + 1, found => do
    if ← accept (·.isBlockEntry) then
      let item ←
        if ← sees fun k => k.isBlockEntry || k.endsBlockItem then absentBehind else node .block fuel
      looseEntries fuel (item :: found)
    else return found.reverse

/-- Reads the entries of a block mapping up to its end. -/
def blockFields (start : Mark) : Nat → List (NodeId × NodeId) → Grammar (List (NodeId × NodeId))
  | 0, _ => unexpectedHere "expected the end of the document, but found "
  | fuel + 1, found => do
    if ← accept (·.isKey) then
      let key ← if ← sees (·.endsBlockItem) then absentBehind else node .mappingValue fuel
      let value ←
        if ← accept (·.isValue) then
          if ← sees (·.endsBlockItem) then absentBehind else node .mappingValue fuel
        else absent
      blockFields start fuel ((key, value) :: found)
    else if ← accept (·.isBlockEnd) then return found.reverse
    else unexpected "while parsing a block mapping" start "expected <block end>, but found "

/-- Reads the elements of a sequence in brackets up to the closing one.  An element may be a mapping
    with a single entry. -/
def flowItems (start : Mark) : Nat → List NodeId → Grammar (List NodeId)
  | 0, _ => unexpectedHere "expected the end of the document, but found "
  | fuel + 1, found => do
    if ← accept (·.isSequenceEnd) then return found.reverse
    if !found.isEmpty then
      if !(← accept (·.isFlowEntry)) then
        unexpected "while parsing a flow sequence" start "expected ',' or ']', but got "
    let t ← peek
    if ← accept (·.isKey) then
      let ends (k : TokenKind) : Bool := k.isFlowEntry || k.isSequenceEnd
      let key ← if ← sees fun k => k.isValue || ends k then absentBehind else node .flow fuel
      let value ←
        if ← accept (·.isValue) then
          if ← sees ends then absentBehind else node .flow fuel
        else absent
      flowItems start fuel ((← add .mapping (.mapping [(key, value)]) t.mark) :: found)
    else if ← accept (·.isSequenceEnd) then return found.reverse
    else
      let item ← node .flow fuel
      flowItems start fuel (item :: found)

/-- Reads the entries of a mapping in brackets up to the closing one. -/
def flowFields (start : Mark) : Nat → List (NodeId × NodeId) → Grammar (List (NodeId × NodeId))
  | 0, _ => unexpectedHere "expected the end of the document, but found "
  | fuel + 1, found => do
    if ← accept (·.isMappingEnd) then return found.reverse
    if !found.isEmpty then
      if !(← accept (·.isFlowEntry)) then
        unexpected "while parsing a flow mapping" start "expected ',' or '\x7d', but got "
    let ends (k : TokenKind) : Bool := k.isFlowEntry || k.isMappingEnd
    if ← accept (·.isKey) then
      let key ← if ← sees fun k => k.isValue || ends k then absentBehind else node .flow fuel
      let value ←
        if ← accept (·.isValue) then
          if ← sees ends then absentBehind else node .flow fuel
        else absent
      flowFields start fuel ((key, value) :: found)
    else if ← accept (·.isMappingEnd) then return found.reverse
    else
      let key ← node .flow fuel
      let value ← absent
      flowFields start fuel ((key, value) :: found)

end

/-! ## The document -/

/-- The handles that every document has. -/
def usualHandles : List (Text × Text) := [("!", "!"), ("!!", Tag.stem)]

/-- Reads the directives of a document. -/
def directives (fuel : Nat) (version : Bool) (handles : List (Text × Text)) : Grammar Unit := do
  match fuel with
  | 0 => return
  | fuel + 1 =>
    let t ← peek
    match t.kind with
    | .directive d =>
      advance
      match d with
      | .version major _ =>
        if version then throw (.plain "found duplicate YAML directive" t.mark)
        if major != 1 then
          throw (.plain "found incompatible YAML document (version 1.* is required)" t.mark)
        directives fuel true handles
      | .handle name stem =>
        if (handles.lookup name).isSome then
          throw (.plain ("duplicate tag handle " ++ name.quoted) t.mark)
        directives fuel version ((name, stem) :: handles)
      | .other => directives fuel version handles
    | _ => modify fun c => { c with handles := handles ++ usualHandles }

/-- Passes over lines `...`. -/
def separators : Nat → Grammar Unit
  | 0 => return
  | fuel + 1 => do if ← accept (·.isDocumentEnd) then separators fuel

/-- Reads directives and the line `---`, or the end of the text; whether it was the line. -/
def documentStart (fuel : Nat) : Grammar Bool := do
  separators fuel
  if ← sees (·.isStreamEnd) then return false
  directives fuel false []
  if ← accept (·.isDocumentStart) then return true
  unexpectedHere "expected '<document start>', but found "

/-- Reads the only document of a text, if there is one. -/
def document (fuel : Nat) : Grammar (Option NodeId) := do
  let first ← peek
  if first.kind.isDirective || first.kind.isDocumentStart || first.kind.isStreamEnd then
    if !(← documentStart fuel) then return none
    let k := (← peek).kind
    let root ←
      if k.isDirective || k.isDocumentStart || k.isDocumentEnd || k.isStreamEnd then absent
      else node .block fuel
    finish root
  else
    modify fun c => { c with handles := usualHandles }
    let root ← node .block fuel
    finish root
where
  /-- Refuses a second document. -/
  finish (root : NodeId) : Grammar (Option NodeId) := do
    separators fuel
    let t ← peek
    if ← documentStart fuel then
      let start := ((← get).nodes[root]?.map (·.mark)).getD t.mark
      throw (.during "expected a single document in the stream" start
        "but found another document" t.mark)
    return some root

end Grammar

/-- The only document of a row of tokens, if there is one. -/
def Graph.ofTokens? (l : Lexed) : Except Error (Option Graph) := do
  let behind := l.error.getD (.plain "expected nothing more" ⟨0, 0⟩)
  let (root, read) ← (Grammar.document (4 * l.tokens.length + 8)).run { tokens := l.tokens, behind }
  return root.map fun root => ⟨read.nodes, root⟩

end TapeLang.Yaml
