/-
  Lexer — a document as a row of tokens.

  Indentation makes blocks: the columns at which the open blocks start are kept in a stack, the
  innermost one first.  Brackets switch indentation off.

  The crux is the **simple key**.  That a scalar is a key shows only at the colon behind it, and by then
  it is a token already; the sign that a key follows has to go in front of it, and the start of a mapping
  in front of that.  So at each depth of brackets one token is remembered that may yet turn out to be a
  key.  It has to be on the line of the colon, and not more than 1024 signs away.

  Whoever reads tokens one by one meets a wrong token before a wrong sign behind it, unless a token
  before both is still undecided.  `Lexed` keeps to that: in front of an error stand the tokens that are
  settled when the token with the error is asked for, and no others.
-/
import TapeLang.Yaml.Token.Directive
import TapeLang.Yaml.Token.Row

namespace TapeLang.Yaml

/-- A token that may yet turn out to be a key. -/
structure PossibleKey where
  /-- How many tokens stand before it. -/
  number : Nat
  /-- Whether it can be nothing else, by its column. -/
  required : Bool
  /-- How many signs stand before it. -/
  index : Nat
  /-- Where it starts. -/
  mark : Mark

/-- The work half done. -/
structure Lexer where
  /-- What is left of the document. -/
  input : Input
  /-- The tokens so far. -/
  tokens : TokenRow := {}
  /-- The columns of the open blocks, the innermost one first. -/
  indents : List Nat := []
  /-- Whether a key may start here. -/
  keyAllowed : Bool := true
  /-- The possible key at this depth of brackets. -/
  possible : Option PossibleKey := none
  /-- The possible keys at the depths around it, the nearest one first. -/
  outer : List (Option PossibleKey) := []

/-- The tokens of a document; if it cannot be read to its end, those that are settled, and why. -/
structure Lexed where
  /-- The tokens. -/
  tokens : List Token
  /-- What comes behind the last one, if it is not the end of the document. -/
  error : Option Error

namespace Lexer

/-! ## Small steps -/

/-- Whether the next sign is inside brackets. -/
def inFlow (l : Lexer) : Bool := !l.outer.isEmpty

/-- The place of the next sign. -/
def mark (l : Lexer) : Mark := l.input.mark

/-- The least column for what belongs to the innermost block. -/
def inner (l : Lexer) : Nat :=
  match l.indents with
  | [] => 0
  | column :: _ => column + 1

/-- Adds a token that starts with the next sign. -/
def push (l : Lexer) (kind : TokenKind) : Lexer := { l with tokens := l.tokens.push ⟨kind, l.mark⟩ }

/-- Adds a token of so many signs. -/
def pushSign (l : Lexer) (kind : TokenKind) (size : Nat := 1) : Except Error Lexer := do
  let l := l.push kind
  return { l with input := ← l.input.skip size }

/-- Ends the blocks that start behind a column. -/
def closeTo (l : Lexer) (column : Nat) : Lexer :=
  if l.inFlow then l
  else
    let gone := (l.indents.takeWhile (column < ·)).length
    { l with
      indents := l.indents.drop gone
      tokens := l.tokens.pushAll ⟨.blockEnd, l.mark⟩ gone }

/-- Ends all blocks. -/
def closeAll (l : Lexer) : Lexer :=
  if l.inFlow then l
  else
    { l with
      indents := []
      tokens := l.tokens.pushAll ⟨.blockEnd, l.mark⟩ l.indents.length }

/-- Starts a block at a column, unless one starts there; the token goes to the given place. -/
def openAt (l : Lexer) (kind : TokenKind) (column place : Nat) (mark : Mark) : Lexer :=
  if column < l.inner then l
  else
    { l with
      indents := column :: l.indents
      tokens := l.tokens.insert place ⟨kind, mark⟩ }

/-- Starts a block with the next sign. -/
def openHere (l : Lexer) (kind : TokenKind) : Lexer :=
  l.openAt kind l.mark.column l.tokens.size l.mark

/-! ## Possible keys -/

/-- The complaint about a key without its colon. -/
def missingColon (l : Lexer) (k : PossibleKey) : Error :=
  .during "while scanning a simple key" k.mark "could not find expected ':'" l.mark

/-- Gives the possible key at this depth up. -/
def forget (l : Lexer) : Except Error Lexer :=
  match l.possible with
  | some k => if k.required then .error (l.missingColon k) else .ok { l with possible := none }
  | none => .ok l

/-- Remembers that the next token may be a key. -/
def remember (l : Lexer) : Except Error Lexer :=
  if !l.keyAllowed then .ok l
  else do
    let l ← l.forget
    let required := !l.inFlow && l.indents.head? == some l.mark.column
    return { l with possible := some ⟨l.tokens.size, required, l.input.index, l.mark⟩ }

/-- Whether a possible key is out of reach. -/
def isStale (l : Lexer) (k : PossibleKey) : Bool :=
  k.mark.line != l.mark.line || l.input.index - k.index > 1024

/-- Gives up the possible keys that are out of reach. -/
def dropStale (l : Lexer) : Except Error Lexer :=
  let stale (o : Option PossibleKey) : Bool := o.any l.isStale
  let keep (o : Option PossibleKey) : Option PossibleKey := if stale o then none else o
  match (l.outer.reverse ++ [l.possible]).find? fun o => stale o && o.any (·.required) with
  | some (some k) => .error (l.missingColon k)
  | _ => .ok { l with possible := keep l.possible, outer := l.outer.map keep }

/-- The number of tokens that no possible key can still come before. -/
def settled (l : Lexer) : Nat :=
  (l.possible :: l.outer).foldl (fun n o => match o with
    | some k => min n k.number
    | none => n) l.tokens.size

/-! ## Tokens -/

/-- Passes over spaces, comments and line breaks. -/
def skipBlank : Nat → Lexer → Except Error Lexer
  | 0, l => .ok l
  | fuel + 1, l => do
    let r ← l.input.spaces
    let r ← if r.starts '#' then r.restOfLine else pure r
    match ← r.break? with
    | some (_, r) => skipBlank fuel { l with input := r, keyAllowed := l.keyAllowed || !l.inFlow }
    | none => return { l with input := r }

/-- The end of the text. -/
def streamEnd (l : Lexer) : Except Error Lexer := do
  let l ← l.closeAll.forget
  return { l with keyAllowed := false, possible := none, outer := [] }.push .streamEnd

/-- A directive. -/
def directiveLine (l : Lexer) : Except Error Lexer := do
  let l ← l.closeAll.forget
  let (d, r) ← directive l.input
  return { l.push (.directive d) with keyAllowed := false, input := r }

/-- A line that separates documents. -/
def separator (l : Lexer) (kind : TokenKind) : Except Error Lexer := do
  let l ← l.closeAll.forget
  { l with keyAllowed := false }.pushSign kind 3

/-- An opening bracket. -/
def openBracket (l : Lexer) (kind : TokenKind) : Except Error Lexer := do
  let l ← l.remember
  { l with outer := l.possible :: l.outer, possible := none, keyAllowed := true }.pushSign kind

/-- A closing bracket.  One without an opening bracket is the last token: no document goes on behind
    it. -/
def closeBracket (l : Lexer) (kind : TokenKind) : Except Error Lexer := do
  let l ← l.forget
  { l with
    possible := l.outer.head?.join, outer := l.outer.tail, keyAllowed := false }.pushSign kind

/-- A comma. -/
def flowEntry (l : Lexer) : Except Error Lexer := do
  let l ← { l with keyAllowed := true }.forget
  l.pushSign .flowEntry

/-- A hyphen. -/
def blockEntry (l : Lexer) : Except Error Lexer := do
  if !l.inFlow && !l.keyAllowed then
    throw (.plain "sequence entries are not allowed here" l.mark)
  let l := if l.inFlow then l else l.openHere .blockSequenceStart
  let l ← { l with keyAllowed := true }.forget
  l.pushSign .blockEntry

/-- A question mark before a key. -/
def explicitKey (l : Lexer) : Except Error Lexer := do
  if !l.inFlow && !l.keyAllowed then throw (.plain "mapping keys are not allowed here" l.mark)
  let l := if l.inFlow then l else l.openHere .blockMappingStart
  let l ← { l with keyAllowed := !l.inFlow }.forget
  l.pushSign .key

/-- A colon before a value. -/
def value (l : Lexer) : Except Error Lexer :=
  match l.possible with
  | some k =>
    let l := { l with
      possible := none
      keyAllowed := false
      tokens := l.tokens.insert k.number ⟨.key, k.mark⟩ }
    let l := if l.inFlow then l else l.openAt .blockMappingStart k.mark.column k.number k.mark
    l.pushSign .value
  | none => do
    if !l.inFlow && !l.keyAllowed then throw (.plain "mapping values are not allowed here" l.mark)
    let l := if l.inFlow then l else l.openHere .blockMappingStart
    { l with keyAllowed := !l.inFlow }.pushSign .value

/-- A token that may be a key, and is read by the given function. -/
def keyLike (l : Lexer) (read : Input → Except Error (TokenKind × Input)) : Except Error Lexer := do
  let l ← l.remember
  let (kind, r) ← read l.input
  return { l.push kind with keyAllowed := false, input := r }

/-- A plain scalar.  Behind a line break another key may start. -/
def plain (l : Lexer) : Except Error Lexer := do
  let l ← l.remember
  let s ← plainScalar l.inFlow l.inner l.input
  return { l.push (.scalar s.text true) with keyAllowed := s.broken, input := s.rest }

/-- A block scalar. -/
def block (l : Lexer) (fold : Bool) : Except Error Lexer := do
  let l ← { l with keyAllowed := true }.forget
  let (t, r) ← blockScalar fold (max 1 l.inner) l.input
  return { l.push (.scalar t false) with input := r }

/-- Whether a plain scalar can start with a sign.  For a sign with a meaning of its own that depends on
    the next one. -/
def startsPlain (l : Lexer) (c : CodePoint) : Except Error Bool := do
  if !(isGap (some c) || isOneOf "-?:,[]\x7b\x7d#&*!|>'\"%@\x60" (some c)) then return true
  if isGap (← l.input.peek 1) then return false
  return c.is '-' || (!l.inFlow && (c.is '?' || c.is ':'))

/-- The kind of the line that separates documents here, if there is one. -/
def separator? (l : Lexer) (c : CodePoint) : Except Error (Option TokenKind) := do
  if l.mark.column != 0 then return none
  if c.is '-' then if ← l.input.seesLine "---" then return some .documentStart
  if c.is '.' then if ← l.input.seesLine "..." then return some .documentEnd
  return none

/-- Whether a sign that stands alone is one of a block or of brackets. -/
def standsAlone (l : Lexer) (inBrackets : Bool) : Except Error Bool := do
  if inBrackets && l.inFlow then return true else return isGap (← l.input.peek 1)

/-- Reads the token at the place where the lexer is, which is behind blanks.  Which one it is shows in
    one or two signs. -/
def tokenHere (l : Lexer) (c : CodePoint) : Except Error Lexer := do
  if c.is '%' && l.mark.column == 0 then return ← l.directiveLine
  if let some kind := ← l.separator? c then return ← l.separator kind
  if c.is '[' then return ← l.openBracket .flowSequenceStart
  if c.is '\x7b' then return ← l.openBracket .flowMappingStart
  if c.is ']' then return ← l.closeBracket .flowSequenceEnd
  if c.is '\x7d' then return ← l.closeBracket .flowMappingEnd
  if c.is ',' then return ← l.flowEntry
  if c.is '-' then if ← l.standsAlone false then return ← l.blockEntry
  if c.is '?' then if ← l.standsAlone true then return ← l.explicitKey
  if c.is ':' then if ← l.standsAlone true then return ← l.value
  if c.is '*' then
    return ← l.keyLike fun r => (anchorName "alias" r).map fun (n, r) => (.reference n, r)
  if c.is '&' then
    return ← l.keyLike fun r => (anchorName "anchor" r).map fun (n, r) => (.anchor n, r)
  if c.is '!' then return ← l.keyLike fun r => (tagName r).map fun (t, r) => (.tag t, r)
  if c.is '|' && !l.inFlow then return ← l.block false
  if c.is '>' && !l.inFlow then return ← l.block true
  if c.is '\x27' || c.is '\x22' then
    return ← l.keyLike fun r => (quotedScalar c.toChar r).map fun (t, r) => (.scalar t false, r)
  if ← l.startsPlain c then return ← l.plain
  throw (.during "while scanning for the next token" l.mark
    ("found character " ++ signText (some c) ++ " that cannot start any token") l.mark)

/-- Reads the next token, behind blanks. -/
def token (l : Lexer) : Except Error Lexer := do
  let l ← (← skipBlank l.input.fuel l).dropStale
  let l := l.closeTo l.mark.column
  match l.input.current with
  | none => l.streamEnd
  | some c => l.tokenHere c

/-! ## The whole document -/

/-- Whether no token follows: the text is at its end, or a closing bracket had no opening one. -/
def isDone (l : Lexer) (depth : Nat) : Bool :=
  match l.tokens.last? with
  | some ⟨.streamEnd, _⟩ => true
  | some ⟨.flowSequenceEnd, _⟩ | some ⟨.flowMappingEnd, _⟩ => depth == 0
  | _ => false

/-- So many tokens, and what comes behind them. -/
def stopped (l : Lexer) (count : Nat) (e : Error) : Lexed := ⟨l.tokens.toList.take count, some e⟩

/-- Reads tokens up to the end, or to an error; `given` of them were settled before the last one was
    read. -/
def run : Nat → Lexer → (given : Nat) → Lexed
  | 0, l, _ => ⟨l.tokens.toList, none⟩
  | fuel + 1, l, given =>
    match l.dropStale with
    | .error e => l.stopped given e
    | .ok l =>
      match l.token with
      | .error e => l.stopped l.settled e
      | .ok next =>
        if next.isDone l.outer.length then ⟨next.tokens.toList, none⟩ else next.run fuel l.settled

end Lexer

/-- The tokens of a text, and of what comes behind it if that is not the end of the document.  A byte
    order mark at its start is no part of it. -/
def Lexed.ofText (t : Text) (behind : Option Error := none) : Lexed :=
  let r := Input.ofText t behind
  let start : Except Error Input := do
    let r ← r.reached
    if isByteOrderMark r.current then r.next else return r
  match start with
  | .error e => ⟨[], some e⟩
  | .ok r => Lexer.run (r.fuel + 1) { input := r } 0

end TapeLang.Yaml
