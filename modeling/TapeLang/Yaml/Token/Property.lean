/-
  Property — anchors, aliases and tags: what can stand before a node, or in its place.
-/
import TapeLang.Yaml.Input
import TapeLang.Yaml.Token
import TapeLang.Encoding.Utf8
import TapeLang.Text.Digit

namespace TapeLang.Yaml

/-! ## Names -/

/-- Reads the name of an anchor behind its sign. -/
def anchorName (what : Text) (r : Input) : Except Error (Text × Input) := do
  let (name, rest) ← (← r.next).takeWhile isWordSign
  if !name.isEmpty && (isGap rest.current || isOneOf "?:,]\x7d%@\x60" rest.current) then
    return (name, rest)
  else throw (.during ("while scanning an " ++ what) r.mark
    ("expected alphabetic or numeric character, but found " ++ signText rest.current) rest.mark)

/-! ## Tags -/

/-- A sign that may stand in a tag. -/
def isTagSign (c : CodePoint) : Bool := isWordSign c || isOneOf ";/?:@&=+$,_.!~*'()[]" (some c)

/-- Reads the bytes that are written by their numbers, `%hh` each. -/
def tagBytes (what : Text) (start : Mark) :
    Nat → Input → List UInt8 → Except Error (List UInt8 × Input)
  | 0, r, found => .ok (found.reverse, r)
  | fuel + 1, r, found => do
    if !r.starts '%' then return (found.reverse, r)
    let r ← r.next
    let digit (ahead : Nat) : Except Error Nat := do
      let sign ← r.peek ahead
      match sign.bind CodePoint.hexDigit? with
      | some n => return n
      | none => throw (.during ("while scanning a " ++ what) start
          ("expected URI escape sequence of 2 hexadecimal numbers, but found " ++ signText sign) r.mark)
    let a ← digit 0
    let b ← digit 1
    tagBytes what start fuel (← r.skip 2) (UInt8.ofNat (a * 16 + b) :: found)

/-- Reads the signs of a tag. -/
def tagSigns (what : Text) (start : Mark) : Nat → Input → Text → Except Error (Text × Input)
  | 0, r, found => .ok (found, r)
  | fuel + 1, r, found => do
    let (run, rest) ← r.takeWhile isTagSign
    let found := found ++ run
    if !rest.starts '%' then return (found, rest)
    let (bytes, behind) ← tagBytes what start rest.fuel rest []
    match Utf8.decode bytes with
    | .ok t => tagSigns what start fuel behind (found ++ t)
    | .error e => throw (.during ("while scanning a " ++ what) start e.message rest.mark)

/-- Reads the signs of a tag, one at least. -/
def tagSuffix (what : Text) (start : Mark) (r : Input) : Except Error (Text × Input) := do
  let (found, rest) ← tagSigns what start r.fuel r []
  if rest.index == r.index then
    throw (.during ("while parsing a " ++ what) start
      ("expected URI, but found " ++ signText r.current) r.mark)
  return (found, rest)

/-- Reads the handle of a tag: `!`, `!!` or `!name!`. -/
def tagHandle (what : Text) (start : Mark) (r : Input) : Except Error (Text × Input) := do
  let complaint (r : Input) := Error.during ("while scanning a " ++ what) start
    ("expected '!', but found " ++ signText r.current) r.mark
  if !r.starts '!' then throw (complaint r)
  let r ← r.next
  if r.starts ' ' then return ("!", r)
  let (name, rest) ← r.takeWhile isWordSign
  if rest.starts '!' then return ("!" ++ name ++ "!", ← rest.next) else throw (complaint rest)

/-- Reads a tag.  Its handle ends with the second exclamation mark, if there is one in the word. -/
def tagName (r : Input) : Except Error (TagName × Input) := do
  let start := r.mark
  let second ← r.peek 1
  let (tag, rest) ←
    if isOneOf "<" second then do
      let (suffix, rest) ← tagSuffix "tag" start (← r.skip 2)
      if !rest.starts '>' then
        throw (.during "while parsing a tag" start ("expected '>', but found " ++ signText rest.current)
          rest.mark)
      pure (⟨none, suffix⟩, ← rest.next)
    else if isGap second then do pure (⟨none, "!"⟩, ← r.next)
    else do
      let (_, close) ← (← r.next).takeWhile fun c => !(endsWord (some c) || c.is '!')
      let (handle, rest) ← if close.starts '!' then tagHandle "tag" start r else do pure ("!", ← r.next)
      let (suffix, rest) ← tagSuffix "tag" start rest
      pure (⟨some handle, suffix⟩, rest)
  if endsWord rest.current then return (tag, rest)
  else throw (.during "while scanning a tag" start
    ("expected ' ', but found " ++ signText rest.current) rest.mark)

end TapeLang.Yaml
