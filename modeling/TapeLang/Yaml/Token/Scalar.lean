/-
  Scalar — how the five styles of scalars are read.

  Plain and quoted scalars may go over several lines, which are **folded**: a single line break counts
  as a space, and of several the first does not count.  A block scalar is a run of lines behind `|` or
  `>`, indented further than what is around it; behind `>` its lines are folded too, but not next to a
  line that starts with a space.  What becomes of the line breaks at its end is said by `+` (keep all),
  `-` (keep none) or neither (keep one).

  Every function takes the input from the first sign of what it reads on, and gives back what that
  stands for and the input behind it.
-/
import TapeLang.Yaml.Input
import TapeLang.Text.Digit

namespace TapeLang.Yaml

/-! ## Line folding -/

/-- What a line break and the further breaks behind it count as. -/
def folded (first : CodePoint) (more : Text) : Text :=
  if !first.is '\n' then first :: more
  else if more.isEmpty then " "
  else more

/-! ## Quoted scalars -/

/-- What follows a backslash in place of a sign that it stands for. -/
def escapes : List (Char × CodePoint) := [
    ('0', '\x00'), ('a', '\x07'), ('b', '\x08'), ('t', '\t'), ('\t', '\t'), ('n', '\n'),
    ('v', '\x0B'), ('f', '\x0C'), ('r', '\r'), ('e', '\x1B'), (' ', ' '), ('\x22', '\x22'),
    ('\x5C', '\x5C'), ('/', '/'), ('N', '\u0085'), ('_', '\u00A0'), ('L', '\u2028'),
    ('P', '\u2029')]

/-- How many hexadecimal digits follow a letter behind a backslash. -/
def escapeLengths : List (Char × Nat) := [('x', 2), ('u', 4), ('U', 8)]

/-- The sign of a number that is written in a document. -/
def numbered (n : Nat) : Except Error CodePoint :=
  match CodePoint.ofNat? n with
  | some c => .ok c
  | none => .error (.value (if n < 0x80000000 then .codePointRange else .codePointOverflow))

/-- The first of so many signs that is no hexadecimal digit. -/
def notHex? (r : Input) (count : Nat) : Except Error (Option (Option CodePoint)) :=
  (List.range count).findSomeM? fun ahead => do
    let sign ← r.peek ahead
    return if (sign.bind CodePoint.hexDigit?).isNone then some sign else none

/-- Passes over empty lines inside a quoted scalar and collects their breaks. -/
def quotedBreaks (start : Mark) : Nat → Input → Text → Except Error (Text × Input)
  | 0, r, found => .ok (found, r)
  | fuel + 1, r, found => do
    if ← r.seesSeparator then
      throw (.during "while scanning a quoted scalar" start "found unexpected document separator" r.mark)
    let r ← r.dropWhile fun c => c.is ' ' || c.is '\t'
    match ← r.break? with
    | some (c, r) => quotedBreaks start fuel r (found ++ [c])
    | none => return (found, r)

/-- Reads what a backslash in a scalar in double quotes starts; the input is behind the backslash. -/
def escape (start : Mark) (r : Input) : Except Error (Text × Input) :=
  let complaint (problem : Text) (r : Input) :=
    Error.during "while scanning a double-quoted scalar" start problem r.mark
  let unknown : Error := complaint ("found unknown escape character " ++ signText r.current) r
  match r.current with
  | none => .error unknown
  | some c =>
    match escapes.find? (c.is ·.1), escapeLengths.find? (c.is ·.1) with
    | some (_, sign), _ => do return ([sign], ← r.next)
    | none, some (_, count) => do
      let r ← r.next
      match ← notHex? r count with
      | some o => throw (complaint ("expected escape sequence of " ++ Text.natural count ++
          " hexadecimal numbers, but found " ++ signText o) r)
      | none =>
        let digits := (r.rest.take count).filterMap CodePoint.hexDigit?
        let sign ← numbered (digits.foldl (fun n d => n * 16 + d) 0)
        return ([sign], ← r.skip count)
    | none, none => do
      match ← r.break? with
      | some (_, r) => quotedBreaks start r.fuel r []
      | none => throw unknown

/-- Reads the signs of a quoted scalar up to its mark or a gap. -/
def quotedRun (double : Bool) (start : Mark) : Nat → Input → Text → Except Error (Text × Input)
  | 0, r, found => .ok (found, r)
  | fuel + 1, r, found => do
    let (run, r) ← r.takeWhile fun c =>
      !(c.is '\x27' || c.is '\x22' || c.is '\x5C' || isGap (some c))
    let found := found ++ run
    match r.current with
    | none => return (found, r)
    | some c =>
      if !double && c.is '\x27' then
        if isOneOf "'" (← r.peek 1) then quotedRun double start fuel (← r.skip 2) (found ++ "'")
        else return (found, r)
      else if (double && c.is '\x27') || (!double && (c.is '\x22' || c.is '\x5C')) then
        quotedRun double start fuel (← r.next) (found ++ [c])
      else if double && c.is '\x5C' then
        let (more, r) ← escape start (← r.next)
        quotedRun double start fuel r (found ++ more)
      else return (found, r)

/-- Reads a gap inside a quoted scalar. -/
def quotedGap (start : Mark) (r : Input) : Except Error (Text × Input) := do
  let (blanks, r) ← r.takeWhile fun c => c.is ' ' || c.is '\t'
  if r.current.isNone then
    throw (.during "while scanning a quoted scalar" start "found unexpected end of stream" r.mark)
  match ← r.break? with
  | some (c, r) =>
    let (more, r) ← quotedBreaks start r.fuel r []
    return (folded c more, r)
  | none => return (blanks, r)

/-- Reads runs and gaps in turn up to the closing mark. -/
def quotedParts (mark : Char) (start : Mark) : Nat → Input → Except Error (Text × Input)
  | 0, r => .ok ([], r)
  | fuel + 1, r => do
    let (run, r) ← quotedRun (mark == '\x22') start r.fuel r []
    if r.starts mark then return (run, ← r.next)
    let (gap, r) ← quotedGap start r
    let (more, r) ← quotedParts mark start fuel r
    return (run ++ gap ++ more, r)

/-- Reads a scalar between two `mark`s. -/
def quotedScalar (mark : Char) (r : Input) : Except Error (Text × Input) := do
  quotedParts mark r.mark r.fuel (← r.next)

/-! ## Plain scalars -/

/-- Whether a plain scalar ends before the sign at which the input stands.  Inside brackets more signs
    end it. -/
def endsPlain (flow : Bool) (r : Input) : Except Error Bool := do
  let c := r.current
  if isGap c then return true
  if isOneOf ":" c then
    let next ← r.peek 1
    return isGap next || (flow && isOneOf ",[]\x7b\x7d" next)
  return flow && isOneOf ",?[]\x7b\x7d" c

/-- The signs of a plain scalar up to the next gap. -/
def plainRun (flow : Bool) : Nat → Input → Text → Except Error (Text × Input)
  | 0, r, found => .ok (found.reverse, r)
  | fuel + 1, r, found => do
    if ← endsPlain flow r then return (found.reverse, r)
    match r.current with
    | none => return (found.reverse, r)
    | some c => plainRun flow fuel (← r.next) (c :: found)

/-- Collects the breaks of empty lines inside a plain scalar; nothing if a line separates documents. -/
def plainBreaks : Nat → Input → Text → Except Error (Option Text × Input)
  | 0, r, found => .ok (some found, r)
  | fuel + 1, r, found => do
    let r ← r.spaces
    match ← r.break? with
    | some (c, r) =>
      if ← r.seesSeparator then return (none, r) else plainBreaks fuel r (found ++ [c])
    | none => return (some found, r)

/-- A gap inside a plain scalar, or behind it. -/
structure PlainGap where
  /-- What it stands for inside; empty if the scalar ends before it. -/
  text : Text
  /-- Whether it holds a line break. -/
  broken : Bool
  /-- The input behind it. -/
  rest : Input

/-- Reads a gap in or behind a plain scalar. -/
def plainGap (r : Input) : Except Error PlainGap := do
  let (blanks, r) ← r.takeWhile (·.is ' ')
  match ← r.break? with
  | some (c, r) =>
    if ← r.seesSeparator then return ⟨[], true, r⟩
    match ← plainBreaks r.fuel r [] with
    | (some more, r) => return ⟨folded c more, true, r⟩
    | (none, r) => return ⟨[], true, r⟩
  | none => return ⟨blanks, false, r⟩

/-- A plain scalar that was read. -/
structure PlainScalar where
  /-- What it says. -/
  text : Text
  /-- Whether the gap behind it holds a line break. -/
  broken : Bool
  /-- The input behind that gap. -/
  rest : Input

/-- Reads runs and gaps in turn, behind a `gap` that was read.  Outside of brackets a line that is
    indented less than `indent` ends the scalar; so does a comment. -/
def plainParts (flow : Bool) (indent : Nat) :
    Nat → Input → (gap : Text) → (broken : Bool) → Except Error PlainScalar
  | 0, r, _, broken => .ok ⟨[], broken, r⟩
  | fuel + 1, r, gap, broken => do
    if r.starts '#' then return ⟨[], broken, r⟩
    if ← endsPlain flow r then return ⟨[], broken, r⟩
    let (run, r) ← plainRun flow r.fuel r []
    let next ← plainGap r
    if next.text.isEmpty || next.rest.starts '#' || (!flow && next.rest.mark.column < indent) then
      return ⟨gap ++ run, next.broken, next.rest⟩
    let more ← plainParts flow indent fuel next.rest next.text next.broken
    return { more with text := gap ++ run ++ more.text }

/-- Reads a plain scalar. -/
def plainScalar (flow : Bool) (indent : Nat) (r : Input) : Except Error PlainScalar :=
  plainParts flow indent r.fuel r [] false

/-! ## Block scalars -/

/-- What becomes of the line breaks at the end of a block scalar. -/
inductive Chomping where
  /-- All are dropped. -/
  | strip
  /-- The first is kept. -/
  | clip
  /-- All are kept. -/
  | keep
  deriving DecidableEq

/-- The sign of a chomping. -/
def chomping? (r : Input) : Option Chomping :=
  if r.starts '+' then some .keep else if r.starts '-' then some .strip else none

/-- Reads the digit that says how far a block scalar is indented. -/
def blockIncrement (start : Mark) (r : Input) : Except Error (Option Nat × Input) :=
  match r.current with
  | some c =>
    if c.is '0' then
      .error (.during "while scanning a block scalar" start
        "expected indentation indicator in the range 1-9, but found 0" r.mark)
    else if isAsciiDigit c then r.next.map (some (c.val - 0x30), ·)
    else .ok (none, r)
  | none => .ok (none, r)

/-- Reads chomping and indentation, in either order. -/
def blockHeader (start : Mark) (r : Input) : Except Error (Chomping × Option Nat × Input) := do
  let (chomping, increment, r) ← match chomping? r with
    | some chomping => do
      let (increment, r) ← blockIncrement start (← r.next)
      pure (chomping, increment, r)
    | none => do
      let (increment, r) ← blockIncrement start r
      match increment, chomping? r with
      | some _, some chomping => pure (chomping, increment, ← r.next)
      | _, _ => pure (.clip, increment, r)
  if endsWord r.current then return (chomping, increment, r)
  else throw (.during "while scanning a block scalar" start
    ("expected chomping or indentation indicators, but found " ++ signText r.current) r.mark)

/-- Passes over a comment and the end of the line. -/
def blankRest (context : Text) (start : Mark) (r : Input) : Except Error Input := do
  let r ← r.spaces
  let r ← if r.starts '#' then r.restOfLine else pure r
  if endsLine r.current then r.next
  else throw (.during context start
    ("expected a comment or a line break, but found " ++ signText r.current) r.mark)

/-- Passes over spaces, but not beyond a column. -/
def spacesTo (column : Nat) : Nat → Input → Except Error Input
  | 0, r => .ok r
  | fuel + 1, r =>
    if r.mark.column < column && r.starts ' ' then do spacesTo column fuel (← r.next) else .ok r

/-- Passes over empty lines of a block scalar: their breaks, and the input at the next line that is
    not empty, at most at the column of the scalar. -/
def blockBreaks (indent : Nat) : Nat → Input → Text → Except Error (Text × Input)
  | 0, r, found => .ok (found, r)
  | fuel + 1, r, found => do
    let r ← spacesTo indent r.fuel r
    match ← r.break? with
    | some (c, r) => blockBreaks indent fuel r (found ++ [c])
    | none => return (found, r)

/-- Passes over empty lines and spaces: their breaks, and the greatest column reached. -/
def blockIndentation : Nat → Input → Text → Nat → Except Error (Text × Nat × Input)
  | 0, r, found, column => .ok (found, column, r)
  | fuel + 1, r, found, column => do
    if r.starts ' ' then
      let r ← r.next
      blockIndentation fuel r found (max column r.mark.column)
    else
      match ← r.break? with
      | some (c, r) => blockIndentation fuel r (found ++ [c]) column
      | none => return (found, column, r)

/-- The end of a block scalar: the break behind its last line, and those behind that. -/
structure BlockEnd where
  /-- The break behind the last line. -/
  last : Text
  /-- The breaks of empty lines behind it. -/
  breaks : Text
  /-- The input behind all of them. -/
  rest : Input

/-- Reads the lines of a block scalar.  `breaks` are those that stand before the next line and `last`
    is the break behind the line before it. -/
def blockLines (fold : Bool) (indent : Nat) :
    Nat → Input → (breaks last : Text) → Except Error (Text × BlockEnd)
  | 0, r, breaks, last => .ok ([], ⟨last, breaks, r⟩)
  | fuel + 1, r, breaks, last => do
    if r.mark.column != indent || r.current.isNone then return ([], ⟨last, breaks, r⟩)
    let level := !isOneOf " \t" r.current
    let (line, r) ← r.takeWhile fun c => !isBreak c
    let (last, r) : Text × Input ← match ← r.break? with
      | some (c, r) => pure ([c], r)
      | none => pure ([], r)
    let (behind, r) ← blockBreaks indent r.fuel r []
    let joint : Text :=
      if r.mark.column != indent || r.current.isNone then []
      else if fold && last == "\n" && level && !isOneOf " \t" r.current then
        if behind.isEmpty then " " else []
      else last
    let (more, close) ← blockLines fold indent fuel r behind last
    return (breaks ++ line ++ joint ++ more, close)

/-- Reads a block scalar; `least` is the least column at which its lines may start. -/
def blockScalar (fold : Bool) (least : Nat) (r : Input) : Except Error (Text × Input) := do
  let start := r.mark
  let (chomping, increment, r) ← blockHeader start (← r.next)
  let r ← blankRest "while scanning a block scalar" start r
  let (indent, breaks, r) ← match increment with
    | some n => do
      let (breaks, r) ← blockBreaks (least + n - 1) r.fuel r []
      pure (least + n - 1, breaks, r)
    | none => do
      let (breaks, column, r) ← blockIndentation r.fuel r [] 0
      pure (max least column, breaks, r)
  let (found, close) ← blockLines fold indent r.fuel r breaks []
  return match chomping with
    | .strip => (found, close.rest)
    | .clip => (found ++ close.last, close.rest)
    | .keep => (found ++ close.last ++ close.breaks, close.rest)

end TapeLang.Yaml
