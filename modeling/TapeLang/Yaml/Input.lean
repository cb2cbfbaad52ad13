/-
  Input — a document being read from front to back.

  An input knows what is left of the text, and where in the document that starts.  Behind the text there
  is nothing, and many rules treat that like a line break or a space; `none` stands for it.  Carriage
  returns do not occur: where a file has one, it was made a line feed before.

  The text may also end where the document does not, because what follows cannot be read.  Then it matters
  how far a rule looks: a look behind the end of the text fails, and so does a move to it, for whoever
  moves looks at the sign that comes next.  The sign at which an input stands is known for that reason,
  and only looks further ahead can fail.
-/
import TapeLang.Yaml.Error

namespace TapeLang.Yaml

/-! ## Signs -/

/-- A line break. -/
def isBreak (c : CodePoint) : Bool :=
  c.is '\n' || c.val == 0x85 || c.val == 0x2028 || c.val == 0x2029

/-- The end of a line, or of the text. -/
def endsLine : Option CodePoint → Bool
  | none => true
  | some c => isBreak c

/-- A space, or the end of a line. -/
def endsWord : Option CodePoint → Bool
  | none => true
  | some c => c.is ' ' || isBreak c

/-- A space, a tab, or the end of a line. -/
def isGap : Option CodePoint → Bool
  | none => true
  | some c => c.is ' ' || c.is '\t' || isBreak c

/-- One of the given characters. -/
def isOneOf (chars : String) : Option CodePoint → Bool
  | none => false
  | some c => chars.toList.any c.is

/-- A letter, a digit, a hyphen or an underscore, of ASCII. -/
def isWordSign (c : CodePoint) : Bool :=
  (0x30 ≤ c.val && c.val ≤ 0x39) || (0x41 ≤ c.val && c.val ≤ 0x5A) ||
    (0x61 ≤ c.val && c.val ≤ 0x7A) || c.is '-' || c.is '_'

/-- A digit of ASCII. -/
def isAsciiDigit (c : CodePoint) : Bool := 0x30 ≤ c.val && c.val ≤ 0x39

/-- A byte order mark. -/
def isByteOrderMark : Option CodePoint → Bool
  | none => false
  | some c => c.val == 0xFEFF

/-- The sign in a message; the end of the text counts as U+0000. -/
def signText (o : Option CodePoint) : Text := Text.quoted [o.getD '\x00']

/-! ## Inputs -/

/-- A document being read. -/
structure Input where
  /-- What is left. -/
  rest : Text
  /-- What comes behind it, if that is not the end of the document. -/
  behind : Option Error
  /-- How many code points are read. -/
  index : Nat
  /-- The place in lines and columns. -/
  mark : Mark
  /-- How often any loop over what is left may turn. -/
  fuel : Nat
  /-- That is often enough, and once more. -/
  rest_lt_fuel : rest.length < fuel

namespace Input

/-- A text of which nothing is read. -/
def ofText (t : Text) (behind : Option Error) : Input :=
  ⟨t, behind, 0, ⟨0, 0⟩, t.length + 1, Nat.lt_succ_self _⟩

/-- The input, if the sign at which it stands can be read. -/
def reached (r : Input) : Except Error Input :=
  match r.rest, r.behind with
  | [], some e => .error e
  | _, _ => .ok r

/-- The sign at which the input stands. -/
def current (r : Input) : Option CodePoint := r.rest.head?

/-- The sign so far ahead. -/
def peek (r : Input) (ahead : Nat) : Except Error (Option CodePoint) :=
  match r.rest[ahead]?, r.behind with
  | none, some e => .error e
  | o, _ => .ok o

/-- Whether the next sign is the given one. -/
def starts (r : Input) (x : Char) : Bool := r.rest.head?.any (·.is x)

/-- Whether the given signs come next. -/
def sees (r : Input) (s : String) : Except Error Bool :=
  match r.behind with
  | some e =>
    if (r.rest.take s.length).length < s.length then .error e
    else .ok ((Text.ofString s).isPrefixOf r.rest)
  | none => .ok ((Text.ofString s).isPrefixOf r.rest)

/-- The place behind a sign.  A byte order mark takes no column. -/
def markAfter (m : Mark) (c : CodePoint) : Mark :=
  if isBreak c then ⟨m.line + 1, 0⟩
  else if isByteOrderMark (some c) then m
  else ⟨m.line, m.column + 1⟩

/-- The input behind a sign. -/
def tail (r : Input) : Input :=
  match h : r.rest with
  | [] => r
  | c :: rest =>
    { r with
      rest, index := r.index + 1, mark := markAfter r.mark c
      rest_lt_fuel := by have := r.rest_lt_fuel; simp_all; omega }

/-- The input behind so many signs. -/
def drop (r : Input) : Nat → Input
  | 0 => r
  | n + 1 => r.tail.drop n

/-- Reads one sign. -/
def next (r : Input) : Except Error Input := r.tail.reached

/-- Reads so many signs. -/
def skip (r : Input) (n : Nat) : Except Error Input := (r.drop n).reached

/-- Reads the longest run of signs that pass a test. -/
def takeWhile (r : Input) (p : CodePoint → Bool) : Except Error (Text × Input) := do
  let run := r.rest.takeWhile p
  return (run, ← r.skip run.length)

/-- Passes over the longest run of signs that pass a test. -/
def dropWhile (r : Input) (p : CodePoint → Bool) : Except Error Input :=
  (r.takeWhile p).map (·.2)

/-- Passes over spaces. -/
def spaces (r : Input) : Except Error Input := r.dropWhile (·.is ' ')

/-- Passes over what is left of the line. -/
def restOfLine (r : Input) : Except Error Input := r.dropWhile fun c => !isBreak c

/-- Reads a line break, if there is one, and says what it counts as. -/
def break? (r : Input) : Except Error (Option (CodePoint × Input)) :=
  match r.rest with
  | [] => .ok none
  | c :: _ =>
    if isBreak c then r.next.map fun s => some (if c.val = 0x85 then '\n' else c, s) else .ok none

/-- Whether a line of three signs of a kind that separates documents starts here. -/
def seesLine (r : Input) (s : String) : Except Error Bool := do
  if ← r.sees s then return isGap (← r.peek 3) else return false

/-- Whether a line that separates documents starts here. -/
def seesSeparator (r : Input) : Except Error Bool := do
  if ← r.seesLine "---" then return true else r.seesLine "..."

end Input

/-! ## What may stand in a document -/

/-- The code points that may stand in a document. -/
def isReadable (c : CodePoint) : Bool :=
  c.val == 0x09 || c.val == 0x0A || c.val == 0x0D || (0x20 ≤ c.val && c.val ≤ 0x7E) ||
    c.val == 0x85 || (0xA0 ≤ c.val && c.val ≤ 0xD7FF) || (0xE000 ≤ c.val && c.val ≤ 0xFFFD) ||
    0x10000 ≤ c.val

/-- The first code point that may not, with its index. -/
def unreadable? (index : Nat) : Text → Option Error
  | [] => none
  | c :: rest => if isReadable c then unreadable? (index + 1) rest else some (.unreadable c index)

end TapeLang.Yaml
