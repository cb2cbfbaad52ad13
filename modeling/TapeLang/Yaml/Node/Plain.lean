/-
  Plain — what a plain scalar stands for.

  Truth values, the absent value and a few signs are words of a list.  Numbers and days are recognised
  by their form: an integer may be written in base two, eight, ten, sixteen or sixty, a number with a
  fraction needs a point, and underscores may stand between digits.  Everything else is text.

  One line feed at the end of a scalar does not count.  A plain scalar has none; a quoted one or a block
  that is to be taken for a plain one may have it.
-/
import TapeLang.Yaml.Input
import TapeLang.Yaml.Node
import TapeLang.Text.Digit

namespace TapeLang.Yaml

/-! ## Words -/

/-- The three ways to write a word: in small letters, with a capital, in capitals. -/
def spellings (word : String) : List Text :=
  let t := Text.ofString word
  let upper := t.map fun c => CodePoint.ofChar c.toChar.toUpper
  [t, upper.take 1 ++ t.drop 1, upper]

/-- The words for truth. -/
def trueWords : List String := ["yes", "true", "on"]

/-- The words for falsity. -/
def falseWords : List String := ["no", "false", "off"]

/-- A word for a truth value. -/
def isBoolWord (t : Text) : Bool := (trueWords ++ falseWords).any fun w => (spellings w).contains t

/-- Nothing, or a word for it. -/
def isNullWord (t : Text) : Bool := t.isEmpty || t == "~" || (spellings "null").contains t

/-! ## Numbers -/

/-- A digit of base ten, or an underscore. -/
def isDigitOrBar (c : CodePoint) : Bool := isAsciiDigit c || c.is '_'

/-- Digits with underscores between or behind them. -/
def isDigits : Text → Bool
  | [] => false
  | c :: rest => isAsciiDigit c && rest.all isDigitOrBar

/-- The text without a sign at its start. -/
def unsigned : Text → Text
  | [] => []
  | c :: rest => if c.is '-' || c.is '+' then rest else c :: rest

/-- A digit of base sixty behind a colon: one or two digits, below sixty. -/
def isSixtieth : Text → Bool
  | [c] => isAsciiDigit c
  | [c, d] => isAsciiDigit c && c.val ≤ 0x35 && isAsciiDigit d
  | _ => false

/-- A number in base sixty, of two digits at least. -/
def isSexagesimal (t : Text) : Bool :=
  match t.splitOn (CodePoint.ofChar ':') with
  | first :: second :: rest => isDigits first && (second :: rest).all isSixtieth
  | _ => false

/-- The digits behind the mark of a base; there has to be one, or an underscore. -/
def isInBase (digit : CodePoint → Bool) (t : Text) : Bool :=
  !t.isEmpty && t.all fun c => c.is '_' || digit c

/-- An integer without sign. -/
def isNatural (t : Text) : Bool :=
  match t with
  | [] => false
  | c :: rest =>
    if c.is '0' then
      rest.isEmpty || isInBase (fun d => 0x30 ≤ d.val && d.val ≤ 0x37) rest ||
        (rest.head?.any (·.is 'b') && isInBase (fun d => d.is '0' || d.is '1') rest.tail) ||
        (rest.head?.any (·.is 'x') && isInBase (fun d => d.hexDigit?.isSome) rest.tail)
    else isDigits t || isSexagesimal t

/-- An integer. -/
def isInteger (t : Text) : Bool := isNatural (unsigned t)

/-- The exponent of a number, or nothing; its sign is not left out. -/
def isExponent : Text → Bool
  | [] => true
  | e :: sign :: c :: rest =>
    (e.is 'e' || e.is 'E') && (sign.is '+' || sign.is '-') && (c :: rest).all isAsciiDigit
  | _ => false

/-- A number with a point, an infinity, or not a number. -/
def isFraction (t : Text) : Bool :=
  let body := unsigned t
  let whole := body.takeWhile fun c => !c.is '.'
  match body.drop whole.length with
  | [] => false
  | point :: behind =>
    let exponent := behind.dropWhile isDigitOrBar
    if whole.isEmpty then
      (spellings "inf").contains behind ||
        (point :: behind == t && (behind == "nan" || behind == "NaN" || behind == "NAN" ||
          (behind.head?.any isAsciiDigit && isExponent exponent)))
    else
      (isDigits whole && isExponent exponent) || (isSexagesimal whole && exponent.isEmpty)

/-! ## Days and times -/

/-- The parts of a day or a time as they are written. -/
structure Stamp where
  /-- The year, the month and the day. -/
  date : Nat × Nat × Nat
  /-- Whether month and day have two digits each. -/
  full : Bool
  /-- The hour, the minute and the second. -/
  time : Option (Nat × Nat × Nat) := none
  /-- The digits of the fraction of the second. -/
  fraction : Text := []
  /-- The offset from universal time, in minutes. -/
  offset : Option Int := none

/-- Reads so many digits, `least` at least and `most` at most. -/
def stampDigits (least most : Nat) (t : Text) : Option (Text × Text) :=
  let digits := (t.take most).takeWhile isAsciiDigit
  if least ≤ digits.length then some (digits, t.drop digits.length) else none

/-- The number of some digits. -/
def stampNumber (digits : Text) : Nat := digits.foldl (fun n c => n * 10 + (c.val - 0x30)) 0

/-- Reads a sign. -/
def stampSign (x : Char) : Text → Option Text
  | [] => none
  | c :: rest => if c.is x then some rest else none

/-- A space or a tab. -/
def isStampBlank (c : CodePoint) : Bool := c.is ' ' || c.is '\t'

/-- Reads the offset from universal time. -/
def stampOffset (t : Text) : Option (Option Int) :=
  match t.dropWhile isStampBlank with
  | [] => if t.isEmpty then some none else none
  | c :: rest =>
    if c.is 'Z' then if rest.isEmpty then some (some 0) else none
    else if c.is '+' || c.is '-' then do
      let (hour, rest) ← stampDigits 1 2 rest
      let minute ← match rest with
        | [] => some 0
        | _ => do
          let (minute, rest) ← stampDigits 2 2 (← stampSign ':' rest)
          if rest.isEmpty then some (stampNumber minute) else none
      let offset : Int := stampNumber hour * 60 + minute
      return some (if c.is '-' then -offset else offset)
    else none

/-- Reads a time of day behind a `T`, or behind blanks. -/
def stampTime (t : Text) : Option ((Nat × Nat × Nat) × Text × Option Int) := do
  let rest ← match t with
    | [] => none
    | c :: rest =>
      if c.is 'T' || c.is 't' then some rest
      else if isStampBlank c then some (rest.dropWhile isStampBlank)
      else none
  let (hour, rest) ← stampDigits 1 2 rest
  let (minute, rest) ← stampDigits 2 2 (← stampSign ':' rest)
  let (second, rest) ← stampDigits 2 2 (← stampSign ':' rest)
  let (fraction, rest) := match stampSign '.' rest with
    | some rest => (rest.takeWhile isAsciiDigit, rest.dropWhile isAsciiDigit)
    | none => ([], rest)
  let offset ← stampOffset rest
  return ((stampNumber hour, stampNumber minute, stampNumber second), fraction, offset)

/-- The text without one line feed at its end. -/
def chomped (t : Text) : Text := if t.getLast?.any (·.is '\n') then t.dropLast else t

/-- Reads a day, perhaps with a time. -/
def Stamp.ofText? (t : Text) : Option Stamp := do
  let (year, rest) ← stampDigits 4 4 (chomped t)
  let (month, rest) ← stampDigits 1 2 (← stampSign '-' rest)
  let (day, rest) ← stampDigits 1 2 (← stampSign '-' rest)
  let date := (stampNumber year, stampNumber month, stampNumber day)
  let full := month.length == 2 && day.length == 2
  if rest.isEmpty then return { date, full }
  let (time, fraction, offset) ← stampTime rest
  return { date, full, time := some time, fraction, offset }

/-- A day, written in full, or a time. -/
def isStamp (t : Text) : Bool := (Stamp.ofText? t).any fun s => s.full || s.time.isSome

/-! ## The tag -/

/-- The signs that may not stand alone. -/
def isLoneSign (t : Text) : Bool := t == "!" || t == "&" || t == "*"

/-- The tag of a plain scalar. -/
def Tag.ofPlain (t : Text) : Tag :=
  let word := if t == "\n" then t else chomped t
  if isBoolWord word then .bool
  else if isFraction word then .float
  else if isInteger word then .int
  else if word == "<<" then .merge
  else if isNullWord word then .null
  else if isStamp word then .timestamp
  else if word == "=" then .standIn
  else if isLoneSign word then .unknown (stem ++ "yaml")
  else .text

example : Tag.ofPlain "Off" = .bool ∧ Tag.ofPlain "oFF" = .text := by decide
example : Tag.ofPlain "0x_1F" = .int ∧ Tag.ofPlain "1:59" = .int ∧ Tag.ofPlain "1:60" = .text := by
  decide
example : Tag.ofPlain "1." = .float ∧ Tag.ofPlain "1e3" = .text ∧ Tag.ofPlain "-.Inf" = .float := by
  decide
example : Tag.ofPlain ".NaN" = .float ∧ Tag.ofPlain ".Nan" = .text ∧ Tag.ofPlain "-.nan" = .text := by
  decide
example : Tag.ofPlain "12\n" = .int ∧ Tag.ofPlain "12\n\n" = .text ∧ Tag.ofPlain "\n" = .text := by decide
example : Tag.ofPlain "2024-01-01" = .timestamp ∧ Tag.ofPlain "2024-1-1" = .text := by decide

end TapeLang.Yaml
