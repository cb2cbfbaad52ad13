/-
  Meaning — the value that a scalar stands for.

  The tag says how the text is to be taken.  A text that cannot be taken so is a failure, of the sort
  that reading such a value from anywhere else would be.
-/
import TapeLang.Decimal.Reading
import TapeLang.Encoding.Base64
import TapeLang.Settings
import TapeLang.Text.Lower
import TapeLang.Yaml.Node.Plain

namespace TapeLang.Yaml

/-! ## Numbers -/

/-- The digits of a text in base sixty, the last one first, `one` reading a digit. -/
def sixtieths {α : Type} (one : Text → Except Failure α) (t : Text) : Except Failure (List α) := do
  return (← (t.splitOn (CodePoint.ofChar ':')).mapM one).reverse

/-- Reads an integer in a base. -/
def integerIn (base : Nat) (t : Text) : Except Failure Int :=
  match t.toIntegerIn base with
  | some n => .ok n
  | none => .error (.numeralIn base t)

/-- The integer that a scalar writes.  Underscores do not count. -/
def integerMeaning (t : Text) : Except Failure Int := do
  let t : Text := t.filter fun c => !c.is '_'
  if t.isEmpty then throw .emptyText
  let (negative, t) := Text.splitSign t
  let n ←
    if t == "0" then pure 0
    else if (Text.ofString "0b").isPrefixOf t then integerIn 2 (t.drop 2)
    else if (Text.ofString "0x").isPrefixOf t then integerIn 16 (t.drop 2)
    else
      match t with
      | [] => throw .emptyText
      | c :: _ =>
        if c.is '0' then integerIn 8 t
        else if t.any (·.is ':') then
          (sixtieths Text.integer? t).map fun ds => ds.foldr (fun d n => d + 60 * n) 0
        else t.integer?
  return if negative then -n else n

/-- Reads a number with a fraction. -/
def fraction (t : Text) : Except Failure Float :=
  match Decimal.ofText? t with
  | some x => .ok x
  | none => .error (.badFloat t)

/-- The number that digits of base sixty write, the last one first; `unit` is what the first of them is
    worth, and it has to be in the range of a double. -/
def sexagesimalFraction (unit : Nat) (sum : Float) : List Float → Except Failure Float
  | [] => .ok sum
  | d :: rest =>
    let weight := Decimal.toDouble unit 0
    if weight.isInf then .error .floatOverflow
    else sexagesimalFraction (unit * 60) (sum + d * weight) rest

/-- The number with a fraction that a scalar writes.  Underscores do not count. -/
def fractionMeaning (t : Text) : Except Failure Float := do
  let t := Text.lower (t.filter fun c => !c.is '_')
  if t.isEmpty then throw .emptyText
  let (negative, t) := Text.splitSign t
  let x ←
    if t == ".inf" then pure (1.0 / 0.0)
    else if t == ".nan" then pure (0.0 / 0.0)
    else if t.any (·.is ':') then do sexagesimalFraction 1 0.0 (← sixtieths fraction t)
    else fraction t
  return if negative then -x else x

/-! ## Words, days and bytes -/

/-- The truth value of a word. -/
def boolMeaning (t : Text) : Except Failure Bool :=
  let word := t.lower
  if trueWords.any fun w => Text.ofString w == word then .ok true
  else if falseWords.any fun w => Text.ofString w == word then .ok false
  else .error (.notInTable (.text word))

/-- The day, if the calendar has it. -/
def dateMeaning (s : Stamp) : Except Failure Date :=
  let (year, month, day) := s.date
  if year = 0 then .error (.calendar (.year year))
  else if month = 0 ∨ 12 < month then .error (.calendar .month)
  else if day = 0 ∨ Date.daysIn year month < day then .error (.calendar .day)
  else .ok ⟨year, month, day⟩

/-- The day and the time that a stamp writes; of the fraction six digits count. -/
def stampMeaning (s : Stamp) : Except Failure Value :=
  match s.time with
  | none => (dateMeaning s).map .date
  | some (hour, minute, second) => do
    if let some m := s.offset then
      if 1440 ≤ m.natAbs then throw (.calendar (.offset m))
    let date ← dateMeaning s
    if 24 ≤ hour then throw (.calendar .hour)
    if 60 ≤ minute then throw (.calendar .minute)
    if 60 ≤ second then throw (.calendar .second)
    let digits := s.fraction.take 6
    let micro := stampNumber digits * Nat.pow 10 (6 - digits.length)
    return .moment date ⟨hour, minute, second, micro, s.offset⟩

/-- The bytes that a scalar writes in base sixty-four. -/
def bytesMeaning (t : Text) (mark : Mark) : Except Error (List UInt8) := do
  if let .error e := Encoding.ascii.encode t then
    throw (.plain ("failed to convert base64 data into ascii: " ++ e.message) mark)
  match Base64.decode t with
  | .ok bytes => return bytes
  | .error e => throw (.plain ("failed to decode base64 data: " ++ e.message) mark)

/-! ## Scalars -/

/-- The value of a text with a tag that stands for a kind of scalar, on a node that starts at `mark`. -/
def scalarMeaning (tag : Tag) (t : Text) (mark : Mark) : Except Error Value :=
  let value {α : Type} (make : α → Value) (x : Except Failure α) : Except Error Value :=
    (x.map make).mapError Error.value
  match tag with
  | .null => .ok .null
  | .bool => value .bool (boolMeaning t)
  | .int => value .int (integerMeaning t)
  | .float => value .float (fractionMeaning t)
  | .timestamp =>
    match Stamp.ofText? t with
    | some s => value id (stampMeaning s)
    | none => .error (.value .notTimestamp)
  | .binary => (bytesMeaning t mark).map .bytes
  | _ => .ok (.text t)

/-- Whether a scalar is the word for what is no number.  All such scalars stand for one and the same
    value, so as keys they are the same, though that value equals nothing. -/
def isNanWord (t : Text) : Bool :=
  (Text.splitSign (Text.lower (t.filter fun c => !c.is '_'))).2 == ".nan"

end TapeLang.Yaml
