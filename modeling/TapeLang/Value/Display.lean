/-
  Display — how values look in messages.

  A value has a *notation*, which tells a text from a number by its quotation marks, and a *text*,
  which is the notation except that a text is itself.  Both are used: a case is named by the text of
  its name and reported by the notation.

  An integer that is too long to be read is too long to be written; whoever writes values that may hold
  one asks `Value.isWritable` first.  To write a collection is to write what is in it, one level down
  (`Value.levels`), and how many levels there is room for is not known here.
-/
import TapeLang.Decimal.Shortest
import TapeLang.Text.Numeral
import TapeLang.Text.Quoted
import TapeLang.Value

namespace TapeLang

/-- Numbers whose leading digit is worth `10^-4` to `10^15` are written positionally; an exponent has
    a sign and two digits at least. -/
def floatStyle : Decimal.Style where
  positionalFrom := -4
  positionalBelow := 16
  exponentDigits := 2
  infinity := "inf"
  nan := "nan"

/-- A double in the shortest form that reads back. -/
def Text.ofFloat (x : Float) : Text := floatStyle.writeContent (Decimal.Content.of x)

/-! ## Days and times -/

/-- A number filled up with zeros to `width` digits. -/
def Text.padded (width n : Nat) : Text :=
  let ds := Text.natural n
  List.replicate (width - ds.length) (CodePoint.ofChar '0') ++ ds

/-- A day as `2024-01-31`. -/
def Date.text (d : Date) : Text :=
  Text.padded 4 d.year ++ "-" ++ Text.padded 2 d.month ++ "-" ++ Text.padded 2 d.day

/-- An offset from universal time as `+02:00`. -/
def offsetText (minutes : Int) : Text :=
  (if minutes < 0 then ("-" : Text) else "+") ++ Text.padded 2 (minutes.natAbs / 60) ++ ":" ++
    Text.padded 2 (minutes.natAbs % 60)

/-- A time as `10:30:00.500000+02:00`; the fraction and the offset stand only where there is one. -/
def TimeOfDay.text (t : TimeOfDay) : Text :=
  Text.padded 2 t.hour ++ ":" ++ Text.padded 2 t.minute ++ ":" ++ Text.padded 2 t.second ++
    (if t.micro = 0 then [] else ("." : Text) ++ Text.padded 6 t.micro) ++
    (t.offset.map offsetText).getD []

/-- The three numbers of a day. -/
def Date.numbers (d : Date) : List Nat := [d.year, d.month, d.day]

/-- The numbers of a time; seconds and fractions are left out from the right where they are zero. -/
def TimeOfDay.numbers (t : TimeOfDay) : List Nat :=
  [t.hour, t.minute] ++
    (if t.micro ≠ 0 then [t.second, t.micro] else if t.second ≠ 0 then [t.second] else [])

/-- An offset as a length of time: whole days, negative ones included, and seconds within a day. -/
def lengthNotation (seconds : Int) : Text :=
  let days := Int.fdiv seconds 86400
  let rest := Int.fmod seconds 86400
  let parts : List Text :=
    (if days = 0 then [] else [("days=" : Text) ++ Text.integer days]) ++
    (if rest = 0 then [] else [("seconds=" : Text) ++ Text.integer rest])
  "datetime.timedelta(" ++ (if parts.isEmpty then ("0" : Text) else Text.join ", " parts) ++ ")"

/-- A time zone by its offset. -/
def zoneNotation (minutes : Int) : Text :=
  if minutes = 0 then "datetime.timezone.utc"
  else "datetime.timezone(" ++ lengthNotation (minutes * 60) ++ ")"

/-- The notation of a day. -/
def Date.constructed (d : Date) : Text :=
  "datetime.date(" ++ Text.join ", " (d.numbers.map Text.natural) ++ ")"

/-- The notation of a day with a time. -/
def TimeOfDay.constructed (t : TimeOfDay) (d : Date) : Text :=
  "datetime.datetime(" ++ Text.join ", " ((d.numbers ++ t.numbers).map Text.natural) ++
    (t.offset.map fun o => ", tzinfo=" ++ zoneNotation o).getD [] ++ ")"

/-! ## All values -/

namespace Value

mutual

/-- The notation of a value. -/
def literal : Value → Text
  | null => "None"
  | bool b => if b then "True" else "False"
  | int n => Text.integer n
  | float x => Text.ofFloat x
  | text t => t.quoted
  | bytes bs => Text.quotedBytes bs
  | buffer bs => Text.quotedBuffer bs
  | date d => d.constructed
  | moment d t => t.constructed d
  | list items => "[" ++ Text.join ", " (literals items) ++ "]"
  | tuple [v] => "(" ++ literal v ++ ",)"
  | tuple items => "(" ++ Text.join ", " (literals items) ++ ")"
  | dict entries => "\x7b" ++ Text.join ", " (entryLiterals entries) ++ "\x7d"
  | set [] => "set()"
  | set items => "\x7b" ++ Text.join ", " (literals items) ++ "\x7d"
  | again mapping => if mapping then "\x7b...\x7d" else "[...]"

/-- The notations of a list of values. -/
def literals : List Value → List Text
  | [] => []
  | v :: rest => literal v :: literals rest

/-- The notations of the entries of a mapping. -/
def entryLiterals : List (Value × Value) → List Text
  | [] => []
  | (k, v) :: rest => (literal k ++ ": " ++ literal v) :: entryLiterals rest

end

mutual

/-- Whether a value may be written: no integer in it has more digits than a numeral may have. -/
def isWritable : Value → Bool
  | int n => (Text.natural n.natAbs).length ≤ Text.maxNumeralDigits
  | list items | tuple items | set items => areWritable items
  | dict entries => entriesAreWritable entries
  | _ => true

/-- The same for all values of a list. -/
def areWritable : List Value → Bool
  | [] => true
  | v :: rest => v.isWritable && areWritable rest

/-- The same for all entries of a mapping. -/
def entriesAreWritable : List (Value × Value) → Bool
  | [] => true
  | (k, v) :: rest => k.isWritable && v.isWritable && entriesAreWritable rest

end

/-- The least number that has too many digits to be written. -/
def tooLong : Nat := Nat.pow 10 Text.maxNumeralDigits

/-- A number of digits that a numeral may have is itself not too long. -/
theorem le_tooLong {n : Nat} (h : n ≤ Text.maxNumeralDigits) : n ≤ tooLong := by
  have hpow : ∀ k, k < Nat.pow 10 k := fun _ => Nat.lt_pow_self (by decide)
  have hlimit := hpow Text.maxNumeralDigits
  unfold tooLong
  exact Nat.le_trans h (Nat.le_of_lt hlimit)

/-- An integer may be written if it is below the least number of too many digits. -/
theorem isWritable_int_iff {n : Int} : (int n).isWritable = true ↔ n.natAbs < tooLong := by
  have hdigits : ∀ k, 0 < k → ((Nat.toDigits 10 n.natAbs).length ≤ k ↔ n.natAbs < Nat.pow 10 k) :=
    fun _ hk => Nat.length_toDigits_le_iff (by decide) hk
  have hlimit := hdigits Text.maxNumeralDigits (by decide)
  rw [isWritable, decide_eq_true_iff, Text.natural, List.length_map]
  unfold tooLong
  exact hlimit

/-- How many levels the notation of a day with a time has: a time zone is written one level down, and an
    offset another one. -/
def momentLevels (t : TimeOfDay) : Nat :=
  match t.offset with
  | none => 1
  | some minutes => if minutes = 0 then 2 else 3

mutual

/-- How many levels the notation of a value has.  The items of a set are first put into a list. -/
def levels : Value → Nat
  | list items | tuple items => levelsAmong items + 1
  | set [] => 1
  | set (v :: rest) => max v.levels (levelsAmong rest) + 2
  | dict entries => entryLevels entries + 1
  | moment _ t => momentLevels t
  | _ => 1

/-- How many levels the deepest value of a list has. -/
def levelsAmong : List Value → Nat
  | [] => 0
  | v :: rest => max v.levels (levelsAmong rest)

/-- The same for the entries of a mapping. -/
def entryLevels : List (Value × Value) → Nat
  | [] => 0
  | (k, v) :: rest => max (max k.levels v.levels) (entryLevels rest)

end

/-- The text of a value: a text as it is, all else in its notation. -/
def shown : Value → Text
  | text t => t
  | date d => d.text
  | moment d t => d.text ++ " " ++ t.text
  | v => v.literal

end Value

end TapeLang
