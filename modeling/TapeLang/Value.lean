/-
  Value — the values that a document can hold.

  Programs, inputs and cases arrive as values of a data format: texts, lists of numbers, mappings.
  The type says which values there are; what they look like in a message is in `Value.Display`, and
  which of them may be keys of a mapping is decided here.
-/
import TapeLang.Calendar
import TapeLang.Decimal.Content
import TapeLang.Text

namespace TapeLang

/-- A value of the data format. -/
inductive Value where
  /-- The absent value. -/
  | null
  /-- A truth value. -/
  | bool (b : Bool)
  /-- An integer of any size. -/
  | int (n : Int)
  /-- A double-precision number. -/
  | float (x : Float)
  /-- A text. -/
  | text (t : Text)
  /-- A byte string. -/
  | bytes (bs : List UInt8)
  /-- A byte string that its owner may change. -/
  | buffer (bs : List UInt8)
  /-- A day. -/
  | date (d : Date)
  /-- A day with a time. -/
  | moment (d : Date) (t : TimeOfDay)
  /-- A list. -/
  | list (items : List Value)
  /-- A list of fixed length. -/
  | tuple (items : List Value)
  /-- A mapping; its entries are in order of first insertion. -/
  | dict (entries : List (Value × Value))
  /-- A set; its items are in the order in which it is written. -/
  | set (items : List Value)
  /-- A list, or a mapping, that stands inside itself: the place where it is met again. -/
  | again (mapping : Bool)

namespace Value

instance : Inhabited Value := ⟨.null⟩

/-- The name of a value's type. -/
def typeName : Value → Text
  | null => "NoneType"
  | bool _ => "bool"
  | int _ => "int"
  | float _ => "float"
  | text _ => "str"
  | bytes _ => "bytes"
  | buffer _ => "bytearray"
  | date _ => "datetime.date"
  | moment .. => "datetime.datetime"
  | list _ => "list"
  | tuple _ => "tuple"
  | dict _ => "dict"
  | set _ => "set"
  | again mapping => if mapping then "dict" else "list"

/-- The integer that a value is; a truth value counts as zero or one. -/
def integer? : Value → Option Int
  | int n => some n
  | bool b => some (if b then 1 else 0)
  | _ => none

/-- The integer that a value is worth; a number with a fraction is worth one if the fraction is zero. -/
def whole? : Value → Option Int
  | float x => (Decimal.Content.of x).integer?
  | v => v.integer?

/-- A value counts as true unless it is absent, false, zero or empty. -/
def truthy : Value → Bool
  | null => false
  | bool b => b
  | int n => n != 0
  | float x => x != 0.0
  | text t => !t.isEmpty
  | bytes bs | buffer bs => !bs.isEmpty
  | date _ | moment .. | again _ => true
  | list items | tuple items | set items => !items.isEmpty
  | dict entries => !entries.isEmpty

/-! ## Keys

Lists, mappings, sets and buffers can change, so they are no keys, and neither is a tuple that holds one.
-/

mutual

/-- The innermost first value that keeps a value from being a key. -/
def changeable? : Value → Option Value
  | list items => some (list items)
  | dict entries => some (dict entries)
  | buffer bs => some (buffer bs)
  | set items => some (set items)
  | again mapping => some (again mapping)
  | tuple items => changeableAmong? items
  | _ => none

/-- The first such value of a list. -/
def changeableAmong? : List Value → Option Value
  | [] => none
  | v :: rest => (changeable? v).or (changeableAmong? rest)

end

mutual

/-- Whether two values are the same key: numbers by what they are worth, times by their instants, all
    else by type and content. -/
def sameKey : Value → Value → Bool
  | null, null => true
  | text s, text t => s == t
  | bytes a, bytes b => a == b
  | date a, date b => a == b
  | moment a s, moment b t => TimeOfDay.same a s b t
  | tuple as, tuple bs => sameKeys as bs
  | float x, float y => (Decimal.Content.of x).same (Decimal.Content.of y)
  | v, w => v.whole?.isSome && v.whole? == w.whole?

/-- The same for tuples, element by element. -/
def sameKeys : List Value → List Value → Bool
  | [], [] => true
  | v :: vs, w :: ws => sameKey v w && sameKeys vs ws
  | _, _ => false

end

/-- Sets a key of a mapping: a key that is there keeps its place and its own form. -/
def insertEntry (key value : Value) : List (Value × Value) → List (Value × Value)
  | [] => [(key, value)]
  | (k, v) :: rest =>
    if k.sameKey key then (k, value) :: rest else (k, v) :: insertEntry key value rest

/-- Looks a text key up. -/
def entry? (name : Text) : List (Value × Value) → Option Value
  | [] => none
  | (.text k, v) :: rest => if k == name then some v else entry? name rest
  | _ :: rest => entry? name rest

end Value

end TapeLang
