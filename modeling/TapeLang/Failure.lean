/-
  Failure — every reason for which a job ends without its result.

  A fault of the program is one; the others say that a value is no program, that a file is missing, that
  a suite has the wrong shape, and so on.  A failure is a cause with the data it is about.  Its wording
  is in `Failure.message`, and `Failure.category` sorts the causes into the few classes that whoever
  catches failures tells apart.

  One reason is not the job's own: a run may not end within its budget of moves.

  A fault is raised as one of the errors of the evaluator.  All other failures are errors of whatever the
  evaluator calls: of a wrong type or value, of a look-up, of a file, of the reader of suites.
-/
import TapeLang.Encoding
import TapeLang.Encoding.Utf8
import TapeLang.Fault
import TapeLang.Signature
import TapeLang.Text.Numeral
import TapeLang.Value.Display

namespace TapeLang

/-! ## Causes -/

/-- Where a suite does not have the shape of a suite. -/
inductive ShapeError where
  /-- The document is neither a list of cases nor a mapping with one. -/
  | outline (path : Text)
  /-- A case is no mapping. -/
  | notMapping
  /-- A case has no name. -/
  | noName
  /-- The case of this name has no program. -/
  | noProgram (name : Value)
  /-- The case of this name expects both an output and a fault, or neither. -/
  | expectations (name : Value)
  /-- The case of this name expects a fault that there is not. -/
  | unknownFault (name fault : Value)
  /-- An element of a field is no byte. -/
  | element (field : Text)
  /-- A field is neither a text nor a list. -/
  | content (field : Text)

/-- Why a day or a time does not exist. -/
inductive CalendarError where
  /-- The year is not between 1 and 9999. -/
  | year (year : Nat)
  /-- There is no such month. -/
  | month
  /-- The month has no such day. -/
  | day
  /-- There is no such hour. -/
  | hour
  /-- There is no such minute. -/
  | minute
  /-- There is no such second. -/
  | second
  /-- The offset from universal time is a day or more. -/
  | offset (minutes : Int)

/-- Why a file cannot be read. -/
inductive FileError where
  /-- There is no file at the path. -/
  | notFound (path : Text)
  /-- There is a directory at the path. -/
  | isDirectory (path : Text)
  /-- The path leads through a file. -/
  | notDirectory (path : Text)
  /-- The path holds U+0000. -/
  | nulInPath
  /-- The path holds a name that no file can have, for its length. -/
  | tooLong (path : Text)
  /-- The file at the path is not for everyone. -/
  | denied (path : Text)
  /-- The file at the path cannot be read for some other reason. -/
  | unreadable (path : Text)

/-- What a switch of the command line is about that is given with no value. -/
inductive Blank where
  /-- The level of the log. -/
  | logLevel
  /-- The size of a chunk. -/
  | chunkSize
  /-- The name of the encoding. -/
  | encoding
  /-- A program or an input. -/
  | content
  /-- How many cells of the tape are shown. -/
  | range
  deriving DecidableEq

/-- Every reason for which a job ends without its result. -/
inductive Failure where
  /-- A fault of a program. -/
  | fault (f : Fault)
  /-- The size of a chunk of cells is not positive. -/
  | chunkSize (n : Int)
  /-- A value that cannot be bytes. -/
  | notBytes (v : Value)
  /-- A value of a type that has no elements to make bytes from. -/
  | unconvertible (typeName : Text)
  /-- A value of a type that is no integer, where one is needed. -/
  | notInteger (typeName : Text)
  /-- A value of a type that has no elements. -/
  | notIterable (typeName : Text)
  /-- One of several numbers is no byte. -/
  | bytesRange
  /-- A number is no byte. -/
  | byteRange
  /-- A value of a type that cannot be compared with an integer. -/
  | incomparable (typeName : Text)
  /-- A value of a type that cannot be written in base sixteen. -/
  | noHexadecimal (typeName : Text)
  /-- An integer has too many digits to be written. -/
  | tooManyDigits
  /-- A number is no code point. -/
  | codePointRange
  /-- A number is too large to be looked at as a code point. -/
  | codePointOverflow
  /-- A value of a type that can be no key. -/
  | unhashable (typeName : Text)
  /-- Something cannot be made from the arguments given. -/
  | mismatch (signature : Signature) (m : Mismatch)
  /-- A text is no integer. -/
  | numeral (text : Text) (e : NumeralError)
  /-- A text is no integer in a base. -/
  | numeralIn (base : Nat) (text : Text)
  /-- A text is empty where its first sign is needed. -/
  | emptyText
  /-- A text is no number with a fraction. -/
  | badFloat (text : Text)
  /-- An integer is too large for a number with a fraction. -/
  | floatOverflow
  /-- A text is no day and no time, though it is said to be one. -/
  | notTimestamp
  /-- A list stands where the text of a day or a time is needed. -/
  | listAsText
  /-- A structure refers to itself where its end is needed. -/
  | endless
  /-- The parts of a structure are nested too deeply for what is being done with all of them. -/
  | tooDeep (during : Text)
  /-- A switch of the command line is used that is given with no value. -/
  | blank (b : Blank)
  /-- A name that is not in a table. -/
  | notInTable (key : Value)
  /-- A text has no bytes. -/
  | encoding (e : EncodingError)
  /-- Bytes are no text. -/
  | decoding (e : Utf8.Error)
  /-- A suite has the wrong shape. -/
  | shape (e : ShapeError)
  /-- A day or a time does not exist. -/
  | calendar (e : CalendarError)
  /-- A file cannot be read. -/
  | file (e : FileError)
  /-- A document breaks the rules of its format. -/
  | document (message : Text)
  /-- The budget is used up before the run ends. -/
  | unfinished

/-! ## Wording -/

/-- The message about the shape of a suite. -/
def ShapeError.message : ShapeError → Text
  | outline path => "Unsupported suite structure in " ++ path ++ "; expected a 'cases' list"
  | notMapping => "Each case must be a mapping"
  | noName => "Each case must have 'name'"
  | noProgram name => "Case " ++ name.literal ++ " must have 'program'"
  | expectations name =>
    "Case " ++ name.literal ++ " must have exactly one of 'expected' or 'error'"
  | unknownFault name fault => "Case " ++ name.literal ++ ": unknown error " ++ fault.literal
  | element name => name ++ " elements must be integers in [0, 255]"
  | content name => name ++ " must be a string or a list of integers"

/-- The message about a day or a time. -/
def CalendarError.message : CalendarError → Text
  | year y => "year " ++ Text.natural y ++ " is out of range"
  | month => "month must be in 1..12"
  | day => "day is out of range for month"
  | hour => "hour must be in 0..23"
  | minute => "minute must be in 0..59"
  | second => "second must be in 0..59"
  | offset minutes =>
    "offset must be a timedelta strictly between -timedelta(hours=24) and timedelta(hours=24), not "
      ++ lengthNotation (minutes * 60) ++ "."

/-- The message about a file. -/
def FileError.message : FileError → Text
  | notFound path => "[Errno 2] No such file or directory: " ++ path.quoted
  | isDirectory path => "[Errno 21] Is a directory: " ++ path.quoted
  | notDirectory path => "[Errno 20] Not a directory: " ++ path.quoted
  | nulInPath => "embedded null byte"
  | tooLong path => "[Errno 36] File name too long: " ++ path.quoted
  | denied path => "[Errno 13] Permission denied: " ++ path.quoted
  | unreadable path => "[Errno 5] Input/output error: " ++ path.quoted

/-- The message about a text that is no integer in a base.  Of a long text the start is shown. -/
def malformedNumeral (base : Nat) (text : Text) : Text :=
  "invalid literal for int() with base " ++ Text.natural base ++ ": " ++ text.quoted.take 200

/-- The message about a text that is no integer. -/
def NumeralError.message (text : Text) : NumeralError → Text
  | malformed => malformedNumeral 10 text
  | tooLong digits =>
    "Exceeds the limit (" ++ Text.natural Text.maxNumeralDigits ++
      " digits) for integer string conversion: value has " ++ Text.natural digits ++
      " digits; use sys.set_int_max_str_digits() to increase the limit"

/-- The message about a switch with no value.  Its value counts as an empty list. -/
def Blank.message : Blank → Text
  | logLevel => "attribute name must be string, not 'list'"
  | chunkSize => "'<=' not supported between instances of 'list' and 'int'"
  | encoding => "lookup() argument must be str, not list"
  | content => "'list' object has no attribute 'encode'"
  | range => "unsupported operand type(s) for //: 'list' and 'int'"

namespace Failure

/-- The message of a failure. -/
def message : Failure → Text
  | fault f => f.message
  | chunkSize n => "chunk_size must be positive, got " ++ Text.integer n
  | notBytes v => "expected str, bytes or an iterable of ints, got " ++ v.literal
  | unconvertible t => "cannot convert '" ++ t ++ "' object to bytes"
  | notInteger t => "'" ++ t ++ "' object cannot be interpreted as an integer"
  | notIterable t => "'" ++ t ++ "' object is not iterable"
  | bytesRange => "bytes must be in range(0, 256)"
  | byteRange => "byte must be in range(0, 256)"
  | incomparable t => "'<' not supported between instances of 'int' and '" ++ t ++ "'"
  | noHexadecimal t => "Unknown format code 'x' for object of type '" ++ t ++ "'"
  | tooManyDigits => "Exceeds the limit (" ++ Text.natural Text.maxNumeralDigits ++
      " digits) for integer string conversion; use sys.set_int_max_str_digits() to increase the limit"
  | codePointRange => "chr() arg not in range(0x110000)"
  | codePointOverflow => "Python int too large to convert to C int"
  | unhashable t => "unhashable type: '" ++ t ++ "'"
  | mismatch s m => s.message m
  | numeral text e => e.message text
  | numeralIn base text => malformedNumeral base text
  | emptyText => "string index out of range"
  | badFloat text => "could not convert string to float: " ++ text.quoted
  | floatOverflow => "int too large to convert to float"
  | notTimestamp => "'NoneType' object has no attribute 'groupdict'"
  | listAsText => "expected string or bytes-like object, got 'list'"
  | endless => "maximum recursion depth exceeded"
  | tooDeep during => "maximum recursion depth exceeded" ++ during
  | blank b => b.message
  | notInTable key => key.literal
  | encoding e => e.message
  | decoding e => e.message
  | shape e => e.message
  | calendar e => e.message
  | file e => e.message
  | document m => m
  | unfinished => "the run did not end within its budget"

/-! ## Categories -/

/-- The classes of failures that are told apart when one is caught. -/
inductive Category where
  /-- A fault of a program, of the given kind. -/
  | fault (kind : FaultKind)
  /-- A value of the wrong type. -/
  | type
  /-- A value of the right type that is not acceptable. -/
  | value
  /-- A number out of all bounds. -/
  | overflow
  /-- A value that cannot be asked for what it is asked for. -/
  | attribute
  /-- A structure without an end, or with one that is too far away. -/
  | endless
  /-- A name that stands for nothing. -/
  | lookup
  /-- A key that a table does not have. -/
  | key
  /-- A place that is not in a text. -/
  | index
  /-- A text that an encoding cannot write. -/
  | encode
  /-- Bytes that are no text. -/
  | decode
  /-- A file that does not exist. -/
  | fileNotFound
  /-- A directory in place of a file. -/
  | isDirectory
  /-- A file in place of a directory. -/
  | notDirectory
  /-- A file that cannot be read for another reason. -/
  | file
  /-- A document that breaks the rules of its format. -/
  | document
  /-- A run that did not end. -/
  | unfinished
  deriving DecidableEq

/-- The category of a failure. -/
def category : Failure → Category
  | fault f => .fault f.kind
  | notBytes _ | unconvertible _ | notInteger _ | notIterable _ | unhashable _ | mismatch ..
  | incomparable _ | listAsText => .type
  | chunkSize _ | bytesRange | byteRange | codePointRange | numeral .. | numeralIn .. | badFloat _
  | noHexadecimal _ | tooManyDigits | shape _ | calendar _ => .value
  | codePointOverflow | floatOverflow => .overflow
  | notTimestamp | blank .content => .attribute
  | blank _ => .type
  | endless | tooDeep _ => .endless
  | notInTable _ => .key
  | emptyText => .index
  | encoding (.unknown _) | encoding (.notForText _) => .lookup
  | encoding .nulInName => .value
  | encoding (.unencodable ..) => .encode
  | encoding (.unacceptable _) => .value
  | decoding _ => .decode
  | file (.notFound _) => .fileNotFound
  | file (.isDirectory _) => .isDirectory
  | file (.notDirectory _) => .notDirectory
  | file .nulInPath => .value
  | file (.tooLong _) | file (.denied _) | file (.unreadable _) => .file
  | document _ => .document
  | unfinished => .unfinished

/-- The failures that say that a job was asked for in the wrong way: files, values, names and
    documents.  A value of the wrong type, or out of all bounds, is none of them. -/
def isMisuse (f : Failure) : Bool :=
  match f.category with
  | .fault _ | .type | .overflow | .attribute | .endless | .unfinished => false
  | _ => true

/-! ## Commands that there are not -/

/-- Why there is no fault about a command that is no number.  A message shows a visible ASCII sign by
    itself and anything else in base sixteen, and neither can be done. -/
def ofCommand : Value → Failure
  | .float x => if 0x20 < x && x < 0x7F then notInteger "float" else noHexadecimal "float"
  | v => incomparable v.typeName

/-- What comes of a command that there is not: a fault, if its position can be written and it is a number.
    The position is written first. -/
def undefined (code position : Value) : Failure :=
  if hasPlace : position.isWritable then
    if isNumber : code.integer?.isSome then fault (.undefined code position isNumber hasPlace)
    else ofCommand code
  else tooManyDigits

end Failure

/-- A value that is going to be written; an integer in it may have too many digits for that. -/
def Value.checkWritable (v : Value) : Except Failure Unit :=
  if v.isWritable then .ok () else .error .tooManyDigits

namespace Value

/-- The failure to write a value that has more levels than there is room for. -/
def tooNested : Failure := .tooDeep " while getting the repr of an object"

mutual

/-- Writes a value where there is room for so many levels: it has to come down to its last part.  From left to
    right, the first part that is in the way decides why it cannot. -/
def tryWriting : Value → (room : Nat) → Except Failure Unit
  | _, 0 => .error tooNested
  | int n, _ + 1 => (int n).checkWritable
  | list items, room + 1 | tuple items, room + 1 => tryWritingAll items room
  | set [], _ + 1 => .ok ()
  | set _, 1 => .error tooNested
  | set (v :: rest), room + 2 => tryWriting v room >>= fun _ => tryWritingAll rest room
  | dict entries, room + 1 => tryWritingEntries entries room
  | moment _ t, room + 1 => if momentLevels t ≤ room + 1 then .ok () else .error tooNested
  | _, _ + 1 => .ok ()

/-- Writes the values of a list. -/
def tryWritingAll : List Value → (room : Nat) → Except Failure Unit
  | [], _ => .ok ()
  | v :: rest, room => tryWriting v room >>= fun _ => tryWritingAll rest room

/-- Writes the entries of a mapping, each with its key first. -/
def tryWritingEntries : List (Value × Value) → (room : Nat) → Except Failure Unit
  | [], _ => .ok ()
  | (k, v) :: rest, room =>
    tryWriting k room >>= fun _ => tryWriting v room >>= fun _ => tryWritingEntries rest room

end

end Value

/-- How many levels of a value there is room for when it is written. -/
class WritingRoom where
  /-- The number of levels. -/
  levels : Nat

/-- The room that a check of suites has. -/
instance : WritingRoom := ⟨990⟩

/-- A value that is going to be written, with all that is in it. -/
def Value.write [WritingRoom] (v : Value) : Except Failure Unit := v.tryWriting WritingRoom.levels

/-! ## Work that may fail -/

theorem ok_bind {ε α β : Type} (a : α) (f : α → Except ε β) : (Except.ok a >>= f) = f a := rfl

/-- Work in two parts is done if both parts are. -/
theorem bind_eq_ok {ε α β : Type} {x : Except ε α} {f : α → Except ε β} {b : β}
    (h : x >>= f = .ok b) : ∃ a, x = .ok a ∧ f a = .ok b := by
  cases x with
  | error e => cases h
  | ok a => exact ⟨a, rfl, h⟩

/-! ## Faults from arguments -/

/-- What a fault of a kind is made from. -/
def FaultKind.signature (k : FaultKind) : Signature :=
  { title := k.name ++ ".__init__()"
    required := match k with
      | .brackets => ["message", "position"]
      | .strayClose | .openLoop => ["position"]
      | .undefined => ["command"]
      | _ => []
    optional := match k with
      | .undefined => ["position"]
      | _ => [] }

/-- Makes a fault of a kind, or says what is wrong with the arguments. -/
def Fault.make (k : FaultKind) (arguments : List Value) : Except Failure Fault :=
  match Fault.make? k arguments with
  | some f => .ok f
  | none =>
    match k.signature.checkCount arguments.length with
    | some m => .error (.mismatch k.signature m)
    | none => .error (Failure.undefined (arguments.headD .null) (arguments.getD 1 .null))

end TapeLang
