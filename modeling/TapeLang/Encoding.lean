/-
  Encoding — from texts to bytes.

  An encoding says for each code point which bytes stand for it, or that none do; a text is the
  concatenation of its code points, after a byte order mark where the encoding writes one.  All is
  said by one function, `Encoding.unit?`, so what holds of the bytes of one code point holds of a
  text by induction.

  Encodings are asked for by name.  Which names there are is a parameter of all that follows (`Codecs`): a
  name stands for whatever makes bytes of texts, or for nothing.  The program itself knows the encodings
  that are described here, and some names of transformations that turn no text into bytes at all.
-/
import TapeLang.Text
import TapeLang.Text.Quoted

namespace TapeLang

/-- The order of the bytes of a unit. -/
inductive ByteOrder where
  /-- The least significant byte first. -/
  | little
  /-- The most significant byte first. -/
  | big
  deriving DecidableEq

/-- The encodings. -/
inductive Encoding where
  /-- One byte below 128. -/
  | ascii
  /-- One byte. -/
  | latin1
  /-- One to four bytes. -/
  | utf8
  /-- The same after a signature. -/
  | utf8Signed
  /-- One or two units of two bytes; without an order, little-endian after a byte order mark. -/
  | utf16 (order : Option ByteOrder)
  /-- One unit of four bytes; without an order, little-endian after a byte order mark. -/
  | utf32 (order : Option ByteOrder)
  deriving DecidableEq

/-- Why a text has no bytes. -/
inductive EncodingError where
  /-- No encoding has this name. -/
  | unknown (name : Text)
  /-- The name belongs to a transformation between byte strings or between texts. -/
  | notForText (name : Text)
  /-- The name holds U+0000. -/
  | nulInName
  /-- The code points from `first` to `last` cannot be written in the encoding that calls itself `codec`, for
      this reason; `char` is the first of them. -/
  | unencodable (codec reason : Text) (first last : Nat) (char : CodePoint)
  /-- The text is not acceptable to the encoding, which says why. -/
  | unacceptable (reason : Text)

/-! ## The bytes of a code point -/

namespace ByteOrder

/-- The bytes of a unit of two bytes. -/
def two (order : ByteOrder) (n : Nat) : List UInt8 :=
  let bs := [UInt8.ofNat n, UInt8.ofNat (n / 256)]
  match order with
  | little => bs
  | big => bs.reverse

/-- The bytes of a unit of four bytes. -/
def four (order : ByteOrder) (n : Nat) : List UInt8 :=
  let bs := [UInt8.ofNat n, UInt8.ofNat (n / 256), UInt8.ofNat (n / 65536), UInt8.ofNat (n / 16777216)]
  match order with
  | little => bs
  | big => bs.reverse

end ByteOrder

/-- The UTF-8 bytes of a number below 2^21. -/
def utf8Bytes (n : Nat) : List UInt8 :=
  if n < 0x80 then [UInt8.ofNat n]
  else if n < 0x800 then [UInt8.ofNat (0xC0 + n / 64), UInt8.ofNat (0x80 + n % 64)]
  else if n < 0x10000 then
    [UInt8.ofNat (0xE0 + n / 4096), UInt8.ofNat (0x80 + n / 64 % 64), UInt8.ofNat (0x80 + n % 64)]
  else
    [UInt8.ofNat (0xF0 + n / 262144), UInt8.ofNat (0x80 + n / 4096 % 64),
     UInt8.ofNat (0x80 + n / 64 % 64), UInt8.ofNat (0x80 + n % 64)]

namespace Encoding

/-- The bytes of one code point, if the encoding has some. -/
def unit? (e : Encoding) (c : CodePoint) : Option (List UInt8) :=
  match e with
  | ascii => if c.val < 0x80 then some [UInt8.ofNat c.val] else none
  | latin1 => if c.val < 0x100 then some [UInt8.ofNat c.val] else none
  | utf8 | utf8Signed => if c.isSurrogate then none else some (utf8Bytes c.val)
  | utf16 order =>
    let order := order.getD .little
    if c.isSurrogate then none
    else if c.val < 0x10000 then some (order.two c.val)
    else
      let n := c.val - 0x10000
      some (order.two (0xD800 + n / 1024) ++ order.two (0xDC00 + n % 1024))
  | utf32 order => if c.isSurrogate then none else some ((order.getD .little).four c.val)

/-- What is written before the text, be it empty. -/
def signature : Encoding → List UInt8
  | utf8Signed => [0xEF, 0xBB, 0xBF]
  | utf16 none => [0xFF, 0xFE]
  | utf32 none => [0xFF, 0xFE, 0, 0]
  | _ => []

/-- How an encoding calls itself in messages. -/
def title : Encoding → Text
  | ascii => "ascii"
  | latin1 => "latin-1"
  | utf8 | utf8Signed => "utf-8"
  | utf16 none => "utf-16"
  | utf16 (some .little) => "utf-16-le"
  | utf16 (some .big) => "utf-16-be"
  | utf32 none => "utf-32"
  | utf32 (some .little) => "utf-32-le"
  | utf32 (some .big) => "utf-32-be"

/-- What an encoding cannot write. -/
def limit : Encoding → Text
  | ascii => "ordinal not in range(128)"
  | latin1 => "ordinal not in range(256)"
  | _ => "surrogates not allowed"

/-- Whether a run of code points that cannot be written is reported as one. -/
def reportsRuns : Encoding → Bool
  | utf16 _ | utf32 _ => false
  | _ => true

/-- The bytes of the part of a text that starts at `position`. -/
def encodeFrom (e : Encoding) (position : Nat) : Text → Except EncodingError (List UInt8)
  | [] => .ok []
  | c :: rest =>
    match e.unit? c with
    | some bs => (e.encodeFrom (position + 1) rest).map (bs ++ ·)
    | none =>
      let run := if e.reportsRuns then (rest.takeWhile fun d => (e.unit? d).isNone).length else 0
      .error (.unencodable e.title e.limit position (position + run) c)

/-- The bytes of a text. -/
def encode (e : Encoding) (t : Text) : Except EncodingError (List UInt8) :=
  (e.encodeFrom 0 t).map (e.signature ++ ·)

/-! ## Names -/

/-- A name with its letters in lower case and each run of other signs made one underscore; what stands
    at the ends vanishes.  Letters and digits are the ASCII ones. -/
def canonicalName (name : Text) : String :=
  let signs := name.map fun c =>
    let x := c.toChar.toLower
    if x.isAlphanum || x == '.' then x else '_'
  let words := (signs.splitOn '_').filter (!·.isEmpty)
  String.ofList (List.intercalate ['_'] words)

/-- What a name stands for. -/
inductive Named where
  /-- An encoding. -/
  | encoding (e : Encoding)
  /-- A transformation that is no encoding of text. -/
  | other

namespace Named

/-- The names under which the encodings and transformations are kept. -/
def names : List (String × Named) := [
    ("utf_8", encoding utf8), ("ascii", encoding ascii), ("latin_1", encoding latin1),
    ("utf_16", encoding (utf16 none)), ("utf_16_le", encoding (utf16 (some .little))),
    ("utf_16_be", encoding (utf16 (some .big))), ("utf_32", encoding (utf32 none)),
    ("utf_32_le", encoding (utf32 (some .little))), ("utf_32_be", encoding (utf32 (some .big))),
    ("utf_8_sig", encoding utf8Signed), ("base64_codec", other), ("bz2_codec", other),
    ("hex_codec", other), ("quopri_codec", other), ("rot_13", other), ("uu_codec", other),
    ("zlib_codec", other)]

/-- Their other names.  In these a point may stand for an underscore. -/
def aliases : List (String × Named) := [
    ("cp65001", encoding utf8), ("u8", encoding utf8), ("utf", encoding utf8),
    ("utf8", encoding utf8), ("utf8_ucs2", encoding utf8), ("utf8_ucs4", encoding utf8),
    ("646", encoding ascii), ("ansi_x3.4_1968", encoding ascii), ("ansi_x3.4_1986", encoding ascii),
    ("ansi_x3_4_1968", encoding ascii), ("cp367", encoding ascii), ("csascii", encoding ascii),
    ("ibm367", encoding ascii), ("iso646_us", encoding ascii), ("iso_646.irv_1991", encoding ascii),
    ("iso_ir_6", encoding ascii), ("us", encoding ascii), ("us_ascii", encoding ascii),
    ("8859", encoding latin1), ("cp819", encoding latin1), ("csisolatin1", encoding latin1),
    ("ibm819", encoding latin1), ("iso8859", encoding latin1), ("iso8859_1", encoding latin1),
    ("iso_8859_1", encoding latin1), ("iso_8859_1_1987", encoding latin1),
    ("iso_ir_100", encoding latin1), ("l1", encoding latin1), ("latin", encoding latin1),
    ("latin1", encoding latin1), ("u16", encoding (utf16 none)), ("utf16", encoding (utf16 none)),
    ("unicodelittleunmarked", encoding (utf16 (some .little))),
    ("utf_16le", encoding (utf16 (some .little))),
    ("unicodebigunmarked", encoding (utf16 (some .big))),
    ("utf_16be", encoding (utf16 (some .big))), ("u32", encoding (utf32 none)),
    ("utf32", encoding (utf32 none)), ("utf_32le", encoding (utf32 (some .little))),
    ("utf_32be", encoding (utf32 (some .big))), ("base64", other), ("base_64", other),
    ("bz2", other), ("hex", other), ("quopri", other), ("quoted_printable", other),
    ("quotedprintable", other), ("rot13", other), ("uu", other), ("zip", other), ("zlib", other)]

/-- What a canonical name stands for. -/
def ofName? (name : String) : Option Named :=
  let spelled := String.ofList (name.toList.map fun c => if c == '.' then '_' else c)
  (aliases.lookup name).or ((aliases.lookup spelled).or (names.lookup name))

end Named

/-- Looks a name up.  The name itself has to be a text that UTF-8 can write. -/
def lookup (name : Text) : Except EncodingError Named := do
  let _ ← utf8.encode name
  if name.any (·.is '\x00') then throw .nulInName
  match Named.ofName? (canonicalName name) with
  | some named => return named
  | none => throw (.unknown name)

/-- The encoding of a name. -/
def named (name : Text) : Except EncodingError Encoding := do
  match ← lookup name with
  | .encoding e => return e
  | .other => throw (.notForText name)

end Encoding

namespace EncodingError

/-- The message of an error. -/
def message : EncodingError → Text
  | unknown name => "unknown encoding: " ++ name
  | notForText name =>
    "'" ++ name ++ "' is not a text encoding; use codecs.encode() to handle arbitrary codecs"
  | nulInName => "embedded null character"
  | unencodable codec reason first last c =>
    "'" ++ codec ++ "' codec can't encode " ++
      (if first = last then
        "character '" ++ c.byNumber ++ "' in position " ++ Text.natural first
      else
        "characters in position " ++ Text.natural first ++ "-" ++ Text.natural last) ++
      ": " ++ reason
  | unacceptable reason => reason

/-- Whether an error is about a text and not about the name of an encoding. -/
def isAboutText : EncodingError → Bool
  | unencodable .. | unacceptable _ => true
  | unknown _ | notForText _ | nulInName => false

end EncodingError

/-! ## Codecs -/

/-- What the names of encodings stand for.  There may be more encodings than those of this file. -/
class Codecs where
  /-- Looks a name up.  It stands for an encoding, which makes bytes of a text or says why there are none, or
      for a transformation that is no encoding of text. -/
  find (name : Text) : Except EncodingError (Option (Text → Except EncodingError (List UInt8)))
  /-- What an encoding refuses is the text. -/
  aboutText {name : Text} {encode : Text → Except EncodingError (List UInt8)}
    (h : find name = .ok (some encode)) {t : Text} {e : EncodingError} (he : encode t = .error e) :
    e.isAboutText = true

namespace Encoding

/-- What an encoding of this file refuses is the text. -/
theorem isAboutText_of_encodeFrom {e : Encoding} {position : Nat} {t : Text} {x : EncodingError}
    (h : e.encodeFrom position t = .error x) : x.isAboutText = true := by
  induction t generalizing position with
  | nil => cases h
  | cons c rest ih =>
    unfold encodeFrom at h
    split at h
    · cases hrest : e.encodeFrom (position + 1) rest with
      | ok bs =>
        rw [hrest] at h
        cases h
      | error y =>
        rw [hrest] at h
        cases h
        exact ih hrest
    · cases h
      rfl

theorem isAboutText_of_encode {e : Encoding} {t : Text} {x : EncodingError} (h : e.encode t = .error x) :
    x.isAboutText = true := by
  unfold encode at h
  cases hfrom : e.encodeFrom 0 t with
  | ok bs =>
    rw [hfrom] at h
    cases h
  | error y =>
    rw [hfrom] at h
    cases h
    exact isAboutText_of_encodeFrom hfrom

/-- How a name stands for its encoding. -/
def Named.encoder? : Named → Option (Text → Except EncodingError (List UInt8))
  | encoding e => some e.encode
  | other => none

end Encoding

/-- The encodings of this file, under their names. -/
instance : Codecs where
  find name := (Encoding.lookup name).map Encoding.Named.encoder?
  aboutText := by
    intro name encode h t x hx
    cases hlookup : Encoding.lookup name with
    | error y =>
      rw [hlookup] at h
      cases h
    | ok named =>
      rw [hlookup] at h
      cases named with
      | encoding e =>
        cases h
        exact Encoding.isAboutText_of_encode hx
      | other => cases h

/-- The bytes of a text in the encoding of the given name. -/
def Text.encoded [Codecs] (t encoding : Text) : Except EncodingError (List UInt8) := do
  match ← Codecs.find encoding with
  | some encode => encode t
  | none => throw (.notForText encoding)

/-- A text in one of the encodings of this file. -/
theorem Text.encoded_of_named {name : Text} {e : Encoding} (h : Encoding.named name = .ok e) (t : Text) :
    t.encoded name = e.encode t := by
  have hfind : Codecs.find name = (Encoding.lookup name).map Encoding.Named.encoder? := rfl
  unfold Encoding.named at h
  rw [encoded, hfind]
  cases hlookup : Encoding.lookup name with
  | error x =>
    rw [hlookup] at h
    cases h
  | ok named =>
    rw [hlookup] at h
    cases named with
    | encoding e' =>
      cases h
      rfl
    | other => cases h

/-! ## Paths -/

/-- The bytes of one code point in a path: those of UTF-8.  A lone surrogate U+DC80 to U+DCFF stands for the
    byte 80 to FF, so that every row of bytes is some path. -/
def pathUnit? (c : CodePoint) : Option (List UInt8) :=
  if 0xDC80 ≤ c.val ∧ c.val ≤ 0xDCFF then some [UInt8.ofNat c.val] else Encoding.utf8.unit? c

/-- The bytes of the part of a path that starts at `position`. -/
def pathBytesFrom (position : Nat) : Text → Except EncodingError (List UInt8)
  | [] => .ok []
  | c :: rest =>
    match pathUnit? c with
    | some bs => (pathBytesFrom (position + 1) rest).map (bs ++ ·)
    | none =>
      let run := (rest.takeWhile (·.isSurrogate)).length
      .error (.unencodable Encoding.utf8.title Encoding.utf8.limit position (position + run) c)

/-- The bytes of a path. -/
def Text.pathBytes (path : Text) : Except EncodingError (List UInt8) := pathBytesFrom 0 path

example : Encoding.canonicalName "-UTF  16_LE" = "utf_16_le" := by decide +kernel
example : (Encoding.utf8.encode "é€").toOption = some [0xC3, 0xA9, 0xE2, 0x82, 0xAC] := by
  decide +kernel
example : ((Encoding.utf16 none).encode "a😀").toOption
    = some [0xFF, 0xFE, 0x61, 0, 0x3D, 0xD8, 0, 0xDE] := by decide +kernel

end TapeLang
