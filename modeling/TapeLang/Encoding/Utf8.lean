/-
  Utf8 — reading UTF-8 bytes as a text.

  A stretch of bytes is taken apart from the front.  Its head is a code point, or it is broken, or the
  bytes end before the code point does; no code point has two spellings and none is a surrogate.  Whoever
  reads a file in blocks gets the bytes of a code point that is cut off, to put them in front of the next
  block.
-/
import TapeLang.Text

namespace TapeLang.Utf8

/-- What is wrong with the bytes at some place. -/
inductive Flaw where
  /-- No code point starts with this byte. -/
  | badStart
  /-- A byte that should go on does not. -/
  | badContinuation
  /-- The bytes end inside a code point. -/
  | unfinished
  deriving DecidableEq

/-- A failure to read: the flaw, the place of the first byte concerned, and the bytes concerned. -/
structure Error where
  /-- What is wrong. -/
  flaw : Flaw
  /-- Where, counted from the start of the stretch of bytes. -/
  start : Nat
  /-- The bytes in question, one at least. -/
  bytes : List UInt8

/-- What stands at the front of a stretch of bytes. -/
inductive Head where
  /-- A code point made of so many bytes. -/
  | char (c : CodePoint) (size : Nat)
  /-- A flaw that concerns so many bytes. -/
  | flawed (flaw : Flaw) (size : Nat)
  /-- The start of a code point or of a surrogate, and nothing behind it. -/
  | cut

/-- A byte `10xxxxxx`. -/
def isContinuation (b : UInt8) : Bool := 0x80 ≤ b && b ≤ 0xBF

/-- The second bytes that may follow a given first byte: they rule out second spellings, surrogates and
    numbers beyond U+10FFFF. -/
def secondMayBe (first second : UInt8) : Bool :=
  isContinuation second &&
    (first != 0xE0 || 0xA0 ≤ second) && (first != 0xED || second ≤ 0x9F) &&
    (first != 0xF0 || 0x90 ≤ second) && (first != 0xF4 || second ≤ 0x8F)

/-- The number that the bytes of one code point write, the first byte giving its lowest bits. -/
def number (lead : Nat) (bs : List UInt8) : Nat := bs.foldl (fun n b => n * 64 + b.toNat % 64) lead

/-- A code point of `bs` bytes behind the bits `lead` of its first byte. -/
def Head.ofNumber (lead : Nat) (bs : List UInt8) : Head :=
  match CodePoint.ofNat? (number lead bs) with
  | some c => .char c (bs.length + 1)
  | none => .flawed .badStart 1

/-- The front of a stretch that starts with the byte `a`. -/
def Head.of (a : UInt8) : List UInt8 → Head
  | rest =>
    if a < 0x80 then .char (CodePoint.ofByte a) 1
    else if a < 0xC2 || 0xF4 < a then .flawed .badStart 1
    else
      match rest with
      | [] => .cut
      | b :: rest =>
        if !secondMayBe a b then
          if a == 0xED && isContinuation b && rest.isEmpty then .cut else .flawed .badContinuation 1
        else if a < 0xE0 then .ofNumber (a.toNat % 32) [b]
        else
          match rest with
          | [] => .cut
          | c :: rest =>
            if !isContinuation c then .flawed .badContinuation 2
            else if a < 0xF0 then .ofNumber (a.toNat % 16) [b, c]
            else
              match rest with
              | [] => .cut
              | d :: _ =>
                if !isContinuation d then .flawed .badContinuation 3
                else .ofNumber (a.toNat % 8) [b, c, d]

/-- Reads a stretch of bytes; `skip` bytes at its front belong to a code point already read.  The
    result is the text, latest code point first, and the bytes of a code point that is cut off. -/
def readFrom (position skip : Nat) (done : Text) : List UInt8 → Except Error (Text × List UInt8)
  | [] => .ok (done, [])
  | a :: rest =>
    match skip with
    | skip + 1 => readFrom (position + 1) skip done rest
    | 0 =>
      match Head.of a rest with
      | .char c size => readFrom (position + 1) (size - 1) (c :: done) rest
      | .flawed flaw size => .error ⟨flaw, position, (a :: rest).take size⟩
      | .cut => .ok (done, a :: rest)

/-- What is wrong with bytes that are cut off at some place, if nothing follows them at all.  Those of a
    surrogate would be wrong anyway. -/
def Error.ofCut (start : Nat) (left : List UInt8) : Error :=
  match left with
  | [a, b] => if secondMayBe a b then ⟨.unfinished, start, left⟩ else ⟨.badContinuation, start, [a]⟩
  | _ => ⟨.unfinished, start, left⟩

/-- Reads all of some bytes. -/
def decode (bs : List UInt8) : Except Error Text := do
  let (done, left) ← readFrom 0 0 [] bs
  if left.isEmpty then return done.reverse else throw (.ofCut (bs.length - left.length) left)

/-- The name of a flaw. -/
def Flaw.text : Flaw → Text
  | badStart => "invalid start byte"
  | badContinuation => "invalid continuation byte"
  | unfinished => "unexpected end of data"

/-- The message of an error. -/
def Error.message (e : Error) : Text :=
  "'utf-8' codec can't decode " ++
    (match e.bytes with
      | [b] => "byte 0x" ++ Text.hex 2 b.toNat ++ " in position " ++ Text.natural e.start
      | bs => "bytes in position " ++ Text.natural e.start ++ "-" ++
          Text.natural (e.start + bs.length - 1)) ++
    ": " ++ e.flaw.text

example : (decode [0x61, 0xE2, 0x82, 0xAC]).toOption = some "a€" := by decide +kernel
example : (decode [0xED, 0xA0, 0x80]).toOption = none := by decide +kernel

end TapeLang.Utf8
