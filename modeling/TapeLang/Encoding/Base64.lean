/-
  Base64 — bytes that are written by letters, six bits for each.

  Four letters write three bytes.  The last group may have two or three letters, filled up with equals
  signs, and with them the text ends.  Signs that are no letters, and equals signs in other places, are
  passed over.
-/
import TapeLang.Text

namespace TapeLang.Base64

/-- Why a text writes no bytes. -/
inductive Error where
  /-- The last group, behind so many letters, has one letter. -/
  | lone (before : Nat)
  /-- The last group is not filled up. -/
  | unpadded
  deriving DecidableEq

/-- The six bits of a letter. -/
def bits? (c : CodePoint) : Option Nat :=
  if 0x41 ≤ c.val ∧ c.val ≤ 0x5A then some (c.val - 0x41)
  else if 0x61 ≤ c.val ∧ c.val ≤ 0x7A then some (c.val - 0x61 + 26)
  else if 0x30 ≤ c.val ∧ c.val ≤ 0x39 then some (c.val - 0x30 + 52)
  else if c.is '+' then some 62
  else if c.is '/' then some 63
  else none

/-- The place in a group of four letters, and the bits of the last letter that are in no byte yet. -/
inductive Group where
  /-- At its start. -/
  | zero
  /-- Behind one letter: six bits. -/
  | one (left : Nat)
  /-- Behind two letters: four bits. -/
  | two (left : Nat)
  /-- Behind three letters: two bits. -/
  | three (left : Nat)

/-- How many letters of the group are read. -/
def Group.size : Group → Nat
  | zero => 0
  | one _ => 1
  | two _ => 2
  | three _ => 3

/-- Reads one letter: the group behind it, and the byte that it completes. -/
def Group.read (bits : Nat) : Group → Group × List UInt8
  | zero => (.one bits, [])
  | one left => (.two (bits % 16), [UInt8.ofNat (left * 4 + bits / 16)])
  | two left => (.three (bits % 4), [UInt8.ofNat (left * 16 + bits / 4)])
  | three left => (.zero, [UInt8.ofNat (left * 64 + bits)])

/-- Reads a text: `done` holds the bytes so far, latest first, and `pads` counts the equals signs behind
    the last letter. -/
def decodeFrom (group : Group) (pads : Nat) (done : List UInt8) : Text → Except Error (List UInt8)
  | [] =>
    match group with
    | .zero => .ok done.reverse
    | .one _ => .error (.lone (done.length / 3 * 4))
    | .two _ | .three _ => .error .unpadded
  | c :: rest =>
    match bits? c with
    | some bits =>
      let (group, bytes) := group.read bits
      decodeFrom group 0 (bytes ++ done) rest
    | none =>
      if !c.is '=' || group.size < 2 then decodeFrom group pads done rest
      else if 4 ≤ group.size + pads + 1 then .ok done.reverse
      else decodeFrom group (pads + 1) done rest

/-- The bytes that a text writes. -/
def decode (t : Text) : Except Error (List UInt8) := decodeFrom .zero 0 [] t

/-- The message of an error. -/
def Error.message : Error → Text
  | lone before => "Invalid base64-encoded string: number of data characters (" ++
      Text.natural (before + 1) ++ ") cannot be 1 more than a multiple of 4"
  | unpadded => "Incorrect padding"

example : (decode "Ky4=").toOption = some [0x2B, 0x2E] := by decide +kernel
example : (decode "K-y\n4==").toOption = some [0x2B, 0x2E] ∧ (decode "Ky4").toOption = none := by
  decide +kernel

end TapeLang.Base64
