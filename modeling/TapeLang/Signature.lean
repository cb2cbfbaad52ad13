/-
  Signature — the arguments that something is made from, and how a list of arguments can miss them.

  Cases and faults are made from arguments given by position or by name.  A mismatch says what is
  missing, what is one too many, or which name is not known.
-/
import TapeLang.Text
import TapeLang.Text.Quoted

namespace TapeLang

/-- What something is made from. -/
structure Signature where
  /-- The name of what is made. -/
  title : Text
  /-- The arguments that have to be given. -/
  required : List Text
  /-- The arguments that may be given. -/
  optional : List Text

/-- How arguments miss a signature. -/
inductive Mismatch where
  /-- These are not given. -/
  | missing (names : List Text)
  /-- So many are given, and that is too many. -/
  | tooMany (given : Nat)
  /-- This name is not known. -/
  | unexpected (name : Text)

namespace Signature

/-- The first mismatch of arguments given by name: an unknown name goes before a missing one. -/
def checkNames (s : Signature) (given : List Text) : Option Mismatch :=
  match given.find? fun n => !(s.required ++ s.optional).contains n with
  | some n => some (.unexpected n)
  | none =>
    let left := s.required.filter fun n => !given.contains n
    if left.isEmpty then none else some (.missing left)

/-- The mismatch of arguments given by position. -/
def checkCount (s : Signature) (given : Nat) : Option Mismatch :=
  if given < s.required.length then some (.missing (s.required.drop given))
  else if s.required.length + s.optional.length < given then some (.tooMany given)
  else none

/-- Some names in a row, as a sentence has them. -/
def enumeration : List Text → Text
  | [] => []
  | [a] => a
  | [a, b] => a ++ " and " ++ b
  | names => Text.join ", " (names.dropLast ++ (names.getLast?.map (("and " : Text) ++ ·)).toList)

/-- A plural `s`, unless there is one of them. -/
def plural (n : Nat) : Text := if n = 1 then [] else "s"

/-- The message about a mismatch.  What is made counts as the first argument by position. -/
def message (s : Signature) : Mismatch → Text
  | .missing names =>
    s.title ++ " missing " ++ Text.natural names.length ++ " required positional argument" ++
      plural names.length ++ ": " ++ enumeration (names.map Text.quoted)
  | .tooMany given =>
    let least := s.required.length + 1
    let most := least + s.optional.length
    s.title ++ " takes " ++
      (if least = most then Text.natural least
        else "from " ++ Text.natural least ++ " to " ++ Text.natural most) ++
      " positional argument" ++ plural most ++ " but " ++ Text.natural (given + 1) ++
      " were given"
  | .unexpected name => s.title ++ " got an unexpected keyword argument " ++ name.quoted

end Signature

end TapeLang
