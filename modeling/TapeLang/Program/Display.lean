/-
  Display — the notation of a tree.

  A command is written as the text of its one code point, a loop as the tuple of its body.  The notation
  says all that `Program.same` looks at, and it exists exactly if every command is the number of a code
  point.

  `Node.literal` is what `Leaf` and `Loop` say they are.
-/
import TapeLang.Failure
import TapeLang.Program
import TapeLang.Text.Quoted

namespace TapeLang

/-- The notation of a tuple with the given elements. -/
def Text.tuple : List Text → Text
  | [t] => "(" ++ t ++ ",)"
  | ts => "(" ++ Text.join ", " ts ++ ")"

/-- The code point whose number a command is.  A number of more than 32 bits is refused for its size. -/
def codePointOf (code : Value) : Except Failure CodePoint :=
  match code.integer? with
  | none => .error (.notInteger code.typeName)
  | some n =>
    if n < -0x80000000 ∨ 0x7FFFFFFF < n then .error .codePointOverflow
    else
      match CodePoint.ofInt? n with
      | some c => .ok c
      | none => .error .codePointRange

mutual

/-- The notation of a node. -/
def Node.literal : Node → Except Failure Text
  | .command code _ => (codePointOf code).map fun c => "Leaf(" ++ Text.quoted [c] ++ ")"
  | .loop body _ => (Program.literals body).map fun ts => "Loop" ++ Text.tuple ts

/-- The notations of the nodes of a program. -/
def Program.literals : List Node → Except Failure (List Text)
  | [] => .ok []
  | n :: rest => do return (← n.literal) :: (← Program.literals rest)

end

/-- The notation of a program. -/
def Program.literal (p : Program) : Except Failure Text := (Program.literals p).map Text.tuple

end TapeLang
