/-
  Sameness — programs that differ in positions only.

  Two programs are the same if they have the same loops around the same commands.  Commands are compared
  like keys of a mapping, so a number with a zero fraction is the same as the integer: same commands mean
  the same, and same programs run alike.

  Programs can be counted up to sameness as long as their commands can be keys.

  `Program.same` is the equality of `Leaf` and `Loop`, and `Program.countDistinct` the size of a set.
-/
import TapeLang.Failure
import TapeLang.Program

namespace TapeLang

mutual

/-- Whether two nodes are the same up to positions. -/
def Node.same : Node → Node → Bool
  | .command c _, .command d _ => c.sameKey d
  | .loop b _, .loop d _ => Program.same b d
  | _, _ => false

/-- Whether two programs are the same up to positions. -/
def Program.same : List Node → List Node → Bool
  | [], [] => true
  | m :: ms, n :: ns => m.same n && Program.same ms ns
  | _, _ => false

end

mutual

/-- The commands of a node, in reading order. -/
def Node.commands : Node → List Value
  | .command c _ => [c]
  | .loop body _ => Program.commands body

/-- The commands of a program, in reading order. -/
def Program.commands : List Node → List Value
  | [] => []
  | n :: rest => n.commands ++ Program.commands rest

end

/-- The number of different programs among some; a command that can be no key keeps them from being
    compared. -/
def Program.countDistinct (ps : List Program) : Except Failure Nat :=
  match Value.changeableAmong? (ps.flatMap Program.commands) with
  | some part => .error (.unhashable part.typeName)
  | none => .ok (ps.foldl (fun seen p => if seen.any (Program.same · p) then seen else p :: seen) []).length

/-- Same keys are worth the same integer, or none. -/
theorem Value.whole?_eq_of_sameKey {v w : Value} (h : v.sameKey w) : v.whole? = w.whole? := by
  unfold Value.sameKey at h
  split at h <;> try rfl
  · exact Decimal.Content.integer?_eq_of_same h
  · simp only [Bool.and_eq_true, beq_iff_eq] at h
    exact h.2

end TapeLang
