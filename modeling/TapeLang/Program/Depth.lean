/-
  Depth — how deeply the loops of a program are nested.

  The depth is found without recursion on the tree.  A stack holds the sequences of nodes still to be
  looked at, each with the number of loops around it.  The one on top is taken, the bodies of its loops
  are put on the stack one after the other, one level deeper, and the greatest level met so far is kept.
  However deeply a program is nested, nothing but this stack grows.

  `Program.nesting` says by recursion on the tree what the depth is, and `Program.depth_eq_nesting`
  that the search finds it.

  The crux is what a round of the search preserves (`Search.round_goal`): the greater of two numbers, the
  greatest level met, and the greatest level that the sequences on the stack lead to, a sequence at level
  `k` leading to `k` plus its own nesting.  The search ends because a round takes away from what there is
  to look at (`Search.round_weight`): the bodies are together smaller than the sequence they stood in.

  `Program.depth` is `depth`, and a round of the search is one pass through the loop in it.
-/
import TapeLang.Program

namespace TapeLang

/-! ## Nesting by recursion -/

mutual

/-- How deeply loops are nested in a node. -/
def Node.nesting : Node → Nat
  | .command .. => 0
  | .loop body _ => Program.nesting body + 1

/-- How deeply loops are nested in a program. -/
def Program.nesting : List Node → Nat
  | [] => 0
  | n :: rest => max n.nesting (Program.nesting rest)

end

/-! ## Size -/

mutual

/-- The number of nodes in a node, itself included. -/
def Node.size : Node → Nat
  | .command .. => 1
  | .loop body _ => Program.size body + 1

/-- The number of nodes in a program, on all levels. -/
def Program.size : List Node → Nat
  | [] => 0
  | n :: rest => n.size + Program.size rest

end

/-! ## What is left to look at -/

/-- A sequence of nodes still to be looked at. -/
structure Pending where
  /-- How many loops are around it. -/
  level : Nat
  /-- The nodes. -/
  nodes : Program

namespace Pending

/-- How much there is to look at. -/
def weight : List Pending → Nat
  | [] => 0
  | p :: rest => Program.size p.nodes + 1 + weight rest

/-- The greatest level that pending sequences lead to. -/
def reach : List Pending → Nat
  | [] => 0
  | p :: rest => max (p.level + Program.nesting p.nodes) (reach rest)

end Pending

/-! ## The search -/

/-- The search for the depth on its way. -/
structure Search where
  /-- The greatest level met so far. -/
  found : Nat
  /-- The stack of the sequences still to be looked at, the top one first. -/
  stack : List Pending

namespace Search

/-- The start of the search: the whole program, with no loop around it. -/
def start (p : Program) : Search := ⟨0, [⟨0, p⟩]⟩

/-- Puts the bodies of some nodes on a stack, one after the other. -/
def push (level : Nat) (stack : List Pending) : List Node → List Pending
  | [] => stack
  | .command .. :: rest => push level stack rest
  | .loop body _ :: rest => push level (⟨level, body⟩ :: stack) rest

/-- One round of the search; none if the stack is empty. -/
def round (s : Search) : Option Search :=
  match s.stack with
  | [] => none
  | p :: rest => some ⟨max s.found p.level, push (p.level + 1) rest p.nodes⟩

/-- The bodies of a sequence are together no more to look at than the sequence. -/
theorem weight_push (level : Nat) (stack : List Pending) (nodes : List Node) :
    Pending.weight (push level stack nodes) ≤ Program.size nodes + Pending.weight stack := by
  induction nodes generalizing stack with
  | nil => exact Nat.le_add_left _ _
  | cons n rest ih =>
    cases n with
    | command code position =>
      have h := ih stack
      show Pending.weight (push level stack rest) ≤ 1 + Program.size rest + Pending.weight stack
      omega
    | loop body position =>
      have h := ih (⟨level, body⟩ :: stack)
      have hbody : Pending.weight (⟨level, body⟩ :: stack) =
          Program.size body + 1 + Pending.weight stack := rfl
      show Pending.weight (push level (⟨level, body⟩ :: stack) rest) ≤
        Program.size body + 1 + Program.size rest + Pending.weight stack
      omega

/-- **What a round takes away.** -/
theorem round_weight {s s' : Search} (h : s.round = some s') :
    Pending.weight s'.stack < Pending.weight s.stack := by
  obtain ⟨found, stack⟩ := s
  cases stack with
  | nil => cases h
  | cons p rest =>
    cases h
    have hpush := weight_push (p.level + 1) rest p.nodes
    show Pending.weight (push (p.level + 1) rest p.nodes) <
      Program.size p.nodes + 1 + Pending.weight rest
    omega

/-- The greatest level met when the stack is empty. -/
def deepest (s : Search) : Nat :=
  match _h : s.round with
  | none => s.found
  | some s' => s'.deepest
termination_by Pending.weight s.stack
decreasing_by exact round_weight _h

end Search

/-- How deeply loops are nested in a program. -/
def Program.depth (p : Program) : Nat := (Search.start p).deepest

/-! ## The search finds the nesting -/

namespace Search

/-- The greatest level that the search has met or will meet. -/
def goal (s : Search) : Nat := max s.found (Pending.reach s.stack)

/-- With its bodies on the stack, a sequence leads as far as it did itself. -/
theorem reach_push (level : Nat) (stack : List Pending) (nodes : List Node) :
    max level (Pending.reach (push (level + 1) stack nodes)) =
      max (level + Program.nesting nodes) (Pending.reach stack) := by
  induction nodes generalizing stack with
  | nil => rfl
  | cons n rest ih =>
    cases n with
    | command code position =>
      have h := ih stack
      show max level (Pending.reach (push (level + 1) stack rest)) =
        max (level + max 0 (Program.nesting rest)) (Pending.reach stack)
      omega
    | loop body position =>
      have h := ih (⟨level + 1, body⟩ :: stack)
      have hbody : Pending.reach (⟨level + 1, body⟩ :: stack) =
          max (level + 1 + Program.nesting body) (Pending.reach stack) := rfl
      show max level (Pending.reach (push (level + 1) (⟨level + 1, body⟩ :: stack) rest)) =
        max (level + max (Program.nesting body + 1) (Program.nesting rest)) (Pending.reach stack)
      omega

/-- **What a round preserves.** -/
theorem round_goal {s s' : Search} (h : s.round = some s') : s'.goal = s.goal := by
  obtain ⟨found, stack⟩ := s
  cases stack with
  | nil => cases h
  | cons p rest =>
    cases h
    have hpush := reach_push p.level rest p.nodes
    show max (max found p.level) (Pending.reach (push (p.level + 1) rest p.nodes)) =
      max found (max (p.level + Program.nesting p.nodes) (Pending.reach rest))
    omega

/-- When there is no other round, the goal is found. -/
theorem goal_of_done {s : Search} (h : s.round = none) : s.goal = s.found := by
  obtain ⟨found, stack⟩ := s
  cases stack with
  | nil => exact Nat.max_eq_left (Nat.zero_le found)
  | cons p rest => cases h

theorem deepest_eq_goal (s : Search) : s.deepest = s.goal := by
  fun_induction deepest s with
  | case1 s h => exact (goal_of_done h).symm
  | case2 s s' h ih => exact ih.trans (round_goal h)

end Search

theorem Program.depth_eq_nesting (p : Program) : p.depth = Program.nesting p := by
  rw [depth, Search.deepest_eq_goal]
  show max 0 (max (0 + Program.nesting p) 0) = Program.nesting p
  omega

end TapeLang
