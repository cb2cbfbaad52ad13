/-
  Arguments — a fault is made again from its own arguments.

  1. **What is kept (`Fault.Kept`)** — a fault keeps its kind, what it says, and a position and a command if
     it is of a kind that has them.  Its message and its arguments are read off that (`Fault.kept_message`,
     `Fault.kept_arguments?`).  Kinds differ in where an argument is found: the words about brackets in
     general are one, and are what the fault says; the words of the other kinds are none, for they are
     fixed, or made from the command and its position.

  2. **The crux (`Fault.make?_eq_some_iff`)** — a fault is made from some arguments exactly if they are its
     own, once the place is filled in that may be left out.  So making a fault and reading its arguments
     off undo each other, for each kind in its own way.
-/
import TapeLang.Failure

namespace TapeLang

/-! ## What is kept -/

/-- All that is kept of a fault. -/
structure Fault.Kept where
  /-- The kind. -/
  kind : FaultKind
  /-- What the fault says, apart from the place of a bracket. -/
  contents : List Value
  /-- The position, if the kind has one. -/
  position? : Option Value
  /-- The command, if the kind has one. -/
  code? : Option Value

namespace Fault

/-- What a fault keeps. -/
def kept (f : Fault) : Kept := ⟨f.kind, f.contents, f.position?, f.code?⟩

namespace Kept

/-- The message, with the place of a bracket behind what is said. -/
def message (r : Kept) : Text :=
  if FaultKind.brackets.covers r.kind then
    spoken r.contents ++ " (at offset " ++ (r.position?.getD .null).shown ++ ")"
  else spoken r.contents

/-- The arguments to make the fault again; nothing if what they are read off is missing. -/
def arguments? (r : Kept) : Option (List Value) :=
  match r.kind with
  | .any | .execution => some r.contents
  | .brackets => do return [← r.contents.head?, ← r.position?]
  | .strayClose | .openLoop => do return [← r.position?]
  | .undefined => do return [← r.code?, ← r.position?]
  | .noInput | .leftEdge => some []

end Kept

/-- The message is read off what is kept. -/
theorem kept_message (f : Fault) : f.kept.message = f.message := by
  cases f <;> rfl

/-- The arguments are read off what is kept. -/
theorem kept_arguments? (f : Fault) : f.kept.arguments? = some f.arguments := by
  cases f <;> rfl

end Fault

/-! ## Which arguments make a fault -/

namespace FaultKind

/-- The arguments that a fault of a kind can be made from: any at all for the general kinds, words and a
    position for brackets, a position for one bracket, a number with a position that can be written or
    without one, and none where there is nothing to say. -/
def Accepts (k : FaultKind) (arguments : List Value) : Prop :=
  match k with
  | any | execution => True
  | brackets => ∃ message position, arguments = [message, position]
  | strayClose | openLoop => ∃ position, arguments = [position]
  | undefined =>
    ∃ code, code.integer?.isSome ∧
      (arguments = [code] ∨ ∃ position, position.isWritable ∧ arguments = [code, position])
  | noInput | leftEdge => arguments = []

/-- The arguments with the place filled in that may be left out. -/
def completed : FaultKind → List Value → List Value
  | undefined, [code] => [code, .null]
  | _, arguments => arguments

end FaultKind

namespace Fault

variable {k : FaultKind} {arguments : List Value} {f : Fault}

/-- A place that is left out is absent. -/
theorem make?_completed (k : FaultKind) (arguments : List Value) :
    make? k (k.completed arguments) = make? k arguments := by
  unfold FaultKind.completed
  split
  · rename_i code
    have hplace : Value.null.isWritable = true := rfl
    simp only [make?, hplace, and_true]
  · rfl

/-- **The crux.**  A fault is made exactly from its own arguments. -/
theorem make?_eq_some_iff : make? k arguments = some f ↔ f.kind = k ∧ f.arguments = k.completed arguments := by
  constructor
  · -- three cases make no fault: two of a command that is no number or of a position that cannot be
    -- written, and that of arguments that do not fit
    fun_cases make? k arguments with
    | case7 | case9 | case12 =>
      intro h
      cases h
    | case1 | case2 | case3 | case4 | case5 | case6 | case8 | case10 | case11 =>
      intro h
      cases h
      exact ⟨rfl, rfl⟩
  · rintro ⟨rfl, h⟩
    rw [← make?_completed, ← h]
    exact make?_arguments f

/-- From these arguments there is a fault, and from no others. -/
theorem exists_make?_iff : (∃ f, make? k arguments = some f) ↔ k.Accepts arguments := by
  constructor
  · rintro ⟨f, h⟩
    revert h
    fun_cases make? k arguments with
    | case7 | case9 | case12 =>
      intro h
      cases h
    | case1 | case2 => exact fun _ => trivial
    | case3 message position => exact fun _ => ⟨message, position, rfl⟩
    | case4 position | case5 position => exact fun _ => ⟨position, rfl⟩
    | case6 code hcode => exact fun _ => ⟨code, hcode, .inl rfl⟩
    | case8 code position h => exact fun _ => ⟨code, h.1, .inr ⟨position, h.2, rfl⟩⟩
    | case10 | case11 => exact fun _ => rfl
  · intro h
    cases k with
    | any | execution => exact ⟨_, rfl⟩
    | brackets =>
      obtain ⟨message, position, rfl⟩ := h
      exact ⟨_, rfl⟩
    | strayClose | openLoop =>
      obtain ⟨position, rfl⟩ := h
      exact ⟨_, rfl⟩
    | undefined =>
      obtain ⟨code, hcode, rfl | ⟨position, hplace, rfl⟩⟩ := h
      · exact ⟨_, dif_pos hcode⟩
      · exact ⟨_, dif_pos ⟨hcode, hplace⟩⟩
    | noInput | leftEdge =>
      obtain rfl : arguments = [] := h
      exact ⟨_, rfl⟩

theorem make_eq_ok_iff : make k arguments = .ok f ↔ make? k arguments = some f := by
  unfold make
  cases make? k arguments with
  | some g =>
    constructor
    · intro h
      cases h
      rfl
    · intro h
      cases h
      rfl
  | none =>
    constructor
    · intro h
      dsimp only at h
      split at h
      · cases h
      · cases h
    · intro h
      cases h

/-- What is the same cannot be told apart. -/
theorem alike_self (f : Fault) : f.alike f = true := by
  simp [alike]

/-- Every fault is the same when it was taken apart and put together. -/
theorem rebuilds_eq_true (f : Fault) : f.rebuilds = true := by
  rw [rebuilds, make?_arguments]
  exact alike_self f

/-! ## The theorem -/

/-- **A fault is made again from its own arguments.**  What a kind is made from are the arguments that it accepts.
    A fault that was made is of that kind, and its message and its arguments are read off what it keeps:
    the arguments are those given, with an absent place where one was left out.  From them a fault is made
    again, of the same kind, that says the same, with the same message, position and command, and its
    arguments are the same again. -/
theorem made_again (k : FaultKind) (arguments : List Value) :
    ((∃ f, make k arguments = .ok f) ↔ k.Accepts arguments) ∧
    ∀ f, make k arguments = .ok f →
      f.kind = k ∧ f.kept.message = f.message ∧ f.rebuilds = true ∧
      ∃ again, f.kept.arguments? = some again ∧ again = k.completed arguments ∧
        ∃ g, make f.kind again = .ok g ∧ g.kind = f.kind ∧ g.contents = f.contents ∧
          g.message = f.message ∧ g.position? = f.position? ∧ g.code? = f.code? ∧
          g.kept.arguments? = some again := by
  simp only [make_eq_ok_iff]
  refine ⟨exists_make?_iff, ?_⟩
  intro f h
  obtain ⟨hkind, hargs⟩ := make?_eq_some_iff.1 h
  refine ⟨hkind, kept_message f, rebuilds_eq_true f, f.arguments, kept_arguments? f, hargs, f, ?_⟩
  exact ⟨make?_arguments f, rfl, rfl, rfl, rfl, rfl, kept_arguments? f⟩

/-- A command that there is not, at no place: the absent place is an argument of what is made again. -/
theorem made_again_without_place :
    ∃ f, make .undefined [.int 7] = .ok f ∧ f.kept.arguments? = some [.int 7, .null] ∧
      ∃ g, make .undefined [.int 7, .null] = .ok g ∧ g.message = f.message := by
  obtain ⟨f, hf⟩ := (made_again .undefined [.int 7]).1.2 ⟨.int 7, rfl, .inl rfl⟩
  obtain ⟨hkind, -, -, again, hagain, rfl, g, hg, -, -, hmessage, -⟩ :=
    (made_again .undefined [.int 7]).2 f hf
  rw [hkind] at hg
  exact ⟨f, hf, hagain, g, hg, hmessage⟩

end Fault

end TapeLang
