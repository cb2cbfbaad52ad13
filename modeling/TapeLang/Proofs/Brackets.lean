/-
  Brackets — counting brackets, and which of them belong together.

  Nothing here knows of programs.  The **height** of a source at an offset is the number of opening
  brackets before it less the number of closing ones; all else is said by heights.  A stretch of a source
  is **balanced** if the height comes back to where it was and was never lower in between.  Two brackets
  are **paired** if the height behind the second is that before the first, and higher at every offset
  between them: so every bracket has at most one partner.
-/
import TapeLang.Program

namespace TapeLang

/-- The two brackets. -/
inductive Bracket where
  /-- The one that opens a loop. -/
  | opening
  /-- The one that closes a loop. -/
  | closing
  deriving DecidableEq

namespace Bracket

/-- The bracket that a value of a source is. -/
def of? (c : Value) : Option Bracket :=
  if c.whole? = some openCode then some .opening
  else if c.whole? = some closeCode then some .closing
  else none

/-- The bracket at an offset of a source. -/
def at? (source : List Value) (k : Nat) : Option Bracket := source[k]?.bind of?

/-- How many of the brackets of a source are the given one. -/
def count (b : Bracket) (source : List Value) : Nat := source.countP (of? · = some b)

/-- How many more brackets are opened than closed before an offset. -/
def height (source : List Value) (k : Nat) : Int :=
  count .opening (source.take k) - count .closing (source.take k)

/-! ## Values and offsets -/

theorem of?_eq_opening_iff {c : Value} : of? c = some .opening ↔ c.whole? = some openCode := by
  unfold of?
  split
  · simp_all
  · split <;> simp_all

theorem of?_eq_closing_iff {c : Value} : of? c = some .closing ↔ c.whole? = some closeCode := by
  unfold of?
  split
  · rename_i h
    rw [h]
    decide
  · split <;> simp_all

theorem at?_eq_some {source : List Value} {c : Value} {k : Nat} (h : source[k]? = some c) :
    at? source k = of? c := by
  rw [at?, h, Option.bind_some]

/-- A bracket stands within its source. -/
theorem lt_length_of_at? {source : List Value} {b : Bracket} {k : Nat} (h : at? source k = some b) :
    k < source.length := by
  rcases Nat.lt_or_ge k source.length with hk | hk
  · exact hk
  · rw [at?, List.getElem?_eq_none hk] at h
    cases h

/-! ## Height -/

/-- By how much a bracket changes the height. -/
def rise : Option Bracket → Int
  | some .opening => 1
  | some .closing => -1
  | none => 0

theorem height_zero (source : List Value) : height source 0 = 0 := rfl

/-- The height behind an offset is that before it, and the bracket at the offset. -/
theorem height_succ (source : List Value) (k : Nat) :
    height source (k + 1) = height source k + rise (at? source k) := by
  unfold height count at?
  rw [List.take_add_one, List.countP_append, List.countP_append]
  cases source[k]? with
  | none => simp [rise]
  | some c =>
    rw [Option.toList_some, Option.bind_some]
    rcases h : of? c with _ | _ | _
    all_goals simp [rise, h]
    all_goals omega

theorem height_opening {source : List Value} {k : Nat} (h : at? source k = some .opening) :
    height source (k + 1) = height source k + 1 := by
  rw [height_succ, h, rise]

theorem height_closing {source : List Value} {k : Nat} (h : at? source k = some .closing) :
    height source (k + 1) = height source k - 1 := by
  rw [height_succ, h, rise]
  rfl

theorem height_plain {source : List Value} {k : Nat} (h : at? source k = none) :
    height source (k + 1) = height source k := by
  rw [height_succ, h, rise, Int.add_zero]

/-- Behind its end a source has the height of its end. -/
theorem height_of_length_le {source : List Value} {k : Nat} (h : source.length ≤ k) :
    height source k = height source source.length := by
  rw [height, height, List.take_of_length_le h, List.take_length]

/-- A height that is not negative within a source is so nowhere. -/
theorem height_nonneg {source : List Value} (h : ∀ j ≤ source.length, 0 ≤ height source j)
    (k : Nat) : 0 ≤ height source k := by
  rcases Nat.le_total k source.length with hk | hk
  · exact h k hk
  · rw [height_of_length_le hk]
    exact h source.length (Nat.le_refl _)

/-! ## Balanced stretches -/

/-- The stretch of a source from offset `a` up to `b` is balanced. -/
structure Balanced (source : List Value) (a b : Nat) : Prop where
  /-- The stretch does not end before it begins. -/
  le : a ≤ b
  /-- As many brackets are closed as are opened. -/
  level : height source b = height source a
  /-- None is closed that was not opened within. -/
  above : ∀ k, a ≤ k → k ≤ b → height source a ≤ height source k

/-- The brackets at offsets `i` and `j` belong together. -/
structure Paired (source : List Value) (i j : Nat) : Prop where
  /-- The second stands behind the first. -/
  lt : i < j
  /-- The first is an opening one. -/
  opening : at? source i = some .opening
  /-- The second is a closing one. -/
  closing : at? source j = some .closing
  /-- The height is the same before the first and behind the second. -/
  level : height source (j + 1) = height source i
  /-- In between it is higher. -/
  above : ∀ k ≤ j, i < k → height source i < height source k

/-- An opening bracket without a partner. -/
def Unpaired (source : List Value) (i : Nat) : Prop :=
  at? source i = some .opening ∧ ∀ j, ¬ Paired source i j

instance (source : List Value) (i j : Nat) : Decidable (Paired source i j) :=
  decidable_of_iff
    (i < j ∧ at? source i = some .opening ∧ at? source j = some .closing ∧
      height source (j + 1) = height source i ∧ ∀ k ≤ j, i < k → height source i < height source k)
    ⟨fun ⟨h₁, h₂, h₃, h₄, h₅⟩ => ⟨h₁, h₂, h₃, h₄, h₅⟩, fun ⟨h₁, h₂, h₃, h₄, h₅⟩ => ⟨h₁, h₂, h₃, h₄, h₅⟩⟩

namespace Balanced

variable {source : List Value} {a b c j : Nat}

theorem refl (source : List Value) (a : Nat) : Balanced source a a := by
  refine ⟨Nat.le_refl a, rfl, ?_⟩
  intro k hak hka
  obtain rfl := Nat.le_antisymm hak hka
  exact Int.le_refl _

theorem trans (h : Balanced source a b) (h' : Balanced source b c) : Balanced source a c := by
  refine ⟨Nat.le_trans h.le h'.le, h'.level.trans h.level, ?_⟩
  intro k hak hkc
  rcases Nat.le_total k b with hkb | hbk
  · exact h.above k hak hkb
  · have habove := h'.above k hbk hkc
    rw [h.level] at habove
    exact habove

/-- A value that is no bracket is balanced. -/
theorem plain (h : at? source a = none) : Balanced source a (a + 1) := by
  have hlevel := height_plain h
  refine ⟨Nat.le_succ a, hlevel, ?_⟩
  intro k hak hka
  rcases Nat.lt_or_eq_of_le hka with hlt | rfl
  · obtain rfl : a = k := by omega
    exact Int.le_refl _
  · exact Int.le_of_eq hlevel.symm

/-- Brackets around a balanced stretch are paired. -/
theorem paired (ho : at? source a = some .opening) (h : Balanced source (a + 1) j)
    (hc : at? source j = some .closing) : Paired source a j := by
  have hopen := height_opening ho
  have hclose := height_closing hc
  refine ⟨h.le, ho, hc, ?_, ?_⟩
  · have hlevel := h.level
    omega
  · intro k hkj hak
    have habove := h.above k hak hkj
    omega

/-- A balanced stretch between brackets is balanced with them. -/
theorem wrap (ho : at? source a = some .opening) (h : Balanced source (a + 1) j)
    (hc : at? source j = some .closing) : Balanced source a (j + 1) := by
  have hpair := paired ho h hc
  have hle := h.le
  refine ⟨by omega, hpair.level, ?_⟩
  intro k hak hkj
  rcases Nat.lt_or_eq_of_le hak with hlt | rfl
  · rcases Nat.lt_or_eq_of_le hkj with hlt' | rfl
    · exact Int.le_of_lt (hpair.above k (by omega) hlt)
    · exact Int.le_of_eq hpair.level.symm
  · exact Int.le_refl _

/-- A balanced beginning closes all that it opens, and nothing else. -/
theorem beginning (h : Balanced source 0 a) :
    height source a = 0 ∧ ∀ k ≤ a, 0 ≤ height source k := by
  have hzero := height_zero source
  refine ⟨h.level.trans hzero, ?_⟩
  intro k hk
  have habove := h.above k (Nat.zero_le k) hk
  omega

/-- A balanced source closes all that it opens, and nothing else, wherever one looks. -/
theorem whole (h : Balanced source 0 source.length) :
    height source source.length = 0 ∧ ∀ k, 0 ≤ height source k := by
  obtain ⟨hlevel, hnonneg⟩ := h.beginning
  exact ⟨hlevel, height_nonneg hnonneg⟩

end Balanced

/-! ## Partners -/

namespace Paired

variable {source : List Value} {i i' j j' : Nat}

/-- What is opened is closed once. -/
theorem closing_unique (h : Paired source i j) (h' : Paired source i j') : j = j' := by
  -- behind the nearer of the two the height is back, which the farther one does not allow
  rcases Nat.lt_trichotomy j j' with hlt | heq | hlt
  · have habove := h'.above (j + 1) hlt (by have := h.lt; omega)
    have hlevel := h.level
    omega
  · exact heq
  · have habove := h.above (j' + 1) hlt (by have := h'.lt; omega)
    have hlevel := h'.level
    omega

/-- What is closed was opened once. -/
theorem opening_unique (h : Paired source i j) (h' : Paired source i' j) : i = i' := by
  have hlevel := h.level
  have hlevel' := h'.level
  rcases Nat.lt_trichotomy i i' with hlt | heq | hlt
  · have habove := h.above i' (Nat.le_of_lt h'.lt) hlt
    omega
  · exact heq
  · have habove := h'.above i (Nat.le_of_lt h.lt) hlt
    omega

end Paired

end Bracket

end TapeLang
