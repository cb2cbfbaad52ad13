/-
  Cases — what a case of a suite expects.

  A suite holds mappings, and a case is what is left of a mapping that was checked.  `CheckedCase.StatedBy`
  says what a mapping has told about a case that was made of it; the checks are gone through once, in
  `CheckedCase.statedBy_of_ofValue`, and all else is read off that.

  A case passes with an outcome or does not (`Case.PassesWith`), and which kinds of faults a kind covers is
  a matter of the family of faults: those that come under it (`FaultKind.Under`).

  The check asks for one of two keys, and a case has one of two expectations.  The two agree but for one
  mapping: a kind of fault that is named by the absent value is a key, and it is no expectation.  Such a
  case expects nothing, and no outcome passes it (`Suite.one_expectation_unless_null`).
-/
import Mathlib.Data.List.Forall2
import Mathlib.Logic.Relation
import TapeLang.Suite

namespace TapeLang

/-! ## The family of faults -/

namespace FaultKind

/-- A kind comes under another: it is that kind, or one of the kinds above it is. -/
def Under (j k : FaultKind) : Prop := Relation.ReflTransGen (fun i j => i.parent? = some j) j k

theorem mem_lineage_iff {j k : FaultKind} :
    k ∈ j.lineage ↔ k = j ∨ ∃ i, j.parent? = some i ∧ k ∈ i.lineage := by
  rw [lineage_eq j, List.mem_cons]
  cases j.parent? <;> simp

/-- A lineage is as long as there are kinds above. -/
theorem length_lineage {i j : FaultKind} (h : j.parent? = some i) :
    j.lineage.length = i.lineage.length + 1 := by
  rw [lineage_eq j, h]
  rfl

theorem under_of_mem_lineage {j k : FaultKind} (h : k ∈ j.lineage) : j.Under k := by
  -- the kind above has a shorter lineage
  generalize hn : j.lineage.length = n
  induction n generalizing j with
  | zero => exact absurd h (List.eq_nil_of_length_eq_zero hn ▸ List.not_mem_nil)
  | succ n ih =>
    rcases mem_lineage_iff.1 h with rfl | ⟨i, hi, hk⟩
    · exact .refl
    · have hlength := length_lineage hi
      exact .head hi (ih hk (by omega))

theorem mem_lineage_of_under {j k : FaultKind} (h : j.Under k) : k ∈ j.lineage := by
  induction h using Relation.ReflTransGen.head_induction_on with
  | refl => exact mem_lineage_iff.2 (.inl rfl)
  | head hi _ ih => exact mem_lineage_iff.2 (.inr ⟨_, hi, ih⟩)

/-- A kind covers the kinds that come under it. -/
theorem covers_iff {j k : FaultKind} : k.covers j ↔ j.Under k := by
  rw [covers, List.contains_iff_mem]
  exact ⟨under_of_mem_lineage, mem_lineage_of_under⟩

theorem named?_name (k : FaultKind) : named? k.name = some k := by cases k <;> rfl

theorem name_of_named? {t : Text} {k : FaultKind} (h : named? t = some k) : t = k.name := by
  have hname := List.find?_some h
  exact (beq_iff_eq.1 hname).symm

/-- There are faults of every kind. -/
theorem exists_fault (k : FaultKind) : ∃ f : Fault, f.kind = k := by
  cases k with
  | any => exact ⟨.general [], rfl⟩
  | brackets => exact ⟨.brackets .null .null, rfl⟩
  | strayClose => exact ⟨.strayClose .null, rfl⟩
  | openLoop => exact ⟨.openLoop .null, rfl⟩
  | execution => exact ⟨.execution [], rfl⟩
  | undefined => exact ⟨.undefined (.int 0) .null rfl rfl, rfl⟩
  | noInput => exact ⟨.noInput, rfl⟩
  | leftEdge => exact ⟨.leftEdge, rfl⟩

end FaultKind

/-! ## Outcomes that pass -/

/-- A case passes with an outcome of its program. -/
def Case.PassesWith (c : Case) : Except Fault (List UInt8) → Prop
  | .ok output => c.accepts output = true
  | .error f => c.expects f = .ok true

namespace CheckedCase

variable {c : CheckedCase}

/-- A case that expects no fault accepts the expected output and no other. -/
theorem accepts_iff {output : List UInt8} :
    c.toCase.accepts output = true ↔ c.fault = none ∧ c.expected = some output := by
  obtain ⟨name, program, input, expected, fault⟩ := c
  cases fault with
  | none => cases expected <;> simp [toCase, Case.accepts, Value.bytes?]
  | some k => simp [toCase, Case.accepts]

/-- A case expects the faults that come under its kind, if it has one. -/
theorem expects_eq (f : Fault) : c.toCase.expects f =
    .ok (match c.fault with
      | none => false
      | some k => k.covers f.kind) := by
  obtain ⟨name, program, input, expected, fault⟩ := c
  cases fault with
  | none => rfl
  | some k => simp [toCase, Case.expects, Value.changeable?, FaultKind.named?_name]

/-- **A case passes** with the output that it expects, or with a fault that comes under the kind that it
    expects. -/
theorem passesWith_iff {outcome : Except Fault (List UInt8)} : c.toCase.PassesWith outcome ↔
    (c.fault = none ∧ ∃ output, c.expected = some output ∧ outcome = .ok output) ∨
      ∃ k f, c.fault = some k ∧ outcome = .error f ∧ f.kind.Under k := by
  cases outcome with
  | ok output => simp [Case.PassesWith, accepts_iff]
  | error f =>
    cases hfault : c.fault with
    | none => simp [Case.PassesWith, expects_eq, hfault]
    | some k => simp [Case.PassesWith, expects_eq, hfault, FaultKind.covers_iff]

end CheckedCase

/-! ## What a mapping tells -/

/-- A list of results that are all there has them in order. -/
theorem forall₂_of_mapM {ε α β : Type} {f : α → Except ε β} {xs : List α} {ys : List β}
    (h : xs.mapM f = .ok ys) : List.Forall₂ (fun x y => f x = .ok y) xs ys := by
  induction xs generalizing ys with
  | nil =>
    cases h
    exact .nil
  | cons x xs ih =>
    rw [List.mapM_cons] at h
    obtain ⟨y, hy, h⟩ := bind_eq_ok h
    obtain ⟨rest, hrest, h⟩ := bind_eq_ok h
    cases h
    exact .cons hy (ih hrest)

theorem refuse_ne_ok [WritingRoom] {α : Type} (e : ShapeError) (shown : List Value) (a : α) :
    refuse e shown ≠ .ok a := by
  intro h
  obtain ⟨-, -, h⟩ := bind_eq_ok h
  cases h

/-- A field that names a kind of fault holds its name, and one that names none is absent. -/
theorem expectedFault_eq_ok [WritingRoom] {name v : Value} {k? : Option FaultKind}
    (h : expectedFault name v = .ok k?) :
    (v = .null ∧ k? = none) ∨ ∃ k, v = .text k.name ∧ k? = some k := by
  unfold expectedFault at h
  split at h
  · cases h
    exact .inl ⟨rfl, rfl⟩
  · split at h
    · cases h
    · split at h
      · split at h
        · rename_i hnamed
          cases h
          exact .inr ⟨_, by rw [FaultKind.name_of_named? hnamed], rfl⟩
        · exact absurd h (refuse_ne_ok _ _ _)
      · exact absurd h (refuse_ne_ok _ _ _)

namespace CheckedCase

/-- What a mapping tells about the case that is made of it. -/
structure StatedBy [Codecs] (encoding : Text) (fields : List (Value × Value)) (c : CheckedCase) : Prop where
  /-- There is a program. -/
  program : ∃ v, Value.entry? "program" fields = some v ∧ fieldBytes "program" encoding v = .ok c.program
  /-- There is an input, or it is empty. -/
  input : fieldBytes "input" encoding ((Value.entry? "input" fields).getD (.text [])) = .ok c.input
  /-- There is a key for one expectation. -/
  keys : (Value.entry? "expected" fields).isSome ≠ (Value.entry? "error" fields).isSome
  /-- An output is expected if there is a key for it. -/
  expected : (Value.entry? "expected" fields = none ∧ c.expected = none) ∨
    ∃ v output, Value.entry? "expected" fields = some v ∧
      fieldBytes "expected" encoding v = .ok output ∧ c.expected = some output
  /-- A fault is expected if a kind is named. -/
  fault : ((Value.entry? "error" fields).getD .null = .null ∧ c.fault = none) ∨
    ∃ k, Value.entry? "error" fields = some (.text k.name) ∧ c.fault = some k

variable {encoding : Text} {fields : List (Value × Value)} {c : CheckedCase}

/-- **The checks of a mapping**, from the first to the last. -/
theorem statedBy_of_ofValue [Codecs] [WritingRoom] (h : ofValue encoding (.dict fields) = .ok c) :
    c.StatedBy encoding fields := by
  simp only [ofValue] at h
  -- a mapping without a name, without a program or with the wrong keys is refused
  split at h
  · obtain ⟨_, hthrow, -⟩ := bind_eq_ok h
    cases hthrow
  split at h
  · exact absurd h (refuse_ne_ok _ _ _)
  rename_i program hprogram
  split at h
  · obtain ⟨_, hrefused, -⟩ := bind_eq_ok h
    exact absurd hrefused (refuse_ne_ok _ _ _)
  rename_i hkeys
  obtain ⟨fault, hfault, h⟩ := bind_eq_ok h
  obtain ⟨_, -, h⟩ := bind_eq_ok h
  obtain ⟨source, hsource, h⟩ := bind_eq_ok h
  obtain ⟨input, hinput, h⟩ := bind_eq_ok h
  -- what is said of the output that is expected is all that is left to be read
  have hexpected : ∃ name expected, c = ⟨name, source, input, expected, fault⟩ ∧
      ((Value.entry? "expected" fields = none ∧ expected = none) ∨
        ∃ v output, Value.entry? "expected" fields = some v ∧
          fieldBytes "expected" encoding v = .ok output ∧ expected = some output) := by
    split at h
    · rename_i v hv
      obtain ⟨expected, hsome, h⟩ := bind_eq_ok h
      cases hbytes : fieldBytes "expected" encoding v with
      | error f =>
        rw [hbytes] at hsome
        cases hsome
      | ok output =>
        rw [hbytes] at hsome
        cases hsome
        cases h
        exact ⟨_, _, rfl, .inr ⟨v, output, hv, hbytes, rfl⟩⟩
    · rename_i hv
      cases h
      exact ⟨_, _, rfl, .inl ⟨hv, rfl⟩⟩
  obtain ⟨name, expected, rfl, hexpected⟩ := hexpected
  refine ⟨⟨program, hprogram, hsource⟩, hinput, ?_, hexpected, ?_⟩
  · exact fun heq => hkeys (beq_iff_eq.2 heq)
  · rcases expectedFault_eq_ok hfault with habsent | ⟨k, hk, rfl⟩
    · exact .inl habsent
    · refine .inr ⟨k, ?_, rfl⟩
      cases hentry : Value.entry? "error" fields with
      | none =>
        rw [hentry] at hk
        cases hk
      | some v =>
        rw [hentry] at hk
        exact congrArg some hk

namespace StatedBy

/-- An output is expected exactly if there is a key for it. -/
theorem isSome_expected [Codecs] (h : c.StatedBy encoding fields) :
    c.expected.isSome = (Value.entry? "expected" fields).isSome := by
  rcases h.expected with ⟨hentry, hexpected⟩ | ⟨v, output, hentry, -, hexpected⟩
  · rw [hentry, hexpected]
    rfl
  · rw [hentry, hexpected]
    rfl

/-- A fault is expected exactly if there is a key for its kind that does not hold the absent value. -/
theorem isSome_fault_iff [Codecs] (h : c.StatedBy encoding fields) : c.fault.isSome ↔
    (Value.entry? "error" fields).isSome ∧ Value.entry? "error" fields ≠ some .null := by
  rcases h.fault with ⟨habsent, hfault⟩ | ⟨k, hentry, hfault⟩
  · rw [hfault]
    cases hentry : Value.entry? "error" fields with
    | none => simp
    | some v =>
      rw [hentry] at habsent
      obtain rfl : v = .null := habsent
      simp
  · rw [hfault, hentry]
    simp

/-- **A case has an expectation** exactly if the key for a kind of fault does not hold the absent value. -/
theorem some_iff [Codecs] (h : c.StatedBy encoding fields) :
    c.expected.isSome ∨ c.fault.isSome ↔ Value.entry? "error" fields ≠ some .null := by
  have hkeys := h.keys
  rw [h.isSome_expected, h.isSome_fault_iff]
  cases hother : Value.entry? "expected" fields <;> cases hentry : Value.entry? "error" fields <;>
    simp_all

/-- No case has two expectations. -/
theorem not_both [Codecs] (h : c.StatedBy encoding fields) : ¬ (c.expected.isSome ∧ c.fault.isSome) := by
  rintro ⟨hexpected, hfault⟩
  rw [h.isSome_expected] at hexpected
  exact h.keys (hexpected.trans (h.isSome_fault_iff.1 hfault).1.symm)

/-- A case has one expectation exactly if it has any. -/
theorem one_iff [Codecs] (h : c.StatedBy encoding fields) :
    c.expected.isSome ≠ c.fault.isSome ↔ c.expected.isSome ∨ c.fault.isSome := by
  have hboth := h.not_both
  cases hexpected : c.expected <;> cases hfault : c.fault <;> simp_all

end StatedBy

/-- **A case can pass** if it has an expectation. -/
theorem exists_passesWith_iff :
    (∃ outcome, c.toCase.PassesWith outcome) ↔ c.expected.isSome ∨ c.fault.isSome := by
  simp only [passesWith_iff]
  constructor
  · rintro ⟨_, ⟨-, output, hexpected, -⟩ | ⟨k, -, hfault, -⟩⟩
    · exact .inl (by rw [hexpected]; rfl)
    · exact .inr (by rw [hfault]; rfl)
  · intro h
    cases hfault : c.fault with
    | none =>
      cases hexpected : c.expected with
      | none => simp [hexpected, hfault] at h
      | some output => exact ⟨.ok output, .inl ⟨rfl, output, rfl, rfl⟩⟩
    | some k =>
      obtain ⟨f, rfl⟩ := FaultKind.exists_fault k
      exact ⟨.error f, .inr ⟨_, f, rfl, rfl, .refl⟩⟩

end CheckedCase

/-! ## The theorem -/

namespace Suite

/-- **Each case of a suite that is loaded has one expectation, unless the absent value is the name of its
    kind of fault.**  The cases are those of the items, in order, and each item is a mapping.  A case expects
    either an output or a fault, and not both, exactly if the key for a kind of fault does not hold the
    absent value; and exactly then there is an outcome that passes it.  The kind of a fault that is
    expected is one that has a name, the one in the mapping, and an output that is expected is bytes, those
    of the field in the mapping. -/
theorem one_expectation_unless_null [Codecs] [WritingRoom] {path encoding : Text} {d : Yaml.Document}
    {cases : List CheckedCase} (h : ofDocument path encoding d = .ok cases) :
    ∃ items, items? d = some items ∧ List.Forall₂ (fun item c => ∃ fields, item = .dict fields ∧
      (c.expected.isSome ≠ c.fault.isSome ↔ Value.entry? "error" fields ≠ some .null) ∧
      ((∃ outcome, c.toCase.PassesWith outcome) ↔ Value.entry? "error" fields ≠ some .null) ∧
      (∀ k, c.fault = some k →
        FaultKind.named? k.name = some k ∧ Value.entry? "error" fields = some (.text k.name)) ∧
      (∀ output, c.expected = some output → ∃ v, Value.entry? "expected" fields = some v ∧
        fieldBytes "expected" encoding v = .ok output)) items cases := by
  unfold ofDocument at h
  split at h
  · rename_i items hitems
    refine ⟨items, hitems, (forall₂_of_mapM h).imp fun item c hc => ?_⟩
    obtain ⟨fields, rfl⟩ : ∃ fields, item = .dict fields := by
      unfold CheckedCase.ofValue at hc
      split at hc
      · exact ⟨_, rfl⟩
      · cases hc
    have hstated := CheckedCase.statedBy_of_ofValue hc
    refine ⟨fields, rfl, ?_, ?_, ?_, ?_⟩
    · rw [hstated.one_iff, hstated.some_iff]
    · rw [CheckedCase.exists_passesWith_iff, hstated.some_iff]
    · intro k hk
      rcases hstated.fault with ⟨-, hnone⟩ | ⟨j, hentry, hj⟩
      · exact nomatch hk.symm.trans hnone
      · obtain rfl : k = j := Option.some.inj (hk.symm.trans hj)
        exact ⟨k.named?_name, hentry⟩
    · intro output houtput
      rcases hstated.expected with ⟨-, hnone⟩ | ⟨v, bytes, hentry, hbytes, hsome⟩
      · exact nomatch houtput.symm.trans hnone
      · obtain rfl : output = bytes := Option.some.inj (houtput.symm.trans hsome)
        exact ⟨v, hentry, hbytes⟩
  · cases h

/-- A suite of one case, with one key for what is expected. -/
def ofOne (key : Text) (expectation : Value) : Yaml.Document where
  objects := #[.list [1], .mapping [⟨.text "name", some 2, 3⟩, ⟨.text "program", some 4, 5⟩, ⟨.text key, some 6, 7⟩],
    .value (.text "name"), .value (.text "x"), .value (.text "program"), .value (.text "+"),
    .value (.text key), .value expectation]
  root := 0

/-- A case that is to fail at the left edge passes with some outcome. -/
theorem one_expectation_unless_null_at_edge :
    ofDocument "suite.yaml" "utf-8" (ofOne "error" (.text "BackwardBoundaryUnderflow")) =
      .ok [⟨"x", [43], [], none, some .leftEdge⟩] ∧
    ∃ outcome, (CheckedCase.toCase ⟨"x", [43], [], none, some .leftEdge⟩).PassesWith outcome := by
  have hload : ofDocument "suite.yaml" "utf-8" (ofOne "error" (.text "BackwardBoundaryUnderflow")) =
      .ok [⟨"x", [43], [], none, some .leftEdge⟩] := rfl
  refine ⟨hload, ?_⟩
  obtain ⟨items, hitems, hall⟩ := one_expectation_unless_null hload
  cases hall with
  | cons hcase _ =>
    obtain ⟨fields, -, -, hpasses, hfault, -⟩ := hcase
    refine hpasses.2 fun hnull => ?_
    rw [(hfault .leftEdge rfl).2] at hnull
    cases hnull

/-- **A case that expects nothing.**  The absent value is taken for the name of a kind of fault, and no
    outcome passes the case. -/
theorem expectation_missing : ∃ c : CheckedCase,
    ofDocument "suite.yaml" "utf-8" (ofOne "error" .null) = .ok [c] ∧ c.expected = none ∧ c.fault = none ∧
      ∀ outcome, ¬ c.toCase.PassesWith outcome := by
  refine ⟨⟨"x", [43], [], none, none⟩, rfl, rfl, rfl, fun outcome hpasses => ?_⟩
  have hsome := CheckedCase.exists_passesWith_iff.1 ⟨outcome, hpasses⟩
  simp at hsome

end Suite

end TapeLang
