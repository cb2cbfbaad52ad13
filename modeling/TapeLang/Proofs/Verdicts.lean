/-
  Verdicts — a verdict says what evaluating the program gives.

  A program in a suite becomes bytes when its case is loaded, and an evaluated one when it is evaluated.
  The bytes are the same (`Settings.bytesOf_of_fieldBytes`), so both run the same program on the same input
  and have one outcome, `Program.outcome`.  It is an output, a fault, or nothing at all, if the run did not
  end.  A program of bytes fails in one other way only, and that takes more bytes than there can be: the
  offset of a command has to have too many digits to be told (`Program.outcome_cases`).

  `CheckedCase.Judged` says what becomes of a case by that outcome, and all else is read off the two.
-/
import TapeLang.Proofs.Account
import TapeLang.Proofs.Cases

namespace TapeLang

/-! ## The same bytes -/

theorem Settings.bytesOfList_of_fieldElements {field : Text} {items : List Value} {bytes : List UInt8}
    (h : fieldElements field items = .ok bytes) : bytesOfList items = .ok bytes := by
  induction items generalizing bytes with
  | nil => exact h
  | cons v rest ih =>
    unfold fieldElements at h
    unfold bytesOfList
    split at h
    · rename_i n hn
      split at h
      · rename_i hrange
        cases hrest : fieldElements field rest with
        | error f =>
          rw [hrest] at h
          cases h
        | ok more =>
          rw [hrest] at h
          rw [hn]
          dsimp only
          rw [if_pos (by omega), ih hrest]
          exact h
      · cases h
    · cases h

/-- **A value that a field of a suite may hold** is made the same bytes as a program or an input is. -/
theorem Settings.bytesOf_of_fieldBytes [Codecs] {s : Settings} {field : Text} {v : Value} {bytes : List UInt8}
    (h : fieldBytes field s.encoding v = .ok bytes) : s.bytesOf v = .ok bytes := by
  unfold fieldBytes at h
  split at h
  · exact h
  · exact bytesOfList_of_fieldElements h
  · exact bytesOfList_of_fieldElements h
  · cases h

/-! ## The outcome of a program -/

/-- The output of a program of bytes on some input, or the failure. -/
def Program.outcome (budget : Nat) (chunk : Chunk) (source input : List UInt8) :
    Except Failure (List UInt8) := do
  let p ← (Program.ofBytes source).mapError Failure.fault
  (p.run budget chunk input).result

/-- A program of bytes is evaluated to its outcome. -/
theorem evaluate_eq_outcome [Codecs] {s : Settings} {program input : Value} {source bytes : List UInt8}
    (hprogram : s.bytesOf program = .ok source) (hinput : s.bytesOf input = .ok bytes) (n : Nat) :
    evaluate n s program input = Program.outcome n s.chunk source bytes := by
  rw [evaluate, hprogram, hinput]
  rfl

namespace Program

/-- A program that was read from bytes has bytes as its commands. -/
theorem isByte_of_ofBytes {source : List UInt8} {p : Program} (h : Program.ofBytes source = .ok p) :
    ∀ c ∈ commands p, c.IsByte :=
  source_ok_iff.1 ⟨source, source_eq_ok_iff.2 (spells_of_read (Spells.bytes source) h)⟩

/-- The positions in a program that was read from bytes can be written, if there are not too many bytes. -/
theorem writable_of_ofBytes {source : List UInt8} {p : Program} (h : Program.ofBytes source = .ok p)
    (hlength : source.length ≤ Value.tooLong) : Writable p := by
  intro x hx
  obtain ⟨i, hi, rfl⟩ := (stands_of_read h).offset hx
  rw [List.length_map] at hi
  exact Value.isWritable_int_iff.2 (Nat.lt_of_lt_of_le hi hlength)

/-- **A run of a program of bytes** has an output, ends with a fault, or does not end, unless some position in
    the program is too long to be told. -/
theorem result_cases {p : Program} (hp : ∀ c ∈ commands p, c.IsByte) (n : Nat) (chunk : Chunk)
    (input : List UInt8) :
    (∃ outcome : Except Fault (List UInt8),
      (p.run n chunk input).result = outcome.mapError Failure.fault) ∨
    (p.run n chunk input).result = .error .unfinished ∨
    (p.run n chunk input).result = .error .tooManyDigits ∧ ¬ Writable p := by
  cases hend : p.run n chunk input with
  | finished s => exact .inl ⟨.ok s.output.toList, rfl⟩
  | unfinished m => exact .inr (.inl rfl)
  | failed f s =>
    by_cases hplaces : Writable p
    · obtain ⟨g, rfl, -⟩ := Machine.fault_of_run (Machine.ToCome.start ⟨hp, hplaces⟩ _) hend
      exact .inl ⟨.error g, rfl⟩
    · -- the command at which the run fails is a byte, wherever it stands
      obtain ⟨k, m, -, hm, hlast⟩ := Machine.exists_last_move hend
      obtain ⟨code, position, hnode, -, hrefused⟩ := Machine.move_eq_failed_iff.1 hlast
      have hcome : m.ToCome fun p => ∀ c ∈ commands p, c.IsByte :=
        (Machine.ToCome.start hp (State.initial chunk input)).run (hereditary_commands _) hm
      obtain ⟨rest, hrest⟩ := hcome.node hnode
      have hcode : code.integer?.isSome := by
        obtain ⟨b, hb, -⟩ := hrest code List.mem_cons_self
        rw [hb]
        rfl
      rcases hrefused.fault_or_tooManyDigits hcode with ⟨g, rfl⟩ | rfl
      · exact .inl ⟨.error g, rfl⟩
      · exact .inr (.inr ⟨rfl, hplaces⟩)

/-- **The outcome of a program of bytes** is an output or a fault, or there is none, unless the program has more
    bytes than can be counted in as many digits as a message may show. -/
theorem outcome_cases (n : Nat) (chunk : Chunk) (source input : List UInt8) :
    (∃ outcome : Except Fault (List UInt8),
      Program.outcome n chunk source input = outcome.mapError Failure.fault) ∨
    Program.outcome n chunk source input = .error .unfinished ∨
    Program.outcome n chunk source input = .error .tooManyDigits ∧ Value.tooLong < source.length := by
  rw [Program.outcome]
  cases hread : Program.ofBytes source with
  | error f => exact .inl ⟨.error f, rfl⟩
  | ok p =>
    refine (result_cases (isByte_of_ofBytes hread) n chunk input).imp_right (.imp_right ?_)
    rintro ⟨hresult, hplaces⟩
    refine ⟨hresult, Nat.lt_of_not_le fun hlength => hplaces (writable_of_ofBytes hread hlength)⟩

end Program

/-! ## Judging -/

theorem mapError_eq_ok_iff {ε ε' α : Type} {x : Except ε α} {f : ε → ε'} {a : α} :
    x.mapError f = .ok a ↔ x = .ok a := by
  cases x <;> simp [Except.mapError]

/-- An outcome is a fault exactly if the failure is that fault. -/
theorem mapError_eq_fault_iff {α : Type} {x : Except Fault α} {f : Fault} :
    x.mapError Failure.fault = .error (.fault f) ↔ x = .error f := by
  cases x <;> simp [Except.mapError]

namespace CheckedCase

/-- What becomes of a case, by the outcome of its program. -/
inductive Judged (c : CheckedCase) : Except Failure (List UInt8) → Except Failure Verdict → Prop where
  /-- The program has an outcome, and the verdict says which, and whether the case passes with it. -/
  | ended {v : Verdict} (hpassed : v.passed = true ↔ c.toCase.PassesWith v.outcome) :
    Judged c (v.outcome.mapError Failure.fault) (.ok v)
  /-- The run did not end, and there is no verdict. -/
  | unfinished : Judged c (.error .unfinished) (.error .unfinished)
  /-- There are too many bytes in the program for what came of it to be told, and there is no verdict. -/
  | untold (hlength : Value.tooLong < c.program.length) :
    Judged c (.error .tooManyDigits) (.error .tooManyDigits)

/-- Whether a case passes with a fault is known. -/
theorem exists_expects (c : CheckedCase) (f : Fault) :
    ∃ passed, c.toCase.expects f = .ok passed ∧ (passed = true ↔ c.toCase.PassesWith (.error f)) := by
  refine ⟨_, expects_eq f, ?_⟩
  rw [Case.PassesWith, expects_eq, Except.ok.injEq]

/-- **A case is judged** by the outcome of its program. -/
theorem judged [Codecs] (c : CheckedCase) (n : Nat) (s : Settings) :
    c.Judged (Program.outcome n s.chunk c.program c.input) (c.toCase.judge n s) := by
  have hsource : Program.ofValue "utf-8" c.toCase.program =
      (Program.ofBytes c.program).mapError Failure.fault := rfl
  have hinput : s.bytesOf c.toCase.input = .ok c.input := rfl
  have hcases := Program.outcome_cases n s.chunk c.program c.input
  rw [Program.outcome] at hcases
  rw [Case.judge, hsource, Program.outcome]
  cases hread : Program.ofBytes c.program with
  | error f =>
    obtain ⟨passed, hexpects, hpassed⟩ := c.exists_expects f
    simp only [Except.mapError, hexpects, ok_bind]
    exact .ended (v := { case := c.toCase, passed, outcome := .error f }) hpassed
  | ok p =>
    simp only [hread, Except.mapError, ok_bind] at hcases
    simp only [Except.mapError, hinput, ok_bind]
    rcases hcases with ⟨f | output, hresult⟩ | hresult | ⟨hresult, hlength⟩
    · obtain ⟨passed, hexpects, hpassed⟩ := c.exists_expects f
      simp only [hresult, hexpects, ok_bind]
      exact .ended (v := { case := c.toCase, passed, outcome := .error f, log := _ }) hpassed
    · simp only [hresult]
      exact .ended (v := { case := c.toCase, passed := _, outcome := .ok output, log := _ }) Iff.rfl
    · simp only [hresult]
      exact .unfinished
    · simp only [hresult]
      exact .untold hlength

/-- A case whose program ends with a fault has a verdict. -/
theorem Judged.of_fault {c : CheckedCase} {f : Fault} {r : Except Failure Verdict}
    (h : c.Judged (.error (.fault f)) r) :
    ∃ v, r = .ok v ∧ (v.passed = true ↔ c.toCase.PassesWith (.error f)) := by
  generalize houtcome : Except.error (Failure.fault f) = outcome at h
  cases h with
  | @ended v hpassed =>
    have hfault : v.outcome = .error f := mapError_eq_fault_iff.1 houtcome.symm
    exact ⟨v, rfl, by rw [hpassed, hfault]⟩
  | unfinished => cases houtcome
  | untold => cases houtcome

/-- A case that is made of the same program and input has the same outcome. -/
theorem StatedBy.same [Codecs] {encoding : Text} {fields fields' : List (Value × Value)} {c c' : CheckedCase}
    (h : c.StatedBy encoding fields) (h' : c'.StatedBy encoding fields')
    (hprogram : Value.entry? "program" fields' = Value.entry? "program" fields)
    (hinput : Value.entry? "input" fields' = Value.entry? "input" fields) :
    c'.program = c.program ∧ c'.input = c.input := by
  constructor
  · obtain ⟨v, hentry, hbytes⟩ := h.program
    obtain ⟨v', hentry', hbytes'⟩ := h'.program
    obtain rfl : v' = v := Option.some.inj (by rw [← hentry, ← hentry', hprogram])
    exact Except.ok.inj (hbytes'.symm.trans hbytes)
  · have hbytes' := h'.input
    rw [hinput] at hbytes'
    exact Except.ok.inj (hbytes'.symm.trans h.input)

/-! ## The theorem -/

/-- **A verdict says what evaluating the program gives.**  Let a mapping be accepted as a case, with texts in
    the encoding of the settings, whichever that is.  If evaluating the program in it on the input in it, or
    on none, comes to an end, then the case is judged; of a program with more bytes than can be counted in
    the digits that a message may show, it may be that neither can tell where it fails.  The verdict has an
    output exactly if that is the output, and a fault exactly if that is the fault; and the case has passed
    exactly if it expects no fault and the output is the expected one, or it expects faults of a kind and
    the fault is of that kind or one under it.  So if a case passes, it passes with any kind of fault above
    the one that it expects. -/
theorem judge_says_evaluate [Codecs] [WritingRoom] {s : Settings} {fields : List (Value × Value)}
    {c : CheckedCase} (h : ofValue s.encoding (.dict fields) = .ok c) {program input : Value}
    (hprogram : Value.entry? "program" fields = some program)
    (hinput : (Value.entry? "input" fields).getD (.text []) = input) (n : Nat) :
    (evaluate n s program input = .error .unfinished ∨ (∃ v, c.toCase.judge n s = .ok v) ∨
      Value.tooLong < c.program.length ∧ evaluate n s program input = .error .tooManyDigits) ∧
    ∀ v, c.toCase.judge n s = .ok v →
      evaluate n s program input ≠ .error .unfinished ∧
      (∀ output, evaluate n s program input = .ok output ↔ v.outcome = .ok output) ∧
      (∀ f, evaluate n s program input = .error (.fault f) ↔ v.outcome = .error f) ∧
      (v.passed = true ↔
        (c.fault = none ∧ ∃ output, c.expected = some output ∧
          evaluate n s program input = .ok output) ∨
        ∃ k f, c.fault = some k ∧ evaluate n s program input = .error (.fault f) ∧ f.kind.Under k) ∧
      (∀ fields' c' k k', ofValue s.encoding (.dict fields') = .ok c' →
        Value.entry? "program" fields' = Value.entry? "program" fields →
        Value.entry? "input" fields' = Value.entry? "input" fields →
        c.fault = some k → c'.fault = some k' → k.Under k' → v.passed = true →
        ∃ v', c'.toCase.judge n s = .ok v' ∧ v'.passed = true) := by
  have hstated := statedBy_of_ofValue h
  have hevaluate : evaluate n s program input = Program.outcome n s.chunk c.program c.input := by
    obtain ⟨v, hentry, hbytes⟩ := hstated.program
    obtain rfl : program = v := Option.some.inj (hprogram.symm.trans hentry)
    subst hinput
    exact evaluate_eq_outcome (Settings.bytesOf_of_fieldBytes hbytes)
      (Settings.bytesOf_of_fieldBytes hstated.input) n
  have hjudged := c.judged n s
  -- any other case of the same program and input is judged by the same outcome
  have hother : ∀ fields' c', ofValue s.encoding (.dict fields') = .ok c' →
      Value.entry? "program" fields' = Value.entry? "program" fields →
      Value.entry? "input" fields' = Value.entry? "input" fields →
      c'.Judged (Program.outcome n s.chunk c.program c.input) (c'.toCase.judge n s) := by
    intro fields' c' hc' hprogram' hinput'
    obtain ⟨hp, hi⟩ := hstated.same (statedBy_of_ofValue hc') hprogram' hinput'
    rw [← hp, ← hi]
    exact c'.judged n s
  rw [hevaluate]
  -- from here on it does not matter where the outcome came from
  generalize Program.outcome n s.chunk c.program c.input = outcome at hjudged hother ⊢
  generalize c.toCase.judge n s = r at hjudged ⊢
  cases hjudged with
  | unfinished => exact ⟨.inl rfl, fun v hv => nomatch hv⟩
  | untold hlength => exact ⟨.inr (.inr ⟨hlength, rfl⟩), fun v hv => nomatch hv⟩
  | @ended v hpassed =>
    have hended : v.outcome.mapError Failure.fault ≠ .error .unfinished := by
      cases v.outcome <;> simp [Except.mapError]
    refine ⟨.inr (.inl ⟨v, rfl⟩), fun v' hv => ?_⟩
    obtain rfl : v = v' := Except.ok.inj hv
    refine ⟨hended, fun output => mapError_eq_ok_iff, fun f => mapError_eq_fault_iff, ?_, ?_⟩
    · simp only [hpassed, passesWith_iff, mapError_eq_ok_iff, mapError_eq_fault_iff]
    · intro fields' c' k k' hc' hprogram' hinput' hk hk' hunder hpasses
      rcases passesWith_iff.1 (hpassed.1 hpasses) with ⟨hnone, -⟩ | ⟨j, f, hj, houtcome, hf⟩
      · exact nomatch hk.symm.trans hnone
      · obtain rfl : k = j := Option.some.inj (hk.symm.trans hj)
        have hjudged' := hother fields' c' hc' hprogram' hinput'
        rw [houtcome] at hjudged'
        obtain ⟨v', hv', hpassed'⟩ := Judged.of_fault hjudged'
        exact ⟨v', hv', hpassed'.2 (passesWith_iff.2 (.inr ⟨k', f, hk', rfl, hf.trans hunder⟩))⟩

/-- `<` fails at the left edge, which passes for a fault of the machine, and so for any fault. -/
theorem judge_says_evaluate_at_edge :
    ofValue "utf-8" (.dict [(.text "name", .text "x"), (.text "program", .text "<"),
      (.text "error", .text "ExecutionError")]) = .ok ⟨"x", [60], [], none, some .execution⟩ ∧
    (∃ v, (toCase ⟨"x", [60], [], none, some .execution⟩).judge 1 {} = .ok v ∧ v.passed = true ∧
      evaluate 1 {} (.text "<") (.text []) = .error (.fault .leftEdge)) ∧
    ∃ v, (toCase ⟨"x", [60], [], none, some .any⟩).judge 1 {} = .ok v ∧ v.passed = true := by
  have hcase : ofValue "utf-8" (.dict [(.text "name", .text "x"), (.text "program", .text "<"),
      (.text "error", .text "ExecutionError")]) = .ok ⟨"x", [60], [], none, some .execution⟩ := rfl
  have hother : ofValue "utf-8" (.dict [(.text "name", .text "x"), (.text "program", .text "<"),
      (.text "error", .text "BrainfError")]) = .ok ⟨"x", [60], [], none, some .any⟩ := rfl
  have hfault : evaluate 1 {} (.text "<") (.text []) = .error (.fault .leftEdge) := rfl
  obtain ⟨hjudged, hverdict⟩ :=
    @judge_says_evaluate _ _ {} _ _ hcase (.text "<") (.text []) rfl rfl 1
  obtain ⟨v, hv⟩ : ∃ v, (toCase ⟨"x", [60], [], none, some .execution⟩).judge 1 {} = .ok v := by
    rcases hjudged with hunfinished | hv | ⟨-, huntold⟩
    · exact nomatch hfault.symm.trans hunfinished
    · exact hv
    · exact nomatch hfault.symm.trans huntold
  obtain ⟨-, -, -, hpassed, habove⟩ := hverdict v hv
  have hpasses : v.passed = true :=
    hpassed.2 (.inr ⟨.execution, .leftEdge, rfl, hfault, .single rfl⟩)
  exact ⟨hcase, ⟨v, hv, hpasses, hfault⟩,
    habove _ _ .execution .any hother rfl rfl rfl rfl (.single rfl) hpasses⟩

end CheckedCase

end TapeLang
