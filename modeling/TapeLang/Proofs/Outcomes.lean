/-
  Outcomes — what work that may fail can come to.

  `Yields P Q` says of a piece of work that whatever it gives satisfies `Q` and that it fails only in ways
  that satisfy `P`.  It is closed under everything that work is put together with, so what a long piece
  of work can fail with is what its pieces can.  The same for jobs (`Job.Ends`), which do not look at the
  console.
-/
import TapeLang.Proofs.Jobs

namespace TapeLang

variable {ε ε' α β γ : Type}

/-! ## Work that may fail -/

/-- What the work gives satisfies `Q`, and it fails only with what satisfies `P`. -/
def Yields (P : ε → Prop) (Q : α → Prop) : Except ε α → Prop
  | .ok a => Q a
  | .error e => P e

namespace Yields

instance {P : ε → Prop} {Q : α → Prop} [DecidablePred P] [DecidablePred Q] :
    (x : Except ε α) → Decidable (Yields P Q x)
  | .ok a => inferInstanceAs (Decidable (Q a))
  | .error e => inferInstanceAs (Decidable (P e))

variable {P : ε → Prop} {Q : α → Prop} {R : β → Prop} {x : Except ε α}

theorem ok {a : α} (h : Q a) : Yields P Q (.ok a) := h

theorem error {e : ε} (h : P e) : Yields P Q (.error e) := h

/-- Work behind other work starts with what that gives. -/
theorem bind {f : α → Except ε β} (h : Yields P Q x) (h' : ∀ a, Q a → Yields P R (f a)) :
    Yields P R (x >>= f) := by
  cases x with
  | ok a => exact h' a h
  | error e => exact h

theorem map {f : α → β} (h : Yields P (fun a => R (f a)) x) : Yields P R (x.map f) := by
  cases x <;> exact h

theorem mapError {P' : ε' → Prop} {f : ε → ε'} (h : Yields (fun e => P' (f e)) Q x) :
    Yields P' Q (x.mapError f) := by
  cases x <;> exact h

theorem mono {P' : ε → Prop} {Q' : α → Prop} (h : Yields P Q x) (hP : ∀ e, P e → P' e)
    (hQ : ∀ a, Q a → Q' a) : Yields P' Q' x := by
  cases x with
  | ok a => exact hQ a h
  | error e => exact hP e h

theorem forM {xs : List γ} {f : γ → Except ε Unit} (h : ∀ x ∈ xs, Yields P (fun _ => True) (f x)) :
    Yields P (fun _ => True) (xs.forM f) := by
  induction xs with
  | nil => exact trivial
  | cons x xs ih =>
    obtain ⟨hx, hxs⟩ := List.forall_mem_cons.1 h
    exact hx.bind fun _ _ => ih hxs

end Yields

/-- A list of pieces of work fails with the failure of the first that fails. -/
theorem mapM_eq_error {xs : List γ} {f : γ → Except ε α} {e : ε} (h : xs.mapM f = .error e) :
    ∃ before bad after, xs = before ++ bad :: after ∧ (∀ x ∈ before, ∃ y, f x = .ok y) ∧
      f bad = .error e := by
  induction xs with
  | nil => cases h
  | cons x xs ih =>
    rw [List.mapM_cons] at h
    cases hx : f x with
    | error e' =>
      rw [hx] at h
      cases h
      exact ⟨[], x, xs, rfl, fun _ hnone => (List.not_mem_nil hnone).elim, hx⟩
    | ok y =>
      rw [hx, ok_bind] at h
      cases hxs : xs.mapM f with
      | ok ys =>
        rw [hxs] at h
        cases h
      | error e' =>
        rw [hxs] at h
        cases h
        obtain ⟨before, bad, after, rfl, hbefore, hbad⟩ := ih hxs
        exact ⟨x :: before, bad, after, rfl, List.forall_mem_cons.2 ⟨⟨y, hx⟩, hbefore⟩, hbad⟩

/-- The first that fails decides. -/
theorem mapM_of_error {before after : List γ} {bad : γ} {f : γ → Except ε α} {e : ε}
    (h : ∀ x ∈ before, ∃ y, f x = .ok y) (hbad : f bad = .error e) :
    (before ++ bad :: after).mapM f = .error e := by
  induction before with
  | nil =>
    rw [List.nil_append, List.mapM_cons, hbad]
    rfl
  | cons x xs ih =>
    obtain ⟨⟨y, hx⟩, hxs⟩ := List.forall_mem_cons.1 h
    rw [List.cons_append, List.mapM_cons, hx, ok_bind, ih hxs]
    rfl

/-! ## Work on the console -/

namespace Job

/-- Whatever is written already, the result of a job satisfies `Q`, and it fails only with what satisfies
    `P`. -/
def Ends {α : Type} (P : Failure → Prop) (Q : α → Prop) (job : Job α) : Prop :=
  ∀ c, Yields P Q (job.after c).1

namespace Ends

variable {α β γ : Type} {P : Failure → Prop} {Q : α → Prop} {R : β → Prop} {job : Job α}

theorem of_adds {out err : List UInt8} {r : Except Failure α} (h : job.Adds out err r)
    (hr : Yields P Q r) : job.Ends P Q := by
  intro c
  rwa [h c]

theorem pure {a : α} (h : Q a) : (pure a : Job α).Ends P Q := .of_adds (.pure a) (.ok h)

theorem lift {x : Except Failure α} (h : Yields P Q x) : (CommandLine.lift x).Ends P Q :=
  .of_adds (.lift x) h

theorem bind {next : α → Job β} (h : job.Ends P Q) (h' : ∀ a, Q a → (next a).Ends P R) :
    (job >>= next).Ends P R := by
  intro c
  have hjob := h c
  rw [after_bind]
  rcases hafter : job.after c with ⟨f | a, c'⟩ <;> rw [hafter] at hjob
  · exact hjob
  · exact h' a hjob c'

theorem mono {P' : Failure → Prop} (h : job.Ends P Q) (hP : ∀ f, P f → P' f) : job.Ends P' Q :=
  fun c => (h c).mono hP fun _ h => h

/-- A line that cannot be written is a misuse. -/
theorem print (hP : ∀ e, P (.encoding e)) (line : Text) : (Job.print line).Ends P fun _ => True := by
  unfold Job.print
  split
  · exact .of_adds (.write _) (.ok trivial)
  · exact .of_adds (.throw _) (.error (hP _))

theorem log (stamp : Text) (level : LogLevel) (lines : List LogLine) :
    (Job.log stamp level lines).Ends P fun _ => True := .of_adds (.log stamp level lines) (.ok trivial)

theorem forM {xs : List γ} {each : γ → Job Unit} (h : ∀ x ∈ xs, (each x).Ends P fun _ => True) :
    (xs.forM each).Ends P fun _ => True := by
  induction xs with
  | nil => exact pure trivial
  | cons x xs ih =>
    obtain ⟨hx, hxs⟩ := List.forall_mem_cons.1 h
    exact hx.bind fun _ _ => ih hxs

theorem mapM {xs : List γ} {each : γ → Job β} (h : ∀ x ∈ xs, (each x).Ends P fun _ => True) :
    (xs.mapM each).Ends P fun _ => True := by
  induction xs with
  | nil => exact pure trivial
  | cons x xs ih =>
    obtain ⟨hx, hxs⟩ := List.forall_mem_cons.1 h
    rw [List.mapM_cons]
    exact hx.bind fun _ _ => (ih hxs).bind fun _ _ => pure trivial

end Ends

/-- Telling makes a status of a failure that can be told, whatever is written already. -/
theorem result_told (job : Job CommandLine.ExitStatus) (c : Console) :
    ((CommandLine.told job).after c).1 = CommandLine.toldResult (job.after c).1 := by
  rw [CommandLine.told, after_tryCatch]
  rcases job.after c with ⟨f | status, c'⟩
  · cases hstatus : CommandLine.statusOf f with
    | none =>
      simp only [hstatus, CommandLine.toldResult_of_none hstatus]
      rw [Adds.throw f c']
    | some status =>
      simp only [hstatus, CommandLine.toldResult_of_status hstatus]
      rw [(Adds.report _).andReturn (fun _ => status) c']
      rfl
  · rfl

end Job

end TapeLang
