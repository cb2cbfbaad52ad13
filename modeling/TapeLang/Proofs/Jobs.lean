/-
  Jobs — what a job adds to the console.

  A job never takes anything back, and what it adds does not depend on what is written already.

  1. **What is added (`Job.Adds`)** — the bytes that a job adds to either stream, and its result, the same
     on every console.  Each operation of a job adds something known, and a job after another adds behind
     it: so what a command writes is read off the command, piece by piece.

  2. **What UTF-8 can write** — a text without lone surrogates (`Text.Writable`) is printed as it stands.
     Lone surrogates are not printable, so a printable text is one of these.

  3. **Jobs in a row** — a list of jobs adds what its members add, in order, up to the first that fails.

  4. **What is told (`Job.Adds.told`)** — a failure becomes a line and a status, or stays what it is.
-/
import TapeLang.CommandLine
import TapeLang.Proofs.Cases
import TapeLang.Proofs.Lines

namespace TapeLang

/-! ## Texts that UTF-8 can write -/

namespace Text

/-- A text has no lone surrogates. -/
def Writable (t : Text) : Prop := ∀ c ∈ t, c.isSurrogate = false

instance (t : Text) : Decidable t.Writable :=
  inferInstanceAs (Decidable (∀ c ∈ t, c.isSurrogate = false))

theorem legibleBytes_append (t u : Text) :
    legibleBytes (t ++ u) = legibleBytes t ++ legibleBytes u := List.flatMap_append

theorem legibleBytes_ofLines (ls : List Text) :
    legibleBytes (ofLines ls) = ls.flatMap fun l => legibleBytes (l ++ "\n") := List.flatMap_assoc

theorem legibleBytes_flatMap_ofLines {α : Type} (f : α → List Text) (xs : List α) :
    legibleBytes (ofLines (xs.flatMap f)) = xs.flatMap fun x => legibleBytes (ofLines (f x)) := by
  rw [legibleBytes_ofLines, List.flatMap_assoc]
  simp only [legibleBytes_ofLines]

theorem Writable.append {t u : Text} (ht : t.Writable) (hu : u.Writable) : (t ++ u).Writable := by
  intro c hc
  rcases List.mem_append.1 hc with hc | hc
  · exact ht c hc
  · exact hu c hc

theorem Writable.ofLines {ls : List Text} (h : ∀ l ∈ ls, l.Writable) : (Text.ofLines ls).Writable := by
  intro c hc
  obtain ⟨l, hl, hc⟩ := List.mem_flatMap.1 hc
  exact (h l hl).append (u := "\n") (by decide) c hc

/-- The part of a text that starts at a position is written code point by code point. -/
theorem encodeFrom_of_writable {t : Text} (h : t.Writable) (position : Nat) :
    Encoding.utf8.encodeFrom position t = .ok t.legibleBytes := by
  induction t generalizing position with
  | nil => rfl
  | cons c t ih =>
    obtain ⟨hc, ht⟩ := List.forall_mem_cons.1 h
    have hunit : Encoding.utf8.unit? c = some (utf8Bytes c.val) := by
      rw [Encoding.unit?, hc]
      rfl
    rw [Encoding.encodeFrom, legibleBytes, List.flatMap_cons, hunit, ih ht]
    rfl

/-- A text without lone surrogates has its bytes in UTF-8. -/
theorem encode_of_writable {t : Text} (h : t.Writable) :
    Encoding.utf8.encode t = .ok t.legibleBytes := by
  rw [Encoding.encode, encodeFrom_of_writable h]
  rfl

end Text

/-- Lone surrogates are not printable. -/
theorem CodePoint.isSurrogate_of_isPrintable {c : CodePoint} (h : c.isPrintable = true) :
    c.isSurrogate = false := by
  -- they lie in a range that the table hides
  have hrange : ((0xD7FC, 0xF8FF) : Nat × Nat) ∈ hiddenRanges := by decide +kernel
  cases hsurrogate : c.isSurrogate with
  | false => rfl
  | true =>
    simp only [isSurrogate, Bool.and_eq_true, decide_eq_true_eq] at hsurrogate
    obtain ⟨hlow, hhigh⟩ := hsurrogate
    have hhidden : (hiddenRanges.any fun r => r.1 ≤ c.val && c.val ≤ r.2) = true := by
      refine List.any_eq_true.2 ⟨_, hrange, ?_⟩
      simp only [Bool.and_eq_true, decide_eq_true_eq]
      omega
    rw [isPrintable, if_neg (by omega), hhidden] at h
    cases h

theorem Text.Printable.writable {t : Text} (h : t.Printable) : t.Writable :=
  fun c hc => c.isSurrogate_of_isPrintable (h c hc)

/-! ## What is added -/

namespace Job

/-- A job adds these bytes to the output and to the side stream, and has this result, whatever is
    written already. -/
def Adds {α : Type} (job : Job α) (out err : List UInt8) (r : Except Failure α) : Prop :=
  ∀ c : Console, job.after c = (r, ⟨c.out ++ out, c.err ++ err⟩)

/-- The bytes of the log on the side stream. -/
def logBytes (stamp : Text) (level : LogLevel) (lines : List LogLine) : List UInt8 :=
  (lines.filter fun l => level.rank ≤ l.level.rank).flatMap fun l =>
    Text.legibleBytes (stamp ++ " - " ++ l.text ++ "\n")

/-- Bytes that are added in two goes are added in order. -/
theorem append_append (bytes : Array UInt8) (more rest : List UInt8) :
    bytes ++ more ++ rest = bytes ++ (more ++ rest) := by
  apply Array.ext'
  simp only [Array.toList_appendList, List.append_assoc]

/-- Behind work that succeeds a job goes on as it is. -/
theorem lift_ok_bind {α β : Type} (a : α) (next : α → Job β) :
    CommandLine.lift (.ok a) >>= next = next a := rfl

namespace Adds

variable {α β : Type} {job : Job α} {next : α → Job β} {out out' err err' : List UInt8} {a : α}
  {r : Except Failure β} {f : Failure}

theorem pure (a : α) : (pure a : Job α).Adds [] [] (.ok a) := by
  intro c
  simp

theorem throw (f : Failure) : (throw f : Job α).Adds [] [] (.error f) := by
  intro c
  simp

theorem lift (x : Except Failure α) : (CommandLine.lift x).Adds [] [] x := by
  intro c
  show (x, c) = _
  simp

/-- A job behind another adds behind it. -/
theorem bind (h : job.Adds out err (.ok a)) (h' : (next a).Adds out' err' r) :
    (job >>= next).Adds (out ++ out') (err ++ err') r := by
  intro c
  rw [after_bind, h c]
  show (next a).after _ = _
  rw [h', append_append, append_append]

/-- A job behind another that makes no use of its result. -/
theorem andThen {job' : Job β} (h : job.Adds out err (.ok a)) (h' : job'.Adds out' err' r) :
    (job >>= fun _ => job').Adds (out ++ out') (err ++ err') r := h.bind h'

/-- Behind a failure nothing is added. -/
theorem bind_error (h : job.Adds out err (.error f)) : (job >>= next).Adds out err (.error f) := by
  intro c
  rw [after_bind, h c]

/-- Nothing is added by what is made of a result. -/
theorem andReturn {x : Except Failure α} (h : job.Adds out err x) (g : α → β) :
    (job >>= fun a => Pure.pure (g a)).Adds out err (x.map g) := by
  cases x with
  | error f => exact h.bind_error
  | ok a =>
    have hbind : (job >>= fun a => Pure.pure (g a)).Adds (out ++ []) (err ++ []) (.ok (g a)) :=
      h.bind (pure (g a))
    rwa [List.append_nil, List.append_nil] at hbind

theorem write (bytes : List UInt8) : (Job.write bytes).Adds bytes [] (.ok ()) := by
  intro c
  simp

theorem report (line : Text) : (Job.report line).Adds [] (Text.legibleBytes (line ++ "\n")) (.ok ()) := by
  intro c
  simp

theorem print {line : Text} (h : line.Writable) :
    (Job.print line).Adds (Text.legibleBytes (line ++ "\n")) [] (.ok ()) := by
  intro c
  rw [after_print (Text.encode_of_writable h), Text.legibleBytes_append]
  have hfeed : Text.legibleBytes "\n" = [10] := rfl
  rw [hfeed]
  simp

/-! ## Jobs in a row -/

section Row

variable {γ : Type} {xs : List γ} {outs errs : γ → List UInt8}

/-- A list of jobs adds what each of them adds, in order. -/
theorem forM {each : γ → Job Unit} (h : ∀ x ∈ xs, (each x).Adds (outs x) (errs x) (.ok ())) :
    (xs.forM each).Adds (xs.flatMap outs) (xs.flatMap errs) (.ok ()) := by
  induction xs with
  | nil => exact pure ()
  | cons x xs ih =>
    obtain ⟨hx, hxs⟩ := List.forall_mem_cons.1 h
    exact hx.bind (ih hxs)

/-- A list of jobs with results has all of them if each has one. -/
theorem mapM {each : γ → Job β} {results : γ → β}
    (h : ∀ x ∈ xs, (each x).Adds (outs x) (errs x) (.ok (results x))) :
    (xs.mapM each).Adds (xs.flatMap outs) (xs.flatMap errs) (.ok (xs.map results)) := by
  induction xs with
  | nil => exact pure []
  | cons x xs ih =>
    obtain ⟨hx, hxs⟩ := List.forall_mem_cons.1 h
    rw [List.mapM_cons]
    exact hx.bind ((ih hxs).andReturn (results x :: ·))

/-- The first of a list of jobs that fails ends it; what was added before stays. -/
theorem mapM_error {each : γ → Job β} {results : γ → β} {bad : γ}
    (h : ∀ x ∈ xs, (each x).Adds (outs x) (errs x) (.ok (results x)))
    (hbad : (each bad).Adds out err (.error f)) (after : List γ) :
    ((xs ++ bad :: after).mapM each).Adds (xs.flatMap outs ++ out) (xs.flatMap errs ++ err)
      (.error f) := by
  induction xs with
  | nil =>
    rw [List.nil_append, List.mapM_cons]
    exact hbad.bind_error
  | cons x xs ih =>
    obtain ⟨hx, hxs⟩ := List.forall_mem_cons.1 h
    rw [List.cons_append, List.mapM_cons, List.flatMap_cons, List.flatMap_cons, List.append_assoc,
      List.append_assoc]
    exact hx.bind (ih hxs).bind_error

end Row

/-- Lines that can be written are printed one after the other. -/
theorem printEach {γ : Type} {xs : List γ} {line : γ → Text} (h : ∀ x ∈ xs, (line x).Writable) :
    (xs.forM fun x => Job.print (line x)).Adds (Text.legibleBytes (Text.ofLines (xs.map line))) []
      (.ok ()) := by
  have hall : (xs.forM fun x => Job.print (line x)).Adds
      (xs.flatMap fun x => Text.legibleBytes (line x ++ "\n")) (xs.flatMap fun _ => []) (.ok ()) :=
    forM fun x hx => print (h x hx)
  have hnone : xs.flatMap (fun _ => ([] : List UInt8)) = [] := List.flatMap_eq_nil_iff.2 fun _ _ => rfl
  rw [Text.legibleBytes_ofLines, List.flatMap_map]
  rwa [hnone] at hall

/-- The log goes to the side stream. -/
theorem log (stamp : Text) (level : LogLevel) (lines : List LogLine) :
    (Job.log stamp level lines).Adds [] (logBytes stamp level lines) (.ok ()) := by
  have hall := forM fun (l : LogLine) (_ : l ∈ lines.filter fun l => level.rank ≤ l.level.rank) =>
    report (stamp ++ " - " ++ l.text)
  have hnone : (lines.filter fun l => level.rank ≤ l.level.rank).flatMap
      (fun _ => ([] : List UInt8)) = [] := List.flatMap_eq_nil_iff.2 fun _ _ => rfl
  rwa [hnone] at hall

end Adds

/-- A failure is handled on the console that is left behind. -/
theorem after_tryCatch {α : Type} (job : Job α) (handle : Failure → Job α) (c : Console) :
    (tryCatch job handle).after c =
      match job.after c with
      | (.ok a, c) => (.ok a, c)
      | (.error f, c) => (handle f).after c := by
  show (ExceptT.run (tryCatch job handle)).run c = _
  rw [ExceptT.run_tryCatch, StateT.run_bind]
  unfold after
  rcases (ExceptT.run job).run c with ⟨_ | _, _⟩ <;> rfl

end Job

/-! ## What is told -/

namespace CommandLine

/-- The result that a command has when its task has the result `r`: a failure that can be told is a status. -/
def toldResult : Except Failure ExitStatus → Except Failure ExitStatus
  | .ok status => .ok status
  | .error f =>
    match statusOf f with
    | some status => .ok status
    | none => .error f

/-- The line on the side stream about a failure. -/
def failureLine (f : Failure) : List UInt8 := Text.legibleBytes ("error: " ++ f.message ++ "\n")

/-- What a command adds to the side stream when its task has the result `r`. -/
def toldLine : Except Failure ExitStatus → List UInt8
  | .ok _ => []
  | .error f => if (statusOf f).isSome then failureLine f else []

theorem toldResult_of_status {f : Failure} {status : ExitStatus} (h : statusOf f = some status) :
    toldResult (.error f) = .ok status := by
  simp only [toldResult, h]

theorem toldResult_of_none {f : Failure} (h : statusOf f = none) : toldResult (.error f) = .error f := by
  simp only [toldResult, h]

theorem toldLine_of_status {f : Failure} {status : ExitStatus} (h : statusOf f = some status) :
    toldLine (.error f) = failureLine f := by
  simp only [toldLine, h, Option.isSome_some, if_true]

theorem toldLine_of_none {f : Failure} (h : statusOf f = none) : toldLine (.error f) = [] := by
  simp [toldLine, h]

/-- Misuse has a status of its own. -/
theorem statusOf_misuse {f : Failure} (h : f.isMisuse = true) : statusOf f = some .misused := by
  unfold Failure.isMisuse at h
  unfold statusOf Failure.isMisuse
  split <;> simp_all

/-- A text that has no bytes is a misuse. -/
theorem isMisuse_encoding (e : EncodingError) : (Failure.encoding e).isMisuse = true := by
  cases e <;> rfl

/-- **Telling** adds a line about a failure that can be told, and nothing else. -/
theorem Job.Adds.told {job : Job ExitStatus} {out err : List UInt8} {r : Except Failure ExitStatus}
    (h : job.Adds out err r) : (told job).Adds out (err ++ toldLine r) (toldResult r) := by
  intro c
  rw [CommandLine.told, Job.after_tryCatch, h c]
  cases r with
  | ok status => rw [toldLine, List.append_nil, toldResult]
  | error f =>
    cases hstatus : statusOf f with
    | none =>
      rw [toldLine_of_none hstatus, toldResult_of_none hstatus, List.append_nil]
      simp only [hstatus]
      exact Job.after_throw f _
    | some status =>
      have hline := (Job.Adds.report ("error: " ++ f.message)).andReturn fun _ => status
      rw [toldLine_of_status hstatus, toldResult_of_status hstatus]
      simp only [hstatus]
      rw [hline, Job.append_append, Job.append_append, List.append_nil, failureLine]
      rfl

/-! ## The command -/

/-- The job of a task. -/
def Task.job [Codecs] [WritingRoom] [Yaml.Reader] (w : Surroundings) (level : LogLevel) (s : Settings) :
    Task → Job ExitStatus
  | run program input => do
    runProgram w level s program input
    return .success
  | trace program input range => do
    traceProgram w level s program input range
    return .success
  | check suites => checkSuites w level s suites

/-- **What a command leaves behind** is what its task adds to an empty console, and the line about its
    failure. -/
theorem run_of_adds [Codecs] [WritingRoom] [Yaml.Reader] {arguments : List Text} {w : Surroundings}
    {i : Invocation} {level : LogLevel} {s : Settings} {out err : List UInt8} {r : Except Failure ExitStatus}
    (hi : Invocation.ofArguments arguments = .ok i) (hlevel : i.logLevel.orUsual .warning = some level)
    (hs : i.settings w.environment = .ok s) (h : (i.task.job w level s).Adds out err r) :
    run arguments w = (toldResult r, ⟨out.toArray, (err ++ toldLine r).toArray⟩) := by
  have hlevel' : i.logLevel.get .warning .logLevel = .ok level := by rw [Given.get, hlevel]
  have hperform : (i.perform w).Adds out err r := by
    have htask : i.perform w = (lift (i.logLevel.get .warning .logLevel) >>= fun level =>
        lift (i.settings w.environment) >>= fun s => i.task.job w level s) := by
      unfold Invocation.perform
      cases i.task <;> rfl
    rw [htask, hlevel', hs]
    exact (Job.Adds.lift _).bind ((Job.Adds.lift _).bind h)
  have hcommand : command arguments w = told (i.perform w) := by rw [command, hi]
  rw [run, hcommand, Job.Adds.told hperform]
  simp

/-- A command whose settings make no sense writes nothing but why. -/
theorem run_of_settings_error [Codecs] [WritingRoom] [Yaml.Reader] {arguments : List Text} {w : Surroundings}
    {i : Invocation} {level : LogLevel} {f : Failure} (hi : Invocation.ofArguments arguments = .ok i)
    (hlevel : i.logLevel.orUsual .warning = some level) (hs : i.settings w.environment = .error f) :
    run arguments w = (toldResult (.error f), ⟨#[], (toldLine (.error f)).toArray⟩) := by
  have hlevel' : i.logLevel.get .warning .logLevel = .ok level := by rw [Given.get, hlevel]
  have hperform : (i.perform w).Adds [] [] (.error f) := by
    rw [Invocation.perform, hlevel', hs]
    exact (Job.Adds.lift (.ok level)).bind (Job.Adds.lift (.error f)).bind_error
  have hcommand : command arguments w = told (i.perform w) := by rw [command, hi]
  rw [run, hcommand, Job.Adds.told hperform]
  simp

/-- Surroundings with some files, the texts of which are given, and nothing else. -/
def Surroundings.holding (files : List (Text × Text)) : Surroundings where
  file path :=
    match files.lookup path with
    | some contents => .ok contents.legibleBytes
    | none => .error (.file (.notFound path))
  stamp := "TIME"
  budget := 8

end CommandLine

end TapeLang
