/-
  Reporting — to run a program from the command line is to evaluate it.

  The command makes bytes of program and input by its own path, and it handles failures in two places.
  It comes down to this: reading the two (`prepared`) and running them is evaluating them, with every
  failure in its place (`evaluated_eq`), and what is written afterwards hangs on the result alone.

  1. **Kinds** — a fault found by reading a program is one of brackets, a fault of its run is not.  So the
     status tells the two apart.

  2. **What a task adds** — `runProgram` adds the output, the log and nothing else; `traceProgram` adds the
     same to the side stream, whatever it prints, because a traced run ends as the plain one does.

  3. **The report (`Reported`)** — for each thing that evaluating can come to, what the command writes and
     how it ends.
-/
import TapeLang.Proofs.Jobs
import TapeLang.Proofs.Verdicts

namespace TapeLang

/-! ## Kinds of faults -/

/-- A program that is refused has brackets that do not match. -/
theorem Program.kind_of_ofBytes {source : List UInt8} {f : Fault} (h : Program.ofBytes source = .error f) :
    f.kind.Under .brackets := by
  have hreads := Program.read_reads (source.map byteCode)
  rw [← Program.ofBytes, h] at hreads
  cases hreads with
  | stray => exact .single rfl
  | unclosed => exact .single rfl

/-- A command is refused with a fault of its execution. -/
theorem Refused.kind {code : Value} {position : Option Int} {s : State} {f : Failure} {g : Fault}
    (h : Refused code position s f) (hg : f = .fault g) : g.kind.Under .execution := by
  cases h with
  | edge =>
    cases hg
    exact .single rfl
  | exhausted =>
    cases hg
    exact .single rfl
  | unknown =>
    obtain ⟨_, _, rfl⟩ := Failure.undefined_eq_fault hg
    exact .single rfl

/-- **A program of bytes** has an output, ends with a fault of its execution, or does not end, unless a position
    in it is too long to be told. -/
theorem Program.result_kinds {p : Program} (hp : ∀ c ∈ commands p, c.IsByte) (n : Nat) (chunk : Chunk)
    (input : List UInt8) :
    (∃ output, (p.run n chunk input).result = .ok output) ∨
    (∃ f : Fault, f.kind.Under .execution ∧ (p.run n chunk input).result = .error (.fault f)) ∨
    (p.run n chunk input).result = .error .unfinished ∨
    (p.run n chunk input).result = .error .tooManyDigits := by
  rcases result_cases hp n chunk input with ⟨f | output, hresult⟩ | hresult | ⟨hresult, -⟩
  · refine .inr (.inl ⟨f, ?_, hresult⟩)
    cases hrun : p.run n chunk input with
    | finished s =>
      rw [hrun] at hresult
      cases hresult
    | unfinished m =>
      rw [hrun] at hresult
      cases hresult
    | failed g s =>
      rw [hrun] at hresult
      obtain rfl : g = .fault f := Except.error.inj hresult
      obtain ⟨_, _, -, -, hlast⟩ := Machine.exists_last_move hrun
      obtain ⟨_, _, -, -, hrefused⟩ := Machine.move_eq_failed_iff.1 hlast
      exact hrefused.kind rfl
  · exact .inl ⟨output, hresult⟩
  · exact .inr (.inr (.inl hresult))
  · exact .inr (.inr (.inr hresult))

namespace CommandLine

/-- Brackets have a status of their own. -/
theorem statusOf_brackets {f : Fault} (h : f.kind.Under .brackets) :
    statusOf (.fault f) = some .flawed := by
  show some (if FaultKind.brackets.covers f.kind then ExitStatus.flawed else .failed) = _
  rw [if_pos (FaultKind.covers_iff.2 h)]

/-- A fault of the execution is none of brackets. -/
theorem statusOf_execution {f : Fault} (h : f.kind.Under .execution) :
    statusOf (.fault f) = some .failed := by
  have hother : ∀ k : FaultKind, FaultKind.execution.covers k = true →
      FaultKind.brackets.covers k = false := by
    intro k
    cases k <;> decide
  show some (if FaultKind.brackets.covers f.kind then ExitStatus.flawed else .failed) = _
  rw [hother f.kind (FaultKind.covers_iff.2 h)]
  rfl

/-! ## What is given -/

/-- The program as a value, before it is made bytes; the failure to read it, if there is one. -/
def ProgramSource.value (w : Surroundings) : ProgramSource → Except Failure Value
  | argument code => .ok (.text code)
  | file path => (w.file path).map .bytes
  | stdin => .ok (.bytes w.stdin)
  | blank => .error (.blank .content)

/-- The input as a value, before it is made bytes; the failure to read it, if there is one. -/
def InputSource.value (w : Surroundings) : InputSource → Except Failure Value
  | argument t => .ok (.text t)
  | file path => (w.file path).map .bytes
  | blank => .error (.blank .content)

section

variable {w : Surroundings} {s : Settings} {program : ProgramSource} {input : InputSource} {p v : Value}

/-- Bytes that are read are the bytes of the value that they are. -/
theorem bytesOf_map_bytes [Codecs] {x : Except Failure (List UInt8)} (h : x.map Value.bytes = .ok v) :
    x = s.bytesOf v := by
  cases x with
  | error f => cases h
  | ok bytes =>
    cases h
    rfl

/-- The command makes the bytes of a program that evaluating makes. -/
theorem ProgramSource.bytes_eq [Codecs] (h : program.value w = .ok p) : program.bytes w s = s.bytesOf p := by
  cases program with
  | argument code =>
    cases h
    rfl
  | file path => exact bytesOf_map_bytes h
  | stdin =>
    cases h
    rfl
  | blank => cases h

/-- The command makes the bytes of an input that evaluating makes. -/
theorem InputSource.bytes_eq [Codecs] (h : input.value w = .ok v) : input.bytes w s = s.bytesOf v := by
  cases input with
  | argument t =>
    cases h
    rfl
  | file path => exact bytesOf_map_bytes h
  | blank => cases h

/-- An input that cannot be read has no bytes. -/
theorem InputSource.bytes_error [Codecs] {f : Failure} (h : input.value w = .error f) :
    input.bytes w s = .error f := by
  cases input with
  | argument t => cases h
  | file path =>
    show w.file path = _
    rw [value] at h
    cases hfile : w.file path with
    | error g =>
      rw [hfile] at h
      cases h
      rfl
    | ok bytes =>
      rw [hfile] at h
      cases h
  | blank =>
    cases h
    rfl

/-! ## Evaluation in two halves -/

/-- What a run comes to: program and input are read, and then the machine runs. -/
def evaluated [Codecs] (w : Surroundings) (s : Settings) (program : ProgramSource) (input : InputSource) :
    Except Failure (List UInt8) := do
  let (p, bytes) ← prepared w s program input
  (p.run w.budget s.chunk bytes).result

/-- **Reading and running is evaluating**, with every failure in its place. -/
theorem evaluated_eq [Codecs] (hp : program.value w = .ok p) (hv : input.value w = .ok v) :
    evaluated w s program input = evaluate w.budget s p v := by
  rw [evaluated, prepared, evaluate, program.bytes_eq hp, input.bytes_eq hv]
  cases s.bytesOf p with
  | error f => rfl
  | ok source =>
    simp only [ok_bind]
    cases (Program.ofBytes source).mapError Failure.fault with
    | error f => rfl
    | ok tree =>
      simp only [ok_bind]
      cases s.bytesOf v <;> rfl

/-- The bytes in the log about a run: none if there is no run. -/
def runLog [Codecs] (w : Surroundings) (level : LogLevel) (s : Settings) (program : ProgramSource)
    (input : InputSource) : List UInt8 :=
  match prepared w s program input with
  | .ok (p, bytes) => Job.logBytes w.stamp level ((p.run w.budget s.chunk bytes).log p bytes)
  | .error _ => []

/-- Only who asks for everything finds a run in the log. -/
theorem runLog_eq_nil [Codecs] {level : LogLevel} (h : level ≠ .debug) (w : Surroundings) (s : Settings)
    (program : ProgramSource) (input : InputSource) : runLog w level s program input = [] := by
  have hlow : ∀ l : LogLine, l.level = .debug → ¬ level.rank ≤ l.level.rank := by
    intro l hl
    rw [hl]
    cases level with
    | debug => exact absurd rfl h
    | _ => decide
  unfold runLog
  split
  · rename_i p bytes _
    have hnone : ((p.run w.budget s.chunk bytes).log p bytes).filter
        (fun l => level.rank ≤ l.level.rank) = [] := by
      refine List.filter_eq_nil_iff.2 fun l hl => ?_
      rw [decide_eq_true_eq]
      refine hlow l ?_
      rcases List.mem_cons.1 hl with rfl | hl
      · rfl
      · unfold Ending.line? at hl
        split at hl <;> simp at hl <;> rw [hl]
    rw [Job.logBytes, hnone]
    rfl
  · rfl

/-! ## What a task adds -/

/-- A run adds its output, if it has one, and the log. -/
theorem runProgram_adds [Codecs] (level : LogLevel) : (runProgram w level s program input).Adds
    ((evaluated w s program input).toOption.getD []) (runLog w level s program input)
    ((evaluated w s program input).map fun _ => ()) := by
  unfold runProgram runLog evaluated
  cases prepared w s program input with
  | error f => exact (Job.Adds.lift _).bind_error
  | ok x =>
    obtain ⟨tree, bytes⟩ := x
    refine (Job.Adds.lift _).bind ?_
    have hlog := Job.Adds.log w.stamp level ((tree.run w.budget s.chunk bytes).log tree bytes)
    have hwrite : (lift (tree.run w.budget s.chunk bytes).result >>= Job.write).Adds
        ((tree.run w.budget s.chunk bytes).result.toOption.getD []) []
        ((tree.run w.budget s.chunk bytes).result.map fun _ => ()) := by
      cases (tree.run w.budget s.chunk bytes).result with
      | error f => exact (Job.Adds.lift _).bind_error
      | ok output => exact (Job.Adds.lift _).bind (Job.Adds.write output)
    have hboth := hlog.andThen hwrite
    rwa [List.append_nil] at hboth

/-- The lines of a trace are printable. -/
theorem printable_trace [Codecs] {tree : Program} (htree : tree.Tellable) (n : Nat)
    (s : Settings) (range : Int) {v : Value} {bytes : List UInt8} (hv : s.bytesOf v = .ok bytes) :
    ∀ l ∈ (tree.trace n s range v).lines, l.Printable := by
  obtain ⟨source, hsource⟩ := Program.source_ok_iff.2 htree.bytes
  have hcome := Machine.ToCome.start htree (State.initial s.chunk bytes)
  have htells := Trace.tells_run (m := Machine.start tree (State.initial s.chunk bytes)) hcome range n
  have hclosing : ∀ l ∈ Trace.closing (tree.run n s.chunk bytes), l.Printable := by
    by_cases hend : ∃ m, tree.run n s.chunk bytes = .unfinished m
    · obtain ⟨m, hm⟩ := hend
      rw [hm]
      exact fun _ hl => nomatch hl
    · exact (Trace.tellsEnd_run hcome fun m hm => hend ⟨m, hm⟩).2
  have hlines := Program.trace_lines htree.places (Trace.heading_eq hsource hv) n range
  rw [Trace.accounts, Machine.runNoting_toList, List.nil_append] at hlines
  rw [hlines]
  exact List.forall_mem_append.2 ⟨List.forall_mem_append.2
    ⟨Trace.printable_opening source bytes, htells.printable⟩, hclosing⟩

/-- A traced run of a program that can be told adds its lines and the log. -/
theorem traced_adds [Codecs] {tree : Program} (htree : tree.Tellable) (level : LogLevel)
    (size : Int) (bytes : List UInt8) :
    (do
      (tree.trace w.budget s size (.bytes bytes)).lines.forM Job.print
      Job.log w.stamp level (tree.trace w.budget s size (.bytes bytes)).log
      let _ ← lift ((tree.trace w.budget s size (.bytes bytes)).ending.bind Ending.result)).Adds
    (Text.legibleBytes (Text.ofLines (tree.trace w.budget s size (.bytes bytes)).lines))
    (Job.logBytes w.stamp level ((tree.run w.budget s.chunk bytes).log tree bytes))
    ((tree.run w.budget s.chunk bytes).result.map fun _ => ()) := by
  obtain ⟨source, hsource⟩ := Program.source_ok_iff.2 htree.bytes
  have hbytes : s.bytesOf (.bytes bytes) = .ok bytes := rfl
  have htrace := Program.trace_eq htree.places (Trace.heading_eq hsource hbytes) w.budget size
  have hlines : ((tree.trace w.budget s size (.bytes bytes)).lines.forM Job.print).Adds
      (Text.legibleBytes (Text.ofLines ((tree.trace w.budget s size (.bytes bytes)).lines.map id))) []
      (.ok ()) :=
    Job.Adds.printEach fun l hl => (printable_trace htree w.budget s size hbytes l hl).writable
  have hlog := Job.Adds.log w.stamp level ((tree.run w.budget s.chunk bytes).log tree bytes)
  have hend := (Job.Adds.lift (tree.run w.budget s.chunk bytes).result).andReturn fun _ => ()
  have hall := hlines.andThen (hlog.andThen hend)
  simp only [List.append_nil, List.nil_append, List.map_id] at hall
  rw [htrace] at hall ⊢
  exact hall

/-- **A traced run** adds to the side stream what a run adds, and ends as it does. -/
theorem traceProgram_adds [Codecs] (level : LogLevel) {range : Given Int} {size : Int}
    (hrange : range.orUsual 10 = some size)
    (hlength : ∀ source, program.bytes w s = .ok source → source.length ≤ Value.tooLong) :
    ∃ out, (traceProgram w level s program input range).Adds out (runLog w level s program input)
      ((evaluated w s program input).map fun _ => ()) := by
  unfold traceProgram runLog evaluated
  cases hprepared : prepared w s program input with
  | error f => exact ⟨[], (Job.Adds.lift _).bind_error⟩
  | ok x =>
    obtain ⟨tree, bytes⟩ := x
    have htree : tree.Tellable := by
      obtain ⟨source, hsource, hread⟩ := bind_eq_ok hprepared
      obtain ⟨tree', htree', hread⟩ := bind_eq_ok hread
      obtain ⟨bytes', -, hread⟩ := bind_eq_ok hread
      cases hread
      have hparsed := mapError_eq_ok_iff.1 htree'
      exact ⟨Program.isByte_of_ofBytes hparsed, Program.writable_of_ofBytes hparsed (hlength source hsource)⟩
    have hsame : tree.traceShowing w.budget s (range.orUsual 10) (.bytes bytes) =
        tree.trace w.budget s size (.bytes bytes) := by rw [hrange, Program.trace]
    refine ⟨[] ++ Text.legibleBytes (Text.ofLines (tree.trace w.budget s size (.bytes bytes)).lines),
      (Job.Adds.lift _).bind ?_⟩
    dsimp only
    rw [hsame]
    exact traced_adds htree level size bytes

/-! ## The report -/

/-- Data that a command is given: a text, or bytes. -/
inductive IsData : Value → Prop where
  /-- A text. -/
  | text (t : Text) : IsData (.text t)
  /-- Bytes. -/
  | bytes (bytes : List UInt8) : IsData (.bytes bytes)

theorem isData_map_bytes {x : Except Failure (List UInt8)} (h : x.map Value.bytes = .ok v) :
    IsData v := by
  cases x with
  | error f => cases h
  | ok bytes =>
    cases h
    exact .bytes bytes

theorem ProgramSource.isData (h : program.value w = .ok p) : IsData p := by
  cases program with
  | argument code =>
    cases h
    exact .text code
  | file path => exact isData_map_bytes h
  | stdin =>
    cases h
    exact .bytes w.stdin
  | blank => cases h

theorem InputSource.isData (h : input.value w = .ok v) : IsData v := by
  cases input with
  | argument t =>
    cases h
    exact .text t
  | file path => exact isData_map_bytes h
  | blank => cases h

/-- Data have bytes, unless they are a text that the encoding cannot write. -/
theorem IsData.bytesOf [Codecs] (h : IsData v) (s : Settings) :
    (∃ bytes, s.bytesOf v = .ok bytes) ∨ ∃ e, s.bytesOf v = .error (.encoding e) := by
  cases h with
  | text t =>
    have ht : s.bytesOf (.text t) = (t.encoded s.encoding).mapError Failure.encoding := rfl
    rw [ht]
    cases t.encoded s.encoding with
    | error e => exact .inr ⟨e, rfl⟩
    | ok bytes => exact .inl ⟨bytes, rfl⟩
  | bytes bytes => exact .inl ⟨bytes, rfl⟩

/-- What the command leaves behind, by what evaluating its program comes to; `logged` are the bytes of the
    log. -/
inductive Reported (logged : List UInt8) :
    Except Failure (List UInt8) → Except Failure ExitStatus × Console → Prop where
  /-- The output is written as it is. -/
  | output (bytes : List UInt8) :
    Reported logged (.ok bytes) (.ok .success, ⟨bytes.toArray, logged.toArray⟩)
  /-- The brackets of the program do not match. -/
  | flawed {f : Fault} (h : f.kind.Under .brackets) :
    Reported logged (.error (.fault f))
      (.ok .flawed, ⟨#[], (logged ++ failureLine (.fault f)).toArray⟩)
  /-- The program fails. -/
  | failed {f : Fault} (h : f.kind.Under .execution) :
    Reported logged (.error (.fault f))
      (.ok .failed, ⟨#[], (logged ++ failureLine (.fault f)).toArray⟩)
  /-- The program or the input is a text without bytes. -/
  | misused (e : EncodingError) :
    Reported logged (.error (.encoding e))
      (.ok .misused, ⟨#[], (logged ++ failureLine (.encoding e)).toArray⟩)
  /-- The program is so long that it cannot be told where it fails. -/
  | untold : Reported logged (.error .tooManyDigits)
      (.ok .misused, ⟨#[], (logged ++ failureLine .tooManyDigits).toArray⟩)
  /-- The run does not end, and nothing is written. -/
  | unfinished : Reported logged (.error .unfinished) (.error .unfinished, ⟨#[], logged.toArray⟩)

/-- What a task leaves behind that comes to a result, is silent but for its output and logs this much. -/
def leftBehind (logged : List UInt8) (r : Except Failure (List UInt8)) :
    Except Failure ExitStatus × Console :=
  (toldResult (r.map fun _ => .success),
    ⟨(r.toOption.getD []).toArray, (logged ++ toldLine (r.map fun _ => .success)).toArray⟩)

theorem leftBehind_of_status {f : Failure} {status : ExitStatus} (h : statusOf f = some status)
    (logged : List UInt8) :
    leftBehind logged (.error f) = (.ok status, ⟨#[], (logged ++ failureLine f).toArray⟩) := by
  show (toldResult (.error f), Console.mk _ (logged ++ toldLine (.error f)).toArray) = _
  rw [toldResult_of_status h, toldLine_of_status h]
  rfl

theorem leftBehind_ok (output logged : List UInt8) :
    leftBehind logged (.ok output) = (.ok .success, ⟨output.toArray, logged.toArray⟩) := by
  simp [leftBehind, Except.map, toldResult, toldLine, Except.toOption]

theorem leftBehind_unfinished (logged : List UInt8) :
    leftBehind logged (.error .unfinished) = (.error .unfinished, ⟨#[], logged.toArray⟩) := by
  simp [leftBehind, Except.map, toldResult, toldLine, Except.toOption, statusOf, Failure.category,
    Failure.isMisuse]

/-- The run of a tree that was read is reported by what it comes to. -/
theorem reported_of_run {source : List UInt8} {tree : Program} (hread : Program.ofBytes source = .ok tree)
    (n : Nat) (chunk : Chunk) (bytes logged : List UInt8) :
    Reported logged (tree.run n chunk bytes).result (leftBehind logged (tree.run n chunk bytes).result) := by
  rcases Program.result_kinds (Program.isByte_of_ofBytes hread) n chunk bytes with
    ⟨output, hresult⟩ | ⟨f, hf, hresult⟩ | hresult | hresult
  · rw [hresult, leftBehind_ok]
    exact .output output
  · rw [hresult, leftBehind_of_status (statusOf_execution hf)]
    exact .failed hf
  · rw [hresult, leftBehind_unfinished]
    exact .unfinished
  · rw [hresult, leftBehind_of_status (statusOf_misuse rfl)]
    exact .untold

/-- **A run of data is reported** by what it comes to. -/
theorem reported_of_evaluate [Codecs] (hp : IsData p) (hv : IsData v) (n : Nat) (s : Settings)
    (logged : List UInt8) :
    Reported logged (evaluate n s p v) (leftBehind logged (evaluate n s p v)) := by
  have hencoding : ∀ e, Reported logged (.error (.encoding e))
      (leftBehind logged (.error (.encoding e))) := by
    intro e
    rw [leftBehind_of_status (statusOf_misuse (isMisuse_encoding e))]
    exact .misused e
  rw [evaluate]
  rcases hp.bytesOf s with ⟨source, hsource⟩ | ⟨e, hsource⟩
  · rw [hsource, ok_bind]
    cases hread : Program.ofBytes source with
    | error f =>
      have hkind := Program.kind_of_ofBytes hread
      show Reported logged (.error (.fault f)) (leftBehind logged (.error (.fault f)))
      rw [leftBehind_of_status (statusOf_brackets hkind)]
      exact .flawed hkind
    | ok tree =>
      rcases hv.bytesOf s with ⟨bytes, hbytes⟩ | ⟨e, hbytes⟩
      · rw [hbytes]
        exact reported_of_run hread n s.chunk bytes logged
      · rw [hbytes]
        exact hencoding e
  · rw [hsource]
    exact hencoding e

theorem map_success (r : Except Failure (List UInt8)) :
    (r.map fun _ => ()).map (fun _ => ExitStatus.success) = r.map fun _ => .success := by
  cases r <;> rfl

/-- What the command leaves behind when it runs a program. -/
theorem run_of_run [Codecs] [WritingRoom] [Yaml.Reader] {arguments : List Text} {i : Invocation} {level : LogLevel}
    (hi : Invocation.ofArguments arguments = .ok i) (htask : i.task = .run program input)
    (hlevel : i.logLevel.orUsual .warning = some level) (hs : i.settings w.environment = .ok s) :
    run arguments w = leftBehind (runLog w level s program input) (evaluated w s program input) := by
  have hjob : (i.task.job w level s).Adds ((evaluated w s program input).toOption.getD [])
      (runLog w level s program input) ((evaluated w s program input).map fun _ => .success) := by
    rw [htask, ← map_success]
    exact (runProgram_adds level).andReturn fun _ => ExitStatus.success
  exact run_of_adds hi hlevel hs hjob

/-- What the command leaves behind when it traces a program. -/
theorem run_of_trace [Codecs] [WritingRoom] [Yaml.Reader] {arguments : List Text} {i : Invocation}
    {level : LogLevel} {range : Given Int} {size : Int} (hi : Invocation.ofArguments arguments = .ok i)
    (htask : i.task = .trace program input range) (hrange : range.orUsual 10 = some size)
    (hlevel : i.logLevel.orUsual .warning = some level) (hs : i.settings w.environment = .ok s)
    (hlength : ∀ source, program.bytes w s = .ok source → source.length ≤ Value.tooLong) :
    (run arguments w).1 = (leftBehind (runLog w level s program input)
      (evaluated w s program input)).1 ∧
    (run arguments w).2.err = (leftBehind (runLog w level s program input)
      (evaluated w s program input)).2.err := by
  obtain ⟨out, hadds⟩ : ∃ out, (traceProgram w level s program input range).Adds out
      (runLog w level s program input) ((evaluated w s program input).map fun _ => ()) :=
    traceProgram_adds level hrange hlength
  have hjob : (i.task.job w level s).Adds out (runLog w level s program input)
      ((evaluated w s program input).map fun _ => .success) := by
    rw [htask, ← map_success]
    exact hadds.andReturn fun _ => ExitStatus.success
  rw [run_of_adds hi hlevel hs hjob]
  exact ⟨rfl, rfl⟩

end

/-! ## The theorem -/

/-- **A run from the command line reports what evaluating comes to.**  Let arguments ask for a run, let the
    settings make sense and let the program be there.

    If the input is there too, the command ends in the way that evaluating the one on the other comes to
    its end: it writes the output and nothing else, or no output and a line with the message, with one
    status for brackets, one for a failing command and one for a text that has no bytes, in whichever
    encoding.  Who does not ask for everything finds nothing else on the side stream.

    If the input cannot be read, a program without bytes and brackets that do not match are told first, and
    only then the input.

    Arguments that ask for a trace of the same program and input, with the same settings and any number of
    cells, end in the same way and write the same to the side stream, if the offsets in the program can be
    written. -/
theorem run_reports_evaluate [Codecs] [WritingRoom] [Yaml.Reader] {arguments : List Text} {w : Surroundings}
    {i : Invocation} {level : LogLevel} {s : Settings} {program : ProgramSource} {input : InputSource}
    {p : Value}
    (hi : Invocation.ofArguments arguments = .ok i) (htask : i.task = .run program input)
    (hlevel : i.logLevel.orUsual .warning = some level) (hs : i.settings w.environment = .ok s)
    (hp : program.value w = .ok p) :
    (∃ logged, (level ≠ .debug → logged = []) ∧
      ∀ v, input.value w = .ok v → Reported logged (evaluate w.budget s p v) (run arguments w)) ∧
    (∀ f, input.value w = .error f → f.isMisuse = true →
      (∀ e, s.bytesOf p = .error (.encoding e) →
        Reported [] (.error (.encoding e)) (run arguments w)) ∧
      (∀ source g, s.bytesOf p = .ok source → Program.ofBytes source = .error g →
        Reported [] (.error (.fault g)) (run arguments w)) ∧
      (∀ source tree, s.bytesOf p = .ok source → Program.ofBytes source = .ok tree →
        run arguments w = (.ok .misused, ⟨#[], (failureLine f).toArray⟩))) ∧
    ∀ arguments' range size,
      Invocation.ofArguments arguments' = .ok { i with task := .trace program input range } →
      range.orUsual 10 = some size →
      (∀ source, s.bytesOf p = .ok source → source.length ≤ Value.tooLong) →
      (run arguments' w).1 = (run arguments w).1 ∧ (run arguments' w).2.err = (run arguments w).2.err := by
  have hrun := run_of_run hi htask hlevel hs
  refine ⟨⟨runLog w level s program input, fun h => runLog_eq_nil h w s program input, ?_⟩, ?_, ?_⟩
  · intro v hv
    rw [hrun, evaluated_eq hp hv]
    exact reported_of_evaluate (program.isData hp) (input.isData hv) w.budget s _
  · intro f hf hmisuse
    have hrefused : ∀ g, prepared w s program input = .error g →
        run arguments w = leftBehind [] (.error g) := by
      intro g hg
      rw [hrun, runLog, evaluated, hg]
      rfl
    refine ⟨?_, ?_, ?_⟩
    · intro e he
      rw [hrefused (.encoding e) (by rw [prepared, program.bytes_eq hp, he]; rfl),
        leftBehind_of_status (statusOf_misuse (isMisuse_encoding e))]
      exact .misused e
    · intro source g hsource hread
      rw [hrefused (.fault g) (by rw [prepared, program.bytes_eq hp, hsource, ok_bind, hread]; rfl),
        leftBehind_of_status (statusOf_brackets (Program.kind_of_ofBytes hread))]
      exact .flawed (Program.kind_of_ofBytes hread)
    · intro source tree hsource hread
      have hprepared : prepared w s program input = .error f := by
        rw [prepared, program.bytes_eq hp, hsource, ok_bind, hread, input.bytes_error hf]
        rfl
      rw [hrefused f hprepared, leftBehind_of_status (statusOf_misuse hmisuse), List.nil_append]
  · intro arguments' range size hi' hrange hlength
    rw [hrun]
    exact run_of_trace hi' rfl hrange hlevel hs (program.bytes_eq (s := s) hp ▸ hlength)

/-- An opening bracket is told of before the input that is not there, in a trace too. -/
theorem run_reports_evaluate_at_bracket :
    Reported [] (.error (.fault (.openLoop (.int 0))))
      (run ["run", "-e", "[", "--input-file", "in"] (.holding [])) ∧
    (run ["trace", "-e", "[", "--input-file", "in", "--memory-range", "3"] (.holding [])).1 =
      (run ["run", "-e", "[", "--input-file", "in"] (.holding [])).1 := by
  have hi : Invocation.ofArguments ["run", "-e", "[", "--input-file", "in"] =
      .ok ⟨.absent, .absent, .absent, .run (.argument "[") (.file "in")⟩ := rfl
  have hs : Invocation.settings ⟨.absent, .absent, .absent, .run (.argument "[") (.file "in")⟩
      (Surroundings.holding []).environment = .ok {} := rfl
  have hp : ProgramSource.value (.holding []) (.argument "[") = .ok (.text "[") := rfl
  obtain ⟨-, hunread, htrace⟩ := run_reports_evaluate hi rfl rfl hs hp
  obtain ⟨-, hbrackets, -⟩ := hunread (.file (.notFound "in")) rfl rfl
  have hlength : ∀ source, Settings.bytesOf {} (.text "[") = .ok source → source.length ≤ Value.tooLong := by
    intro source hsource
    obtain rfl : [91] = source := Except.ok.inj hsource
    exact Value.le_tooLong (by decide)
  exact ⟨hbrackets [91] (.openLoop (.int 0)) rfl rfl, (htrace _ (.value 3) 3 rfl rfl hlength).1⟩

/-- **A program that is lost.**  Two hyphens take one from a cell twice, which comes to an end without output.
    Right behind the switch for a program they are no program, and nothing catches what comes of it. -/
theorem hyphens_are_no_program :
    evaluate 8 {} (.text "--") (.text []) = .ok [] ∧
    Invocation.ofArguments ["run", "-e--"] =
      .ok ⟨.absent, .absent, .absent, .run .blank (.argument [])⟩ ∧
    run ["run", "-e--"] (.holding []) = (.error (.blank .content), {}) :=
  ⟨rfl, rfl, rfl⟩

end CommandLine

end TapeLang
