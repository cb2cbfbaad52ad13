/-
  Tally — a check reports and counts every case once.

  1. **An entry** — what is written about a case (`Suite.entry`) is a function of its path and of the case
     alone: the verdict on a case is made on a machine of its own.

  2. **One suite** — a suite that is loaded and whose programs end adds its entries in order
     (`checkSuite_adds`); one that cannot be loaded adds nothing.

  3. **The crux** — the suites are jobs in a row, so what is written before the first that cannot be loaded
     is what the suites before it write, and without such a one everything is.  The count comes last, and it
     is of the same verdicts as the entries.
-/
import TapeLang.Proofs.Jobs
import TapeLang.Proofs.Verdicts

namespace TapeLang

open CommandLine (Surroundings verdictLine)

namespace Suite

/-! ## Entries -/

/-- The verdict on a case.  A case whose program does not end has none, and counts as not passed. -/
def verdict [Codecs] (n : Nat) (s : Settings) (c : CheckedCase) : Verdict :=
  match c.toCase.judge n s with
  | .ok v => v
  | .error _ => { case := c.toCase, passed := false, outcome := .ok [] }

/-- The entry about a case of the suite at a path. -/
def entry [Codecs] (n : Nat) (s : Settings) (path : Text) (c : CheckedCase) : Text :=
  verdictLine path (verdict n s c)

/-- The entries about the cases of the suite at a path. -/
def entries [Codecs] (n : Nat) (s : Settings) (cases : Text → List CheckedCase) (path : Text) : List Text :=
  (cases path).map (entry n s path)

/-- A case whose program ends has a verdict, if its program is not too long to be told of. -/
theorem judge_eq [Codecs] {n : Nat} {s : Settings} {c : CheckedCase}
    (h : Program.outcome n s.chunk c.program c.input ≠ .error .unfinished)
    (hlength : c.program.length ≤ Value.tooLong) : c.toCase.judge n s = .ok (verdict n s c) := by
  have hjudged := c.judged n s
  unfold verdict
  generalize Program.outcome n s.chunk c.program c.input = outcome at h hjudged
  generalize c.toCase.judge n s = r at hjudged ⊢
  cases hjudged with
  | ended hpassed => rfl
  | unfinished => exact absurd rfl h
  | untold hlonger => exact absurd hlength (Nat.not_le.2 hlonger)

/-- A program that is judged ends. -/
theorem ends_of_judge [Codecs] {n : Nat} {s : Settings} {c : CheckedCase}
    (h : (c.toCase.judge n s).toOption.isSome = true) :
    Program.outcome n s.chunk c.program c.input ≠ .error .unfinished := by
  have hjudged := c.judged n s
  intro houtcome
  rw [houtcome] at hjudged
  generalize hunfinished : Except.error Failure.unfinished = outcome at hjudged
  generalize c.toCase.judge n s = r at h hjudged
  cases hjudged with
  | @ended v hpassed => cases hv : v.outcome <;> rw [hv] at hunfinished <;> cases hunfinished
  | unfinished => cases h
  | untold => cases h

/-- A suite whose programs end has all its verdicts, in order. -/
theorem run_eq [Codecs] {n : Nat} {s : Settings} {cases : List CheckedCase}
    (h : ∀ c ∈ cases, Program.outcome n s.chunk c.program c.input ≠ .error .unfinished)
    (hlength : ∀ c ∈ cases, c.program.length ≤ Value.tooLong) :
    run n s cases = .ok (cases.map (verdict n s)) := by
  unfold run
  induction cases with
  | nil => rfl
  | cons c cases ih =>
    obtain ⟨hc, hcases⟩ := List.forall_mem_cons.1 h
    obtain ⟨hshort, hlength⟩ := List.forall_mem_cons.1 hlength
    rw [List.mapM_cons, judge_eq hc hshort, ih hcases hlength]
    rfl

/-- The suite at a path has these cases, their programs end, and what became of them can be written. -/
structure Reportable [Codecs] [WritingRoom] [Yaml.Reader] (w : Surroundings) (s : Settings)
    (cases : Text → List CheckedCase) (path : Text) : Prop where
  /-- The suite is loaded. -/
  loaded : load w.file path s.encoding = .ok (cases path)
  /-- The programs end. -/
  ends : ∀ c ∈ cases path, Program.outcome w.budget s.chunk c.program c.input ≠ .error .unfinished
  /-- The programs are not too long to be told of. -/
  short : ∀ c ∈ cases path, c.program.length ≤ Value.tooLong
  /-- The entries can be written. -/
  writable : ∀ c ∈ cases path, (entry w.budget s path c).Writable

end Suite

namespace CommandLine

variable {w : Surroundings} {s : Settings} {cases : Text → List CheckedCase} {path : Text}

/-! ## One suite -/

/-- The log about a suite. -/
def suiteLog [Codecs] (w : Surroundings) (level : LogLevel) (s : Settings) (cases : Text → List CheckedCase)
    (path : Text) : List UInt8 :=
  Job.logBytes w.stamp level [⟨.commandLine, .info,
    "Loaded " ++ Text.natural (cases path).length ++ " cases from " ++ path⟩] ++
  Job.logBytes w.stamp level (((cases path).map (Suite.verdict w.budget s)).flatMap Verdict.lines)

/-- **One suite** adds its entries in order. -/
theorem checkSuite_adds [Codecs] [WritingRoom] [Yaml.Reader] (h : Suite.Reportable w s cases path)
    (level : LogLevel) :
    (checkSuite w level s path).Adds
      (Text.legibleBytes (Text.ofLines (Suite.entries w.budget s cases path)))
      (suiteLog w level s cases path) (.ok ((cases path).map (Suite.verdict w.budget s))) := by
  have hwritable : ∀ v ∈ (cases path).map (Suite.verdict w.budget s), (verdictLine path v).Writable := by
    intro v hv
    obtain ⟨c, hc, rfl⟩ := List.mem_map.1 hv
    exact h.writable c hc
  have hprint := Job.Adds.printEach hwritable
  have hloaded := Job.Adds.log w.stamp level [⟨.commandLine, .info,
    "Loaded " ++ Text.natural (cases path).length ++ " cases from " ++ path⟩]
  have hverdicts := Job.Adds.log w.stamp level
    (((cases path).map (Suite.verdict w.budget s)).flatMap Verdict.lines)
  have hall := hloaded.andThen (hverdicts.andThen (hprint.andReturn fun _ =>
    (cases path).map (Suite.verdict w.budget s)))
  simp only [List.append_nil, List.nil_append, List.map_map] at hall
  simp only [checkSuite, h.loaded, Suite.run_eq h.ends h.short, Job.lift_ok_bind]
  exact hall

/-- A suite that cannot be loaded adds nothing. -/
theorem checkSuite_adds_error [Codecs] [WritingRoom] [Yaml.Reader] {f : Failure}
    (h : Suite.load w.file path s.encoding = .error f) (level : LogLevel) :
    (checkSuite w level s path).Adds [] [] (.error f) := by
  rw [checkSuite, h]
  exact (Job.Adds.lift _).bind_error

/-! ## All suites -/

/-- The last line of a check. -/
def tallyLine (passed total : Nat) : Text :=
  Text.natural passed ++ "/" ++ Text.natural total ++ " cases passed"

theorem printable_tallyLine (passed total : Nat) : (tallyLine passed total).Printable :=
  .append (.append (.append (.natural passed) (by decide)) (.natural total)) (by decide)

/-- The cases that passed. -/
def passedCount [Codecs] (n : Nat) (s : Settings) (cases : List CheckedCase) : Nat :=
  cases.countP fun c => (Suite.verdict n s c).passed

/-- The status of a check. -/
def tallyStatus (passed total : Nat) : ExitStatus := if passed < total then .flawed else .success

/-- Counts the verdicts of some suites. -/
def tally (verdicts : List (List Verdict)) : Job ExitStatus := do
  let verdicts := verdicts.flatten
  let passed := verdicts.filter (·.passed)
  Job.print (Text.natural passed.length ++ "/" ++ Text.natural verdicts.length ++ " cases passed")
  return if passed.length = verdicts.length then .success else .flawed

/-- The count comes behind all verdicts. -/
theorem tally_adds (verdicts : List (List Verdict)) : (tally verdicts).Adds
    (Text.legibleBytes (tallyLine (verdicts.flatten.countP (·.passed)) verdicts.flatten.length ++ "\n")) []
    (.ok (tallyStatus (verdicts.flatten.countP (·.passed)) verdicts.flatten.length)) := by
  have hstatus : (if verdicts.flatten.countP (·.passed) = verdicts.flatten.length then ExitStatus.success
      else .flawed) = tallyStatus (verdicts.flatten.countP (·.passed)) verdicts.flatten.length := by
    rcases Nat.lt_or_eq_of_le (List.countP_le_length (p := (·.passed)) (l := verdicts.flatten)) with
      hless | hall
    · rw [tallyStatus, if_neg (Nat.ne_of_lt hless), if_pos hless]
    · rw [tallyStatus, if_pos hall, if_neg (Nat.not_lt_of_ge (Nat.le_of_eq hall.symm))]
  unfold tally
  dsimp only
  rw [← List.countP_eq_length_filter, hstatus]
  exact (Job.Adds.print (printable_tallyLine _ _).writable).andReturn fun _ => tallyStatus _ _

/-- **All suites** add their entries in order, and the count. -/
theorem checkSuites_adds [Codecs] [WritingRoom] [Yaml.Reader] {paths : List Text}
    (h : ∀ path ∈ paths, Suite.Reportable w s cases path) (level : LogLevel) :
    (checkSuites w level s paths).Adds
      (Text.legibleBytes (Text.ofLines (paths.flatMap (Suite.entries w.budget s cases) ++
        [tallyLine (passedCount w.budget s (paths.flatMap cases)) (paths.flatMap cases).length])))
      (paths.flatMap (suiteLog w level s cases))
      (.ok (tallyStatus (passedCount w.budget s (paths.flatMap cases)) (paths.flatMap cases).length)) := by
  have hrow := Job.Adds.mapM fun path hpath => checkSuite_adds (h path hpath) level
  have hall := hrow.bind (tally_adds _)
  -- the verdicts of all suites are those on all cases
  have hverdicts : (paths.map fun path => (cases path).map (Suite.verdict w.budget s)).flatten =
      (paths.flatMap cases).map (Suite.verdict w.budget s) := by
    rw [List.flatMap, List.map_flatten, List.map_map]
    rfl
  rw [hverdicts, List.countP_map, List.length_map, List.append_nil, ← Text.legibleBytes_flatMap_ofLines,
    ← Text.legibleBytes_append] at hall
  have hlines : ∀ (ls : List Text) (l : Text), Text.ofLines ls ++ (l ++ "\n") = Text.ofLines (ls ++ [l]) := by
    intro ls l
    rw [Text.ofLines, Text.ofLines, List.flatMap_append, List.flatMap_singleton]
  rw [hlines] at hall
  exact hall

/-- **A suite that cannot be loaded** ends the check behind the entries of the suites before it. -/
theorem checkSuites_adds_error [Codecs] [WritingRoom] [Yaml.Reader] {before after : List Text} {bad : Text}
    {f : Failure}
    (h : ∀ path ∈ before, Suite.Reportable w s cases path)
    (hbad : Suite.load w.file bad s.encoding = .error f) (level : LogLevel) :
    (checkSuites w level s (before ++ bad :: after)).Adds
      (Text.legibleBytes (Text.ofLines (before.flatMap (Suite.entries w.budget s cases))))
      (before.flatMap (suiteLog w level s cases)) (.error f) := by
  have hrow := Job.Adds.mapM_error
    (fun path hpath => checkSuite_adds (h path hpath) level) (checkSuite_adds_error hbad level) after
  rw [List.append_nil, List.append_nil, ← Text.legibleBytes_flatMap_ofLines] at hrow
  exact hrow.bind_error

/-! ## The theorem -/

/-- **A check reports and counts every case once.**  Let arguments ask for a check of suites, and let the
    settings make sense.

    If all suites are loaded, however files are read, all programs end and are not too long to be told of,
    and all entries can be written, then the output is the entries in the order of the paths, and within a
    suite in the order of its cases, and then the count: how many cases passed, and how many there are.
    The status tells whether one has not passed.  Each entry is about the verdict on its case, which is
    made of the case alone.

    If a suite is the first that cannot be loaded, the output is the entries of the suites before it.  A
    misuse is told on the side stream and has its status, whatever became of the cases before; what cannot
    be told has none. -/
theorem check_reports_every_case [Codecs] [WritingRoom] [Yaml.Reader] {arguments : List Text} {w : Surroundings}
    {i : Invocation} {level : LogLevel} {s : Settings} {paths : List Text}
    (hi : Invocation.ofArguments arguments = .ok i) (htask : i.task = .check paths)
    (hlevel : i.logLevel.orUsual .warning = some level) (hs : i.settings w.environment = .ok s)
    (cases : Text → List CheckedCase) :
    ((∀ path ∈ paths, Suite.Reportable w s cases path) →
      (run arguments w).1 =
        .ok (tallyStatus (passedCount w.budget s (paths.flatMap cases)) (paths.flatMap cases).length) ∧
      Encoding.utf8.encode (Text.ofLines (paths.flatMap (Suite.entries w.budget s cases) ++
        [tallyLine (passedCount w.budget s (paths.flatMap cases)) (paths.flatMap cases).length])) =
          .ok (run arguments w).2.out.toList ∧
      ∀ c ∈ paths.flatMap cases, c.toCase.judge w.budget s = .ok (Suite.verdict w.budget s c)) ∧
    ∀ before bad after f, paths = before ++ bad :: after →
      (∀ path ∈ before, Suite.Reportable w s cases path) →
      Suite.load w.file bad s.encoding = .error f →
      Encoding.utf8.encode (Text.ofLines (before.flatMap (Suite.entries w.budget s cases))) =
        .ok (run arguments w).2.out.toList ∧
      (f.isMisuse = true → (run arguments w).1 = .ok .misused ∧
        ∃ logged, (run arguments w).2.err.toList = logged ++ failureLine f) ∧
      (statusOf f = none → (run arguments w).1 = .error f) := by
  have hjob : i.task.job w level s = checkSuites w level s paths := by rw [htask]; rfl
  -- what is written is what the entries are in UTF-8, for none of them has a lone surrogate
  have hentries : ∀ ps : List Text, (∀ path ∈ ps, Suite.Reportable w s cases path) →
      ∀ l ∈ ps.flatMap (Suite.entries w.budget s cases), l.Writable := by
    intro ps h l hl
    obtain ⟨path, hpath, hl⟩ := List.mem_flatMap.1 hl
    obtain ⟨c, hc, rfl⟩ := List.mem_map.1 hl
    exact (h path hpath).writable c hc
  refine ⟨fun h => ?_, fun before bad after f hpaths h hbad => ?_⟩
  · have hrun := run_of_adds hi hlevel hs (hjob ▸ checkSuites_adds h level)
    have hall := List.forall_mem_append.2 ⟨hentries paths h, List.forall_mem_singleton.2
      (printable_tallyLine (passedCount w.budget s (paths.flatMap cases))
        (paths.flatMap cases).length).writable⟩
    rw [hrun]
    refine ⟨rfl, Text.encode_of_writable (.ofLines hall), fun c hc => ?_⟩
    obtain ⟨path, hpath, hc⟩ := List.mem_flatMap.1 hc
    exact Suite.judge_eq ((h path hpath).ends c hc) ((h path hpath).short c hc)
  · subst hpaths
    have hrun := run_of_adds hi hlevel hs (hjob ▸ checkSuites_adds_error h hbad level)
    rw [hrun]
    refine ⟨Text.encode_of_writable (.ofLines (hentries before h)), fun hf => ?_, fun hf => ?_⟩
    · have hstatus := statusOf_misuse hf
      exact ⟨toldResult_of_status hstatus, _, by rw [toldLine_of_status hstatus]⟩
    · exact toldResult_of_none hf

/-- A suite that a path does not lead to is told of behind the case that failed before. -/
theorem check_reports_every_case_at_missing :
    (run ["check", "a", "b"] (.holding [("a", "- name: x\n  program: +.\n  expected: [2]\n")])).1 =
      .ok .misused ∧
    Encoding.utf8.encode "FAIL a::x (expected b'\\x02', got b'\\x01')\n" = .ok (run ["check", "a", "b"]
      (.holding [("a", "- name: x\n  program: +.\n  expected: [2]\n")])).2.out.toList := by
  generalize hw : Surroundings.holding [("a", "- name: x\n  program: +.\n  expected: [2]\n")] = w
  -- the cases are what is loaded
  let cases : Text → List CheckedCase := fun path => (Suite.load w.file path "utf-8").toOption.getD []
  have hloaded : Suite.load w.file "a" "utf-8" = .ok (cases "a") := by
    have hsome : (Suite.load w.file "a" "utf-8").toOption.isSome = true := by
      subst hw
      decide +kernel
    show Suite.load w.file "a" "utf-8" = .ok ((Suite.load w.file "a" "utf-8").toOption.getD [])
    cases hload : Suite.load w.file "a" "utf-8" with
    | error f =>
      rw [hload] at hsome
      cases hsome
    | ok cs => rfl
  have hcases : ∀ c ∈ cases "a", (c.toCase.judge w.budget {}).toOption.isSome = true ∧
      c.program.length ≤ Text.maxNumeralDigits ∧ (Suite.entry w.budget {} "a" c).Writable := by
    subst hw
    decide +kernel
  have hreportable : Suite.Reportable w {} cases "a" :=
    ⟨hloaded, fun c hc => Suite.ends_of_judge (hcases c hc).1, fun c hc => Value.le_tooLong (hcases c hc).2.1,
      fun c hc => (hcases c hc).2.2⟩
  have hentries : Text.ofLines ([("a" : Text)].flatMap (Suite.entries w.budget {} cases)) =
      "FAIL a::x (expected b'\\x02', got b'\\x01')\n" := by
    subst hw
    decide +kernel
  have hbad : Suite.load w.file "b" "utf-8" = .error (.file (.notFound "b")) := by
    subst hw
    rfl
  have hi : Invocation.ofArguments ["check", "a", "b"] =
      .ok ⟨.absent, .absent, .absent, .check ["a", "b"]⟩ := rfl
  have hs : Invocation.settings ⟨.absent, .absent, .absent, .check ["a", "b"]⟩ w.environment = .ok {} := by
    subst hw
    rfl
  obtain ⟨-, hcut⟩ := check_reports_every_case hi rfl rfl hs cases
  obtain ⟨hout, hmisuse, -⟩ := hcut ["a"] "b" [] (.file (.notFound "b")) rfl
    (List.forall_mem_singleton.2 hreportable) hbad
  rw [hentries] at hout
  exact ⟨(hmisuse rfl).1, hout⟩

/-- **A suite that is neither counted nor told.**  The entry about the case of the suite before it is written.
    It cannot be loaded itself, for the name of a fault in it is a list, and the command has no status. -/
theorem suite_not_told :
    (Suite.load (Surroundings.holding [("a.yaml", "- name: x\n  program: '+.'\n  expected: [2]\n"),
      ("b.yaml", "- name: y\n  program: '+'\n  error: []\n")]).file "b.yaml" "utf-8").toOption.isSome =
      false ∧
    (run ["check", "a.yaml", "b.yaml"] (.holding
      [("a.yaml", "- name: x\n  program: '+.'\n  expected: [2]\n"),
        ("b.yaml", "- name: y\n  program: '+'\n  error: []\n")])).1.toOption = none ∧
    Text.legibleBytes "FAIL a.yaml::x (expected b'\\x02', got b'\\x01')\n" =
      (run ["check", "a.yaml", "b.yaml"] (.holding
        [("a.yaml", "- name: x\n  program: '+.'\n  expected: [2]\n"),
          ("b.yaml", "- name: y\n  program: '+'\n  error: []\n")])).2.out.toList := by
  decide +kernel

end CommandLine

end TapeLang
