/-
  CommandLine — the command: arguments in, two streams and an exit status out.

  The environment is read first and the arguments replace what it says, so an environment that makes no
  sense is refused even if nothing of it is used.  Then the program is read, then the input, and the
  machine runs.  A program with a flaw is told from a program that fails, and both from a command that
  was used in the wrong way, by the exit status.

  `CommandLine.command` is `main`, and `Invocation.settings` is `_load_config`.  `runProgram` and
  `traceProgram` are the two ways through `_run`, with `_read_program` and `_read_input` in `prepared`, and
  `checkSuites` is `_check`.
-/
import TapeLang.CommandLine.Help
import TapeLang.Console
import TapeLang.Suite
import TapeLang.Trace

namespace TapeLang.CommandLine

/-! ## Surroundings -/

/-- What the command finds when it starts. -/
structure Surroundings where
  /-- The environment. -/
  environment : Environment := {}
  /-- What comes in from outside. -/
  stdin : List UInt8 := []
  /-- The bytes of the file at a path. -/
  file : Text → Except Failure (List UInt8)
  /-- The time for the lines of the log. -/
  stamp : Text
  /-- How many moves a program may make. -/
  budget : Nat

/-- How the command ends. -/
inductive ExitStatus where
  /-- All went well. -/
  | success
  /-- The brackets of a program do not match, or a case failed. -/
  | flawed
  /-- A program failed, or the arguments make no sense. -/
  | failed
  /-- Something that the command was pointed to makes no sense. -/
  | misused
  deriving DecidableEq

/-- The number of an exit status. -/
def ExitStatus.code : ExitStatus → Nat
  | success => 0
  | flawed => 1
  | failed => 2
  | misused => 3

/-! ## Settings and data -/

/-- The value of a switch, or the usual one; a blank switch is a failure. -/
def Given.get {β : Type} (usual : β) (what : Blank) (g : Given β) : Except Failure β :=
  match g.orUsual usual with
  | some b => .ok b
  | none => .error (.blank what)

/-- The settings of an invocation. -/
def Invocation.settings [Codecs] (i : Invocation) (e : Environment) : Except Failure Settings := do
  let s ← Settings.ofEnvironment e
  let chunk ← i.chunkSize.get s.chunk .chunkSize
  let encoding ← i.encoding.get s.encoding .encoding
  let s : Settings := ⟨chunk, encoding⟩
  let _ ← (Codecs.find s.encoding).mapError Failure.encoding
  return s

/-- The bytes of a program. -/
def ProgramSource.bytes [Codecs] (w : Surroundings) (s : Settings) : ProgramSource → Except Failure (List UInt8)
  | argument code => (code.encoded s.encoding).mapError Failure.encoding
  | file path => w.file path
  | stdin => .ok w.stdin
  | blank => .error (.blank .content)

/-- The bytes of an input. -/
def InputSource.bytes [Codecs] (w : Surroundings) (s : Settings) : InputSource → Except Failure (List UInt8)
  | argument t => (t.encoded s.encoding).mapError Failure.encoding
  | file path => w.file path
  | blank => .error (.blank .content)

/-- A program and its input, the program first. -/
def prepared [Codecs] (w : Surroundings) (s : Settings) (program : ProgramSource)
    (input : InputSource) : Except Failure (Program × List UInt8) := do
  let p ← (Program.ofBytes (← program.bytes w s)).mapError Failure.fault
  return (p, ← input.bytes w s)

/-! ## Tasks -/

/-- Lets a result of pure work be the result of a job. -/
def lift {α : Type} (x : Except Failure α) : Job α := ExceptT.mk (pure x)

/-- Runs a program and writes its output. -/
def runProgram [Codecs] (w : Surroundings) (level : LogLevel) (s : Settings)
    (program : ProgramSource) (input : InputSource) : Job Unit := do
  let (p, bytes) ← lift (prepared w s program input)
  let ending := p.run w.budget s.chunk bytes
  Job.log w.stamp level (ending.log p bytes)
  Job.write (← lift ending.result)

/-- Runs a program and writes what it does. -/
def traceProgram [Codecs] (w : Surroundings) (level : LogLevel) (s : Settings)
    (program : ProgramSource) (input : InputSource) (range : Given Int) : Job Unit := do
  let (p, bytes) ← lift (prepared w s program input)
  let t := p.traceShowing w.budget s (range.orUsual 10) (.bytes bytes)
  t.lines.forM Job.print
  Job.log w.stamp level t.log
  let _ ← lift (t.ending.bind Ending.result)

/-- The line about a case of the suite at a path. -/
def verdictLine (path : Text) (v : Verdict) : Text :=
  (if v.passed then "PASS " else "FAIL ") ++ path ++ "::" ++ v.case.name.shown ++
    if v.passed then ([] : Text) else " (" ++ v.describe ++ ")"

/-- Checks the suite at a path: the verdicts on its cases. -/
def checkSuite [Codecs] [WritingRoom] [Yaml.Reader] (w : Surroundings) (level : LogLevel)
    (s : Settings) (path : Text) : Job (List Verdict) := do
  let cases ← lift (Suite.load w.file path s.encoding)
  Job.log w.stamp level [⟨.commandLine, .info,
    "Loaded " ++ Text.natural cases.length ++ " cases from " ++ path⟩]
  let verdicts ← lift (Suite.run w.budget s cases)
  Job.log w.stamp level (verdicts.flatMap Verdict.lines)
  verdicts.forM fun v => Job.print (verdictLine path v)
  return verdicts

/-- Checks suites and counts the cases that passed. -/
def checkSuites [Codecs] [WritingRoom] [Yaml.Reader] (w : Surroundings) (level : LogLevel)
    (s : Settings) (paths : List Text) : Job ExitStatus := do
  let verdicts := (← paths.mapM (checkSuite w level s)).flatten
  let passed := verdicts.filter (·.passed)
  Job.print (Text.natural passed.length ++ "/" ++ Text.natural verdicts.length ++ " cases passed")
  return if passed.length = verdicts.length then .success else .flawed

/-- Does what an invocation asks for. -/
def Invocation.perform [Codecs] [WritingRoom] [Yaml.Reader] (i : Invocation) (w : Surroundings) :
    Job ExitStatus := do
  let level ← lift (i.logLevel.get .warning .logLevel)
  let s ← lift (i.settings w.environment)
  match i.task with
  | .run program input => do
    runProgram w level s program input
    return .success
  | .trace program input range => do
    traceProgram w level s program input range
    return .success
  | .check suites => checkSuites w level s suites

/-! ## What a task looks at -/

/-- The path of a program, if it is in a file. -/
def ProgramSource.path? : ProgramSource → Option Text
  | file path => some path
  | _ => none

/-- The path of an input, if it is in a file. -/
def InputSource.path? : InputSource → Option Text
  | file path => some path
  | _ => none

/-- The paths of the files that a task may read. -/
def Task.paths : Task → List Text
  | run program input | trace program input _ => program.path?.toList ++ input.path?.toList
  | check suites => suites

/-- Whether a task reads what comes in from outside. -/
def Task.readsStdin : Task → Bool
  | run program _ | trace program _ _ => program == .stdin
  | check _ => false

/-! ## The command -/

/-- The exit status for a failure that the command knows how to tell. -/
def statusOf (f : Failure) : Option ExitStatus :=
  match f.category with
  | .fault kind => some (if FaultKind.brackets.covers kind then .flawed else .failed)
  | _ => if f.isMisuse then some .misused else none

/-- The status of a job.  A failure becomes a line on the side stream; one that the command cannot tell
    stays a failure. -/
def told (job : Job ExitStatus) : Job ExitStatus :=
  tryCatch job fun f =>
    match statusOf f with
    | some status => do
      Job.report ("error: " ++ f.message)
      return status
    | none => throw f

/-- What becomes of arguments that are not taken. -/
def refuse (r : Refused) : Job ExitStatus :=
  match r.reason with
  | .help => do
    r.command.help.forM Job.print
    return .success
  | .misuse message => do
    (r.command.complaintLines message).forM Job.report
    return .failed

/-- The whole command. -/
def command [Codecs] [WritingRoom] [Yaml.Reader] (arguments : List Text) (w : Surroundings) :
    Job ExitStatus :=
  match Invocation.ofArguments arguments with
  | .error r => refuse r
  | .ok i => told (i.perform w)

/-- Runs the command on an empty console. -/
def run [Codecs] [WritingRoom] [Yaml.Reader] (arguments : List Text) (w : Surroundings) :
    Except Failure ExitStatus × Console :=
  (command arguments w).after {}

end TapeLang.CommandLine
