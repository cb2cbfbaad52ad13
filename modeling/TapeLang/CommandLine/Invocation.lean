/-
  Invocation — what the arguments of the command ask for.

  There are three tasks: to run a program, to run it with a trace, and to check suites of cases.  The
  first arguments are about settings and the log, then comes the name of the task, and what follows is
  the task's own.

  `Invocation.ofArguments` is what the parser made by `_build_parser` does.
-/
import TapeLang.CommandLine.Grammar
import TapeLang.Log
import TapeLang.Settings
import TapeLang.Text.Upper

namespace TapeLang.CommandLine

/-! ## Tasks -/

/-- Where a program comes from. -/
inductive ProgramSource where
  /-- It is an argument. -/
  | argument (code : Text)
  /-- It is in a file. -/
  | file (path : Text)
  /-- It comes in from outside. -/
  | stdin
  /-- It should be an argument, and there is none. -/
  | blank
  deriving DecidableEq

/-- Where an input comes from. -/
inductive InputSource where
  /-- It is an argument. -/
  | argument (t : Text)
  /-- It is in a file. -/
  | file (path : Text)
  /-- It should be an argument, and there is none. -/
  | blank
  deriving DecidableEq

/-- What to do. -/
inductive Task where
  /-- Run a program and write its output. -/
  | run (program : ProgramSource) (input : InputSource)
  /-- Run a program and write what it does, showing so many cells of the tape. -/
  | trace (program : ProgramSource) (input : InputSource) (range : Given Int)
  /-- Run the cases of the suites at these paths. -/
  | check (suites : List Text)
  deriving DecidableEq

/-- What the arguments ask for. -/
structure Invocation where
  /-- The size of a chunk. -/
  chunkSize : Given Chunk
  /-- The name of the encoding. -/
  encoding : Given Text
  /-- The least level of the lines that go to the log. -/
  logLevel : Given LogLevel
  /-- What to do. -/
  task : Task

/-- The commands whose arguments are read: the whole one and the three tasks. -/
inductive Command where
  /-- The whole command. -/
  | main
  /-- The task of running a program. -/
  | run
  /-- The task of tracing a program. -/
  | trace
  /-- The task of checking suites. -/
  | check
  deriving DecidableEq

/-- The name of a command. -/
def Command.name : Command → Text
  | main => "brainf"
  | run => "brainf run"
  | trace => "brainf trace"
  | check => "brainf check"

/-! ## Values -/

/-- An integer as an argument; `kind` is what it is called in a message. -/
def integerArgument (kind : Text) (t : Text) : Except Text Int :=
  t.toInteger.mapError fun _ => "invalid " ++ kind ++ " value: " ++ t.quoted

/-- The size of a chunk as an argument. -/
def chunkArgument (t : Text) : Except Text Chunk := do
  let n ← integerArgument "_positive_int" t
  if h : 0 < n.toNat then return ⟨n.toNat, h⟩
  else throw ("must be positive, got " ++ Text.integer n)

/-- A word out of a list. -/
def choiceArgument (choices : List Text) (t : Text) : Except Text Text :=
  if choices.contains t then .ok t
  else .error ("invalid choice: " ++ t.quoted ++ " (choose from " ++
    Text.join ", " (choices.map Text.quoted) ++ ")")

/-- A level of the log as an argument, in capitals or not. -/
def levelArgument (t : Text) : Except Text LogLevel := do
  let name ← choiceArgument (LogLevel.all.map (·.name)) t.upper
  return (LogLevel.named? name).getD .warning

/-! ## Grammars -/

/-- The switch that asks for help. -/
def helpSwitch {α : Type} : Switch α := ⟨["-h", "--help"], .help⟩

/-- A switch whose value is read by a function and kept by another one. -/
def valueSwitch {α β : Type} (spellings : List Text) (read : Text → Except Text β)
    (keep : Given β → α → α) (isUsual : Text → Bool := fun _ => false) : Switch α :=
  ⟨spellings, .value (fun t a => (read t).map fun b => keep (.value b) a) (keep .blank) isUsual⟩

/-- What the first arguments say. -/
structure Preamble where
  /-- The size of a chunk. -/
  chunkSize : Given Chunk := .absent
  /-- The name of the encoding. -/
  encoding : Given Text := .absent
  /-- The level of the log. -/
  logLevel : Given LogLevel := .absent
  /-- The name of the task, and its arguments. -/
  task : List Text := []

/-- The names of the tasks. -/
def taskNames : List Text := ["run", "trace", "check"]

/-- How the first arguments are read. -/
def preambleGrammar : Grammar Preamble where
  switches := [
    helpSwitch,
    valueSwitch ["--chunk-size"] chunkArgument fun n a => { a with chunkSize := n },
    valueSwitch ["--encoding"] .ok fun t a => { a with encoding := t },
    valueSwitch ["--log-level"] levelArgument fun l a => { a with logLevel := l }]
  operand := {
    name := "command"
    count := .rest
    set := fun ts a =>
      (choiceArgument taskNames (ts.headD [])).map fun _ => { a with task := ts } }

/-- What the arguments of a run say. -/
structure RunArguments where
  /-- The path of the program. -/
  file : Option Text := none
  /-- The program itself. -/
  code : Given Text := .absent
  /-- The input. -/
  input : Given Text := .absent
  /-- The path of the input. -/
  inputFile : Given Text := .absent
  /-- How many cells of the tape are shown. -/
  range : Given Int := .absent

/-- How the arguments of a run are read, traced or not.  An empty input counts as not given. -/
def runGrammar (traced : Bool) : Grammar RunArguments where
  switches := [
    helpSwitch,
    valueSwitch ["-e", "--execute"] .ok fun t a => { a with code := t },
    valueSwitch ["--input"] .ok (fun t a => { a with input := t }) (·.isEmpty),
    valueSwitch ["--input-file"] .ok fun t a => { a with inputFile := t }] ++
    if traced then
      [valueSwitch ["--memory-range"] (integerArgument "int") fun n a => { a with range := n }]
    else []
  operand := {
    name := "file"
    count := .optional
    set := fun ts a => .ok { a with file := ts.head? } }
  exclusions := [
    { members := ["file", "-e/--execute"], required := true },
    { members := ["--input", "--input-file"] }]

/-- How the arguments of a check are read. -/
def checkGrammar : Grammar (List Text) where
  switches := [helpSwitch]
  operand := { name := "suites", count := .several, set := fun ts _ => .ok ts }

/-! ## Reading -/

namespace RunArguments

/-- Where the program comes from.  The file `-` is what comes in from outside. -/
def program (a : RunArguments) : ProgramSource :=
  match a.code, a.file with
  | .value code, _ => .argument code
  | .blank, _ => .blank
  | .absent, some path => if path == "-" then .stdin else .file path
  | .absent, none => .stdin

/-- Where the input comes from.  An empty path is none, and neither is a blank one. -/
def inputSource (a : RunArguments) : InputSource :=
  let written : InputSource := match a.input.orUsual [] with
    | some t => .argument t
    | none => .blank
  match a.inputFile with
  | .value path => if path.isEmpty then written else .file path
  | .blank | .absent => written

end RunArguments

/-- A refusal of a command. -/
structure Refused where
  /-- The command whose arguments are not taken. -/
  command : Command
  /-- Why. -/
  reason : Refusal

/-- Reads the arguments of a task: the task, and what nobody took. -/
def readTask (name : Text) (arguments : List Text) : Except Refused (Task × List Text) :=
  if name == "check" then
    (checkGrammar.read [] arguments).mapError (⟨.check, ·⟩) |>.map fun (paths, left) =>
      (.check paths, left)
  else if name == "trace" then
    ((runGrammar true).read {} arguments).mapError (⟨.trace, ·⟩) |>.map fun (a, left) =>
      (.trace a.program a.inputSource a.range, left)
  else
    ((runGrammar false).read {} arguments).mapError (⟨.run, ·⟩) |>.map fun (a, left) =>
      (.run a.program a.inputSource, left)

/-- Reads the arguments of the command.  What neither the command nor the task takes is refused at the
    end. -/
def Invocation.ofArguments (arguments : List Text) : Except Refused Invocation := do
  let (a, left) ← (preambleGrammar.read {} arguments).mapError (⟨.main, ·⟩)
  let (task, more) ← readTask (a.task.headD []) a.task.tail
  if !(left ++ more).isEmpty then
    throw ⟨.main, .misuse ("unrecognized arguments: " ++ Text.join " " (left ++ more))⟩
  return { chunkSize := a.chunkSize, encoding := a.encoding, logLevel := a.logLevel, task }

end TapeLang.CommandLine
