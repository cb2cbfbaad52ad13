/-
  Log — the lines that the parts of the program write about their work.
-/
import TapeLang.Text

namespace TapeLang

/-- How much a line matters. -/
inductive LogLevel where
  /-- For whoever looks for an error in the program itself. -/
  | debug
  /-- The usual course of things. -/
  | info
  /-- Something that calls for attention. -/
  | warning
  /-- Something went wrong. -/
  | error
  /-- Nothing works any more. -/
  | critical
  deriving DecidableEq

namespace LogLevel

/-- The levels in ascending order. -/
def all : List LogLevel := [debug, info, warning, error, critical]

/-- The name of a level. -/
def name : LogLevel → Text
  | debug => "DEBUG"
  | info => "INFO"
  | warning => "WARNING"
  | error => "ERROR"
  | critical => "CRITICAL"

/-- The level of a name. -/
def named? (t : Text) : Option LogLevel := all.find? (·.name == t)

/-- The place of a level in the order. -/
def rank : LogLevel → Nat
  | debug => 0
  | info => 1
  | warning => 2
  | error => 3
  | critical => 4

end LogLevel

/-- The part of the program that writes a line. -/
inductive LogSource where
  /-- The machine. -/
  | machine
  /-- The suites of cases. -/
  | suite
  /-- The command line. -/
  | commandLine
  deriving DecidableEq

/-- The name of a part. -/
def LogSource.name : LogSource → Text
  | machine => "brainf_machine.machine"
  | suite => "brainf_machine.suite"
  | commandLine => "brainf_machine.cli"

/-- A line of the log. -/
structure LogLine where
  /-- Who writes it. -/
  source : LogSource
  /-- How much it matters. -/
  level : LogLevel
  /-- What it says. -/
  message : Text

/-- The line as it is printed, without a time. -/
def LogLine.text (l : LogLine) : Text :=
  l.source.name ++ " - " ++ l.level.name ++ " - " ++ l.message

end TapeLang
