/-
  Help — what the command says about itself.

  The usage is the first part of the help and stands before every complaint about arguments.  A page is
  80 columns wide.
-/
import TapeLang.CommandLine.Invocation

namespace TapeLang.CommandLine.Command

/-- The lines that say how a command is used. -/
def usage : Command → List Text
  | main => [
      "usage: brainf [-h] [--chunk-size CHUNK_SIZE] [--encoding ENCODING]",
      "              [--log-level \x7bDEBUG,INFO,WARNING,ERROR,CRITICAL\x7d]",
      "              \x7brun,trace,check\x7d ..."]
  | run => [
      "usage: brainf run [-h] [-e CODE] [--input INPUT | --input-file INPUT_FILE]",
      "                  [file]"]
  | trace => [
      "usage: brainf trace [-h] [-e CODE] [--input INPUT | --input-file INPUT_FILE]",
      "                    [--memory-range MEMORY_RANGE]",
      "                    [file]"]
  | check => [
      "usage: brainf check [-h] suites [suites ...]"]

/-- The lines about the arguments of a command. -/
def details : Command → List Text
  | main => [
      "",
      "Evaluate tape-language programs",
      "",
      "positional arguments:",
      "  \x7brun,trace,check\x7d",
      "    run                 Run a program and write its output",
      "    trace               Run a program, printing the machine state after every",
      "                        step",
      "    check               Run YAML conformance suites",
      "",
      "options:",
      "  -h, --help            show this help message and exit",
      "  --chunk-size CHUNK_SIZE",
      "                        Tape growth increment in cells (default:",
      "                        $BRAINF_CHUNK_SIZE or 100)",
      "  --encoding ENCODING   Encoding for text programs and input (default:",
      "                        $BRAINF_ENCODING or utf-8)",
      "  --log-level \x7bDEBUG,INFO,WARNING,ERROR,CRITICAL\x7d",
      "                        Logging level"]
  | run => [
      "",
      "positional arguments:",
      "  file                  Program file ('-' for stdin)",
      "",
      "options:",
      "  -h, --help            show this help message and exit",
      "  -e CODE, --execute CODE",
      "                        Program text given inline",
      "  --input INPUT         Input text",
      "  --input-file INPUT_FILE",
      "                        Read input bytes from this file"]
  | trace => [
      "",
      "positional arguments:",
      "  file                  Program file ('-' for stdin)",
      "",
      "options:",
      "  -h, --help            show this help message and exit",
      "  -e CODE, --execute CODE",
      "                        Program text given inline",
      "  --input INPUT         Input text",
      "  --input-file INPUT_FILE",
      "                        Read input bytes from this file",
      "  --memory-range MEMORY_RANGE",
      "                        Number of tape cells shown around the head"]
  | check => [
      "",
      "positional arguments:",
      "  suites      Suite files",
      "",
      "options:",
      "  -h, --help  show this help message and exit"]

/-- The lines of the help. -/
def help (c : Command) : List Text := c.usage ++ c.details

/-- The lines of a complaint about arguments. -/
def complaintLines (c : Command) (message : Text) : List Text :=
  c.usage ++ [c.name ++ ": error: " ++ message]

end TapeLang.CommandLine.Command
