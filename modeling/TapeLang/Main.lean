/-
  Main — the command as a program.

  Everything that the command looks at is read before it starts: the environment, the files that its
  arguments name, and what comes in from outside, if its program is there.  What it wrote is written in
  the end.
-/
import TapeLang.CommandLine

namespace TapeLang

/-- Why a file could not be read. -/
def FileError.ofSystem (path : Text) : IO.Error → FileError
  | .noFileOrDirectory .. => .notFound path
  | .inappropriateType _ code _ =>
    if code = 21 ∨ code = 0 - 21 then .isDirectory path else .notDirectory path
  | .permissionDenied .. => .denied path
  | _ => .unreadable path

/-- Reads the file at a path, or finds out why it cannot be read. -/
def fileAt (path : Text) : IO (Text × Except Failure (List UInt8)) := do
  if path.any (·.is '\x00') then return (path, .error (.file .nulInPath))
  try
    let bytes ← IO.FS.readBinFile path.toString
    return (path, .ok bytes.toList)
  catch e => return (path, .error (.file (.ofSystem path e)))

/-- A variable of the environment. -/
def setting? (name : String) : IO (Option Text) := do
  return (← IO.getEnv name).map Text.ofString

end TapeLang

open TapeLang

/-- Runs the command.  Lines of the log are stamped with the milliseconds on the clock. -/
def main (arguments : List String) : IO UInt32 := do
  let arguments := arguments.map Text.ofString
  let task? := (CommandLine.Invocation.ofArguments arguments).toOption.map (·.task)
  let files ← ((task?.map (·.paths)).getD []).mapM fileAt
  let stdin ← if task?.any (·.readsStdin) then (← IO.getStdin).readBinToEnd else pure ByteArray.empty
  let (ending, console) := CommandLine.run arguments
    { environment := {
        chunkSize := ← setting? "BRAINF_CHUNK_SIZE"
        encoding := ← setting? "BRAINF_ENCODING" }
      stdin := stdin.toList
      file := fun path => (files.lookup path).getD (.error (.file (.notFound path)))
      stamp := Text.natural (← IO.monoMsNow)
      budget := Nat.pow 2 62 }
  (← IO.getStdout).write ⟨console.out⟩
  (← IO.getStderr).write ⟨console.err⟩
  match ending with
  | .ok status => return UInt32.ofNat status.code
  | .error f => do
    IO.eprintln f.message.toString
    return 1
