/-
  Console — what a command writes, and how it can end early.

  A command writes bytes to two streams: its result to the output, and everything about its work to the
  side.  A `Job` is a piece of work that writes and may fail; what was written before a failure stays
  written.
-/
import TapeLang.Failure
import TapeLang.Log

namespace TapeLang

/-- The two streams, as far as they are written. -/
structure Console where
  /-- The output. -/
  out : Array UInt8 := #[]
  /-- The side stream. -/
  err : Array UInt8 := #[]
  deriving DecidableEq

/-- A piece of work that writes to the console and may fail. -/
abbrev Job := ExceptT Failure (StateM Console)

/-- The UTF-8 bytes of a text in which lone surrogates are written by their numbers. -/
def Text.legibleBytes (t : Text) : List UInt8 :=
  t.flatMap fun c =>
    match Encoding.utf8.unit? c with
    | some bs => bs
    | none => c.byNumber.flatMap fun d => utf8Bytes d.val

namespace Job

/-- Writes bytes to the output. -/
def write (bytes : List UInt8) : Job Unit := modify fun c => { c with out := c.out ++ bytes }

/-- Writes a line to the output.  A line that UTF-8 cannot write is a failure. -/
def print (line : Text) : Job Unit :=
  match Encoding.utf8.encode line with
  | .ok bytes => write (bytes ++ [10])
  | .error e => throw (.encoding e)

/-- Writes a line to the side stream. -/
def report (line : Text) : Job Unit :=
  modify fun c => { c with err := c.err ++ Text.legibleBytes (line ++ "\n") }

/-- Writes lines of the log to the side stream, those of the given level or above, after a time stamp. -/
def log (stamp : Text) (level : LogLevel) (lines : List LogLine) : Job Unit :=
  (lines.filter fun l => level.rank ≤ l.level.rank).forM fun l => report (stamp ++ " - " ++ l.text)

/-! ## What a job leaves behind -/

/-- The result of a job, and the console after it. -/
def after {α : Type} (job : Job α) (c : Console) : Except Failure α × Console := (ExceptT.run job).run c

@[simp] theorem after_pure {α : Type} (a : α) (c : Console) :
    after (pure a : Job α) c = (.ok a, c) := rfl

@[simp] theorem after_throw {α : Type} (f : Failure) (c : Console) :
    after (throw f : Job α) c = (.error f, c) := rfl

/-- One job after another: the second starts with the console that the first leaves behind, and does not
    start at all if the first fails. -/
theorem after_bind {α β : Type} (job : Job α) (next : α → Job β) (c : Console) :
    after (job >>= next) c =
      match after job c with
      | (.ok a, c) => after (next a) c
      | (.error f, c) => (.error f, c) := by
  show (ExceptT.run (job >>= next)).run c = _
  rw [ExceptT.run_bind, StateT.run_bind]
  unfold after
  rcases (ExceptT.run job).run c with ⟨_ | _, _⟩ <;> rfl

@[simp] theorem after_write (bytes : List UInt8) (c : Console) :
    after (write bytes) c = (.ok (), { c with out := c.out ++ bytes }) := rfl

@[simp] theorem after_report (line : Text) (c : Console) :
    after (report line) c =
      (.ok (), { c with err := c.err ++ Text.legibleBytes (line ++ "\n") }) := rfl

/-- A line that UTF-8 can write is written, with a line feed. -/
theorem after_print {line : Text} {bytes : List UInt8} (h : Encoding.utf8.encode line = .ok bytes)
    (c : Console) : after (print line) c = (.ok (), { c with out := c.out ++ (bytes ++ [10]) }) := by
  rw [print, h]
  rfl

end Job

end TapeLang
