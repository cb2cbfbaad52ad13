/-
  Verdict — what became of a case.

  A case passes if it expects no fault and the program has exactly the expected output, or if it expects
  a fault and the program ends with one that the expected kind covers.  The program is read as UTF-8
  whatever the settings say, for it was made bytes when the suite was loaded; an input that is a text is
  encoded as the settings say.

  `Case.judge` is `run_case`, with `Case.expects` for a run that raises an error and `Case.accepts` for
  one that does not; a verdict is a `CaseResult`.
-/
import TapeLang.Machine
import TapeLang.Suite.Case

namespace TapeLang

/-- What became of a case. -/
structure Verdict where
  /-- The case. -/
  case : Case
  /-- Whether it passed. -/
  passed : Bool
  /-- The output or the fault of the program. -/
  outcome : Except Fault (List UInt8)
  /-- What the machine wrote to the log. -/
  log : List LogLine := []

/-- The bytes of a value that is a byte string. -/
def Value.bytes? : Value → Option (List UInt8)
  | .bytes bs | .buffer bs => some bs
  | _ => none

/-- Whether a fault is the one that a case expects.  A case put together by hand may expect something
    that is no kind of fault. -/
def Case.expects (c : Case) (f : Fault) : Except Failure Bool :=
  match c.fault with
  | .null => .ok false
  | v =>
    match v.changeable? with
    | some part => .error (.unhashable part.typeName)
    | none =>
      match v with
      | .text t =>
        match FaultKind.named? t with
        | some k => .ok (k.covers f.kind)
        | none => .error (.notInTable v)
      | _ => .error (.notInTable v)

/-- Whether an output is the one that a case expects. -/
def Case.accepts (c : Case) (output : List UInt8) : Bool :=
  (match c.fault with
    | .null => true
    | _ => false) && c.expected.bytes? == some output

/-- Runs a case. -/
def Case.judge [Codecs] (budget : Nat) (s : Settings) (c : Case) : Except Failure Verdict :=
  match Program.ofValue "utf-8" c.program with
  | .error (.fault f) => do return { case := c, passed := ← c.expects f, outcome := .error f }
  | .error e => .error e
  | .ok p => do
    let input ← s.bytesOf c.input
    let ending := p.run budget s.chunk input
    let log := ending.log p input
    match ending.result with
    | .ok output => return { case := c, passed := c.accepts output, outcome := .ok output, log }
    | .error (.fault f) =>
      return { case := c, passed := ← c.expects f, outcome := .error f, log }
    | .error e => .error e

namespace Verdict

/-- What the program did, in words. -/
def got (v : Verdict) : Text :=
  match v.outcome with
  | .ok output => Text.quotedBytes output
  | .error f => f.summary

/-- What the case expects, in words. -/
def want (v : Verdict) : Text :=
  match v.case.fault with
  | .null => v.case.expected.literal
  | fault => fault.shown

/-- The verdict in one line. -/
def describe (v : Verdict) : Text := "expected " ++ v.want ++ ", got " ++ v.got

/-- The lines that a case leaves in the log: those of the machine, and a warning if it failed. -/
def lines (v : Verdict) : List LogLine :=
  v.log ++ if v.passed then [] else
    [⟨.suite, .warning, "Case " ++ v.case.name.shown ++ " failed: " ++ v.describe⟩]

end Verdict

end TapeLang
