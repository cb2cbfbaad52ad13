/-
  Error — what is wrong with a document, and where.

  Most errors have two halves: what was being read and where it began, and what was met instead and
  where.  Both places are printed, unless they are one.
-/
import TapeLang.Failure

namespace TapeLang.Yaml

/-- A place in a document, counted from zero. -/
structure Mark where
  /-- The line. -/
  line : Nat
  /-- The column. -/
  column : Nat
  deriving DecidableEq

/-- The place as a line of a message; people count from one. -/
def Mark.text (m : Mark) (document : Text) : Text :=
  "  in \"" ++ document ++ "\", line " ++ Text.natural (m.line + 1) ++ ", column " ++
    Text.natural (m.column + 1)

/-- A violation of the rules of the format. -/
structure Complaint where
  /-- What was being read. -/
  context : Option Text := none
  /-- Where that began. -/
  contextMark : Option Mark := none
  /-- What is wrong. -/
  problem : Text
  /-- Where that is. -/
  mark : Mark

/-- The message of a complaint about a document of the given name. -/
def Complaint.message (c : Complaint) (document : Text) : Text :=
  let before := match c.contextMark with
    | some m => if m = c.mark then [] else [m.text document]
    | none => []
  Text.join "\n" (c.context.toList ++ before ++ [c.problem, c.mark.text document])

/-- Why a document cannot be read. -/
inductive Error where
  /-- It breaks the rules of the format. -/
  | complaint (c : Complaint)
  /-- The code point at an index may not stand in a document. -/
  | unreadable (c : CodePoint) (index : Nat)
  /-- A value that it writes does not exist. -/
  | value (f : Failure)

/-- The failure to read a document of the given name. -/
def Error.failure (document : Text) : Error → Failure
  | complaint c => .document (c.message document)
  | unreadable c index =>
    .document ("unacceptable character #x" ++ Text.hex 4 c.val ++
      ": special characters are not allowed\n  in \"" ++ document ++ "\", position " ++
      Text.natural index)
  | value f => f

/-- A complaint with both halves. -/
def Error.during (context : Text) (start : Mark) (problem : Text) (mark : Mark) : Error :=
  .complaint { context := some context, contextMark := some start, problem, mark }

/-- A complaint without a context. -/
def Error.plain (problem : Text) (mark : Mark) : Error := .complaint { problem, mark }

end TapeLang.Yaml
