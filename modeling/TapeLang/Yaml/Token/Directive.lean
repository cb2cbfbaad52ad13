/-
  Directive — the lines before a document that start with a percent sign.

  The version of the format and handles for tags are understood; every other directive is passed over.
-/
import TapeLang.Yaml.Token.Property
import TapeLang.Yaml.Token.Scalar
import TapeLang.Text.Numeral

namespace TapeLang.Yaml

/-- A complaint about a directive. -/
def Input.directiveError (r : Input) (start : Mark) (problem : Text) : Error :=
  .during "while scanning a directive" start (problem ++ signText r.current) r.mark

/-- Reads one of the two numbers of a version. -/
def versionNumber (start : Mark) (r : Input) : Except Error (Int × Input) := do
  let (digits, rest) ← r.takeWhile isAsciiDigit
  if digits.isEmpty then throw (r.directiveError start "expected a digit, but found ")
  match digits.toInteger with
  | .ok n => return (n, rest)
  | .error e => throw (.value (.numeral digits e))

/-- Reads the version behind its name. -/
def version (start : Mark) (r : Input) : Except Error (Directive × Input) := do
  let (major, r) ← versionNumber start (← r.spaces)
  if !r.starts '.' then throw (r.directiveError start "expected a digit or '.', but found ")
  let (minor, r) ← versionNumber start (← r.next)
  if !endsWord r.current then throw (r.directiveError start "expected a digit or ' ', but found ")
  return (.version major minor, r)

/-- Reads a handle and what it stands for. -/
def handle (start : Mark) (r : Input) : Except Error (Directive × Input) := do
  let (name, r) ← tagHandle "directive" start (← r.spaces)
  if !r.starts ' ' then throw (r.directiveError start "expected ' ', but found ")
  let (stem, r) ← tagSuffix "directive" start (← r.spaces)
  if !endsWord r.current then throw (r.directiveError start "expected ' ', but found ")
  return (.handle name stem, r)

/-- Reads a directive to the end of its line. -/
def directive (r : Input) : Except Error (Directive × Input) := do
  let start := r.mark
  let (name, r) ← (← r.next).takeWhile isWordSign
  if name.isEmpty || !endsWord r.current then
    throw (r.directiveError start "expected alphabetic or numeric character, but found ")
  let (d, r) ←
    if name == "YAML" then version start r
    else if name == "TAG" then handle start r
    else do pure (.other, ← r.restOfLine)
  return (d, ← blankRest "while scanning a directive" start r)

end TapeLang.Yaml
