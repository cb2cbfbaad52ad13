/-
  Grammar — how the arguments of a command are read.

  A command has **switches**, which start with a hyphen, and one **operand**, which is what is left.  A
  switch may be shortened as long as no other one starts the same way; its value is the next argument, or
  stands behind an equals sign, or right behind a switch of one letter.  Two hyphens alone end the
  switches.  Two hyphens in the place of a value in the same argument say that there is none: the switch
  is given, but blank.

  All arguments are told apart first (`Grammar.word`), by their looks alone; only then are they taken
  from left to right (`Grammar.take`), and the first thing that is wrong decides.  What no rule takes is
  left over and not an error here: another command may know it.
-/
import TapeLang.Text.Digit
import TapeLang.Text.Quoted

namespace TapeLang.CommandLine

/-! ## Grammars -/

/-- What is known of the value of a switch. -/
inductive Given (β : Type) where
  /-- The switch is not there. -/
  | absent
  /-- The switch is there and has no value. -/
  | blank
  /-- The switch has a value. -/
  | value (b : β)
  deriving DecidableEq

/-- The value of a switch, or the usual one if the switch is not there; nothing if it is blank. -/
def Given.orUsual {β : Type} (usual : β) : Given β → Option β
  | absent => some usual
  | blank => none
  | value b => some b

/-- What a switch does to what has been read; a text says what is wrong with its value. -/
inductive Role (α : Type) where
  /-- Asks for help. -/
  | help
  /-- Takes a value, or is blank.  A value that is the usual one counts as not given. -/
  | value (set : Text → α → Except Text α) (blank : α → α) (isUsual : Text → Bool)

/-- A switch. -/
structure Switch (α : Type) where
  /-- The ways to write it. -/
  spellings : List Text
  /-- What it does. -/
  role : Role α

/-- The name of a switch in messages. -/
def Switch.name {α : Type} (s : Switch α) : Text := Text.join "/" s.spellings

/-- How many arguments an operand is. -/
inductive Count where
  /-- One or none. -/
  | optional
  /-- One or more. -/
  | several
  /-- One, and all that follows it, switches too. -/
  | rest
  deriving DecidableEq

/-- What is left of the arguments when the switches are gone. -/
structure Operand (α : Type) where
  /-- The name in messages. -/
  name : Text
  /-- How many arguments it is. -/
  count : Count
  /-- What it does to what has been read. -/
  set : List Text → α → Except Text α

/-- Arguments of which at most one may be given. -/
structure Exclusion where
  /-- Their names. -/
  members : List Text
  /-- Whether one has to be given. -/
  required : Bool := false

/-- How the arguments of a command are read. -/
structure Grammar (α : Type) where
  /-- The switches. -/
  switches : List (Switch α)
  /-- The operand. -/
  operand : Operand α
  /-- What excludes what. -/
  exclusions : List Exclusion := []

/-- Why arguments are not taken. -/
inductive Refusal where
  /-- Help is asked for. -/
  | help
  /-- Something is wrong. -/
  | misuse (message : Text)

/-! ## Telling arguments apart -/

/-- An argument by its looks. -/
inductive Word (α : Type) where
  /-- No switch. -/
  | argument (t : Text)
  /-- Two hyphens. -/
  | separator
  /-- It looks like a switch, but it is none. -/
  | unknown (t : Text)
  /-- A switch, in one of its spellings, perhaps with its value. -/
  | switch (t : Text) (s : Switch α) (spelling : Text) (value : Option Text)

/-- The argument as it is given. -/
def Word.text {α : Type} : Word α → Text
  | argument t | unknown t | switch t .. => t
  | separator => "--"

/-- The text before the first equals sign, and the text behind it. -/
def splitValue (t : Text) : Text × Option Text :=
  let stem := t.takeWhile fun c => !c.is '='
  match t.drop stem.length with
  | [] => (stem, none)
  | _ :: value => (stem, some value)

/-- A minus sign with digits behind it, among which there may be a point, but not at the end.  A line
    feed at the end does not count. -/
def isNegativeNumber (t : Text) : Bool :=
  let t := if t.getLast?.any (·.is '\n') then t.dropLast else t
  match t with
  | [] => false
  | sign :: body =>
    let whole := body.takeWhile CodePoint.isDigit
    sign.is '-' &&
      match body.drop whole.length with
      | [] => !whole.isEmpty
      | point :: fraction => point.is '.' && !fraction.isEmpty && fraction.all CodePoint.isDigit

namespace Grammar

variable {α : Type}

/-- All spellings with their switches. -/
def spellings (g : Grammar α) : List (Text × Switch α) :=
  g.switches.flatMap fun s => s.spellings.map fun t => (t, s)

/-- The switch of a spelling. -/
def find? (g : Grammar α) (spelling : Text) : Option (Switch α) :=
  (g.spellings.find? (·.1 == spelling)).map (·.2)

/-- The switches that an argument could mean: those that it shortens, or the one of one letter that it
    starts with. -/
def candidates (g : Grammar α) (t : Text) : List (Word α) :=
  if (Text.ofString "--").isPrefixOf t then
    let (stem, value) := splitValue t
    (g.spellings.filter fun s => stem.isPrefixOf s.1).map fun s => .switch t s.2 s.1 value
  else
    g.spellings.filterMap fun s =>
      if s.1 == t.take 2 then some (.switch t s.2 s.1 (some (t.drop 2)))
      else if t.isPrefixOf s.1 then some (.switch t s.2 s.1 none)
      else none

/-- What an argument looks like. -/
def word (g : Grammar α) (t : Text) : Except Refusal (Word α) :=
  let (stem, value) := splitValue t
  if !t.head?.any (·.is '-') then .ok (.argument t)
  else
    match g.find? t, value, g.find? stem with
    | some s, _, _ => .ok (.switch t s t none)
    | none, some v, some s => .ok (.switch t s stem (some v))
    | none, _, _ =>
      if t.length = 1 then .ok (.argument t)
      else
        match g.candidates t with
        | [w] => .ok w
        | [] =>
          if isNegativeNumber t || t.any (·.is ' ') then .ok (.argument t) else .ok (.unknown t)
        | ws =>
          let names := ws.filterMap fun
            | .switch _ _ spelling _ => some spelling
            | _ => none
          .error (.misuse ("ambiguous option: " ++ t ++ " could match " ++ Text.join ", " names))

/-- What the arguments look like.  Behind two hyphens no switches are looked for. -/
def words (g : Grammar α) : List Text → Except Refusal (List (Word α))
  | [] => .ok []
  | t :: rest =>
    if t == "--" then .ok (.separator :: rest.map .argument)
    else do return (← g.word t) :: (← g.words rest)

end Grammar

/-! ## Taking arguments -/

/-- How far the arguments are read. -/
structure Progress (α : Type) where
  /-- What has been read. -/
  result : α
  /-- The names of what was given, except for usual values. -/
  given : List Text := []
  /-- Whether the operand is read. -/
  operandRead : Bool := false
  /-- What nobody took. -/
  left : List Text := []

/-- A complaint about an argument. -/
def complaint (name problem : Text) : Refusal := .misuse ("argument " ++ name ++ ": " ++ problem)

/-- A value where none belongs. -/
def ignoredValue (name value : Text) : Refusal :=
  complaint name ("ignored explicit argument " ++ value.quoted)

/-- No value where one belongs. -/
def missingValue (name : Text) : Refusal := complaint name "expected one argument"

/-- Whether the first of some words is an argument. -/
def startsWithArgument {α : Type} : List (Word α) → Bool
  | .argument _ :: _ => true
  | _ => false

namespace Word

variable {α : Type}

/-- The argument that a word is. -/
def argument? : Word α → Option Text
  | argument t => some t
  | _ => none

/-- Two hyphens. -/
def isSeparator : Word α → Bool
  | separator => true
  | _ => false

/-- An argument, or two hyphens. -/
def isPlain : Word α → Bool
  | argument _ | separator => true
  | _ => false

end Word

namespace Count

variable {α : Type}

/-- Takes an operand from the front of some words: its arguments, and how many words it takes.  Two
    hyphens are no argument, but what takes everything takes them too. -/
def take (c : Count) (ws : List (Word α)) : Option (List Text × Nat) :=
  let front := ws.takeWhile (·.isSeparator)
  let behind := ws.drop front.length
  match c with
  | optional =>
    let one := (behind.take 1).takeWhile (·.argument?.isSome)
    let back := (behind.drop one.length).takeWhile (·.isSeparator)
    let size := front.length + one.length + back.length
    if size = 0 then none else some ((ws.take size).filterMap (·.argument?), size)
  | several =>
    let run := ws.takeWhile (·.isPlain)
    if startsWithArgument behind then some (run.filterMap (·.argument?), run.length) else none
  | rest =>
    if startsWithArgument behind then some (ws.map (·.text), ws.length) else none

end Count

namespace Grammar

variable {α : Type}

/-- Notes that an argument is given, unless it excludes another one. -/
def note (g : Grammar α) (name : Text) (p : Progress α) : Except Refusal (Progress α) :=
  let rivals := (g.exclusions.filter fun e => e.members.contains name).flatMap (·.members)
  match rivals.find? fun r => r != name && p.given.contains r with
  | some r => .error (complaint name ("not allowed with argument " ++ r))
  | none => .ok { p with given := name :: p.given }

/-- A switch that asks for help, with something right behind it: switches of one letter, perhaps, the
    last of them with its value.  Help it is in the end, unless something is wrong. -/
def helpWith (g : Grammar α) (argumentNext : Bool) (s : Switch α) : Text → Refusal
  | [] => ignoredValue s.name []
  | c :: rest =>
    match g.find? ['-', c] with
    | none => ignoredValue s.name (c :: rest)
    | some t =>
      match t.role with
      | .value .. => if rest.isEmpty && !argumentNext then missingValue t.name else .help
      | .help => if rest.isEmpty then .help else g.helpWith argumentNext t rest

/-- Takes a switch; how many of the words behind it belong to it. -/
def takeSwitch (g : Grammar α) (s : Switch α) (spelling : Text) (value : Option Text)
    (behind : List (Word α)) (p : Progress α) : Except Refusal (Progress α × Nat) :=
  match s.role with
  | .help =>
    match value with
    | none => .error .help
    | some t =>
      if (Text.ofString "--").isPrefixOf spelling then .error (ignoredValue s.name t)
      else .error (g.helpWith (startsWithArgument behind) s t)
  | .value set blank isUsual => do
    let (t, size) ← match value, behind with
      | some t, _ => pure (t, 0)
      | none, .argument t :: _ => pure (t, 1)
      | none, _ => throw (missingValue s.name)
    if value == some "--" then
      let p ← g.note s.name p
      return ({ p with result := blank p.result }, size)
    let result ← (set t p.result).mapError (complaint s.name)
    let p ← if isUsual t then pure p else g.note s.name p
    return ({ p with result }, size)

/-- Takes the operand, given its arguments. -/
def takeOperand (g : Grammar α) (arguments : List Text) (p : Progress α) :
    Except Refusal (Progress α) := do
  let p := { p with operandRead := true }
  if arguments.isEmpty then return p
  let result ← (g.operand.set arguments p.result).mapError (complaint g.operand.name)
  let p ← g.note g.operand.name p
  return { p with result }

/-- Takes words from left to right; `fuel` is their number. -/
def take (g : Grammar α) : Nat → List (Word α) → Progress α → Except Refusal (Progress α)
  | 0, _, p => .ok p
  | _ + 1, [], p => .ok p
  | fuel + 1, w :: ws, p =>
    let leave : Except Refusal (Progress α) := g.take fuel ws { p with left := p.left ++ [w.text] }
    match w with
    | .unknown _ => leave
    | .switch _ s spelling value => do
      let (p, size) ← g.takeSwitch s spelling value ws p
      g.take fuel (ws.drop size) p
    | .argument _ | .separator =>
      if p.operandRead then leave
      else
        match g.operand.count.take (w :: ws) with
        | none => leave
        | some (arguments, size) => do
          let p ← g.takeOperand arguments p
          g.take fuel ((w :: ws).drop size) p

/-- What is missing when all words are taken. -/
def missing (g : Grammar α) (p : Progress α) : Option Refusal :=
  if g.operand.count ≠ .optional ∧ !p.operandRead then
    some (.misuse ("the following arguments are required: " ++ g.operand.name))
  else
    (g.exclusions.find? fun e => e.required && !e.members.any p.given.contains).map fun e =>
      .misuse ("one of the arguments " ++ Text.join " " e.members ++ " is required")

/-- Reads arguments, beginning with what is meant if there are none.  The result comes with the
    arguments that nobody took. -/
def read (g : Grammar α) (usual : α) (arguments : List Text) : Except Refusal (α × List Text) := do
  let ws ← g.words arguments
  let p ← g.take ws.length ws { result := usual }
  match g.missing p with
  | some r => throw r
  | none => return (p.result, p.left)

end Grammar

end TapeLang.CommandLine
