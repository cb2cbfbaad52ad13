/-
  Token — the words of a document.

  Between the text of a document and its structure lies a row of tokens.  Most stand for signs on the
  page.  Three do not: a block sequence or mapping starts where a line is indented further than the one
  around it, and a block ends where the indentation falls back.
-/
import TapeLang.Yaml.Error

namespace TapeLang.Yaml

/-- A line that starts with a percent sign. -/
inductive Directive where
  /-- The version of the format. -/
  | version (major minor : Int)
  /-- A handle for tags, and what it stands for. -/
  | handle (name stem : Text)
  /-- Anything else; it means nothing. -/
  | other

/-- A tag as it is written: perhaps a handle, and what follows it. -/
structure TagName where
  /-- The handle. -/
  handle : Option Text
  /-- What follows it. -/
  suffix : Text

/-- The kinds of tokens. -/
inductive TokenKind where
  /-- The end of the text. -/
  | streamEnd
  /-- A directive. -/
  | directive (d : Directive)
  /-- The line `---`. -/
  | documentStart
  /-- The line `...`. -/
  | documentEnd
  /-- The start of a block sequence. -/
  | blockSequenceStart
  /-- The start of a block mapping. -/
  | blockMappingStart
  /-- The end of a block. -/
  | blockEnd
  /-- An opening square bracket. -/
  | flowSequenceStart
  /-- A closing square bracket. -/
  | flowSequenceEnd
  /-- An opening curly bracket. -/
  | flowMappingStart
  /-- A closing curly bracket. -/
  | flowMappingEnd
  /-- A key follows. -/
  | key
  /-- A colon before a value. -/
  | value
  /-- A hyphen before an entry. -/
  | blockEntry
  /-- A comma. -/
  | flowEntry
  /-- A reference to an anchor. -/
  | reference (name : Text)
  /-- A name for a node. -/
  | anchor (name : Text)
  /-- A tag. -/
  | tag (t : TagName)
  /-- A scalar; a plain one stands without quotation marks. -/
  | scalar (text : Text) (plain : Bool)

/-- What a token is called in a message. -/
def TokenKind.name : TokenKind → Text
  | streamEnd => "<stream end>"
  | directive _ => "<directive>"
  | documentStart => "<document start>"
  | documentEnd => "<document end>"
  | blockSequenceStart => "<block sequence start>"
  | blockMappingStart => "<block mapping start>"
  | blockEnd => "<block end>"
  | flowSequenceStart => "["
  | flowSequenceEnd => "]"
  | flowMappingStart => "\x7b"
  | flowMappingEnd => "\x7d"
  | key => "?"
  | value => ":"
  | blockEntry => "-"
  | flowEntry => ","
  | reference _ => "<alias>"
  | anchor _ => "<anchor>"
  | tag _ => "<tag>"
  | scalar .. => "<scalar>"

/-- A token and the place where it starts. -/
structure Token where
  /-- What it is. -/
  kind : TokenKind
  /-- Where it starts. -/
  mark : Mark

end TapeLang.Yaml
