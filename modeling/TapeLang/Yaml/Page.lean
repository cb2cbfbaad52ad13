/-
  Page — what of a file is a document's text.

  A page is looked at when it is read: a sign that may not stand in a document makes the whole page
  unreadable.  The first two pages are read at once, and every other page when a reader of the document
  looks at its first sign.  So what is wrong with a page shows only to those who find nothing wrong before
  they have to look that far.
-/
import TapeLang.Encoding.Paged
import TapeLang.Yaml.Input

namespace TapeLang.Yaml

/-- The text of some pages up to the first one that is unreadable, and why it is; `index` is the number
    of signs before them. -/
def readablePages (index : Nat) : List Text → Text × Option Error
  | [] => ([], none)
  | page :: rest =>
    match unreadable? index page with
    | some e => ([], some e)
    | none =>
      let (more, e) := readablePages (index + page.length) rest
      (page ++ more, e)

/-- The pages of which the first two are one. -/
def openingJoined : List Text → List Text
  | first :: second :: rest => (first ++ second) :: rest
  | pages => pages

/-- The text of the bytes of a file, as far as it can be read, and what comes behind it if that is not the
    end of the file. -/
def readable (bytes : List UInt8) : Text × Option Error :=
  let (pages, stop) := Paged.pages bytes
  let stop : Option Error := stop.map fun e => .value (.decoding e)
  if stop.isSome && pages.length < 2 then ([], stop)
  else
    let (text, e) := readablePages 0 (openingJoined pages)
    (text, e.or stop)

end TapeLang.Yaml
