/-
  Paged — a file of UTF-8 text, read page by page.

  Bytes come in blocks and characters go in pages, and neither is a multiple of the other.  A block is read
  only when there are not characters enough for the next page; it is larger than usual if the last block
  has shown that characters take more than two bytes each.  The bytes of a character that is cut off at
  the end of a block go in front of the next one, and places in an error message count from there.

  Lines may end with a carriage return, with a line feed, or with both.  Each of these is one line feed in
  the text, so a carriage return at the end of a block waits for what follows it.

  Because a file is read as far as it is needed and no further, bytes that are no text matter only to
  those who get there: the pages before them can be read.
-/
import TapeLang.Encoding.Utf8

namespace TapeLang.Paged

/-- A file being read. -/
structure Reader where
  /-- The bytes not read yet. -/
  rest : List UInt8
  /-- The bytes of a character that is cut off. -/
  cut : List UInt8 := []
  /-- Whether a carriage return waits for what follows it. -/
  returned : Bool := false
  /-- The characters read and not handed out yet. -/
  ready : Text := []
  /-- The bytes and the characters of the last block. -/
  last : Nat × Nat := (0, 0)

/-- The text with one line feed for every carriage return, the line feed behind it included; `returned`
    is whether a carriage return stands in front. -/
def withLineFeeds (returned : Bool) : Text → Text
  | [] => []
  | c :: rest =>
    if c.is '\r' then '\n' :: withLineFeeds true rest
    else if returned && c.is '\n' then withLineFeeds false rest
    else c :: withLineFeeds false rest

namespace Reader

/-- The number of characters in a page. -/
def pageSize : Nat := 4096

/-- The least number of bytes in a block. -/
def leastBlock : Nat := 8192

/-- The size of the next block, when so many characters are needed. -/
def blockSize (r : Reader) (needed : Nat) : Nat :=
  let (bytes, chars) := r.last
  max leastBlock (if chars < bytes then needed * bytes / chars else needed)

/-- Reads a block, and more blocks until a page is ready, or the file is at its end; `fuel` bounds the
    number of blocks. -/
def prepare : (fuel : Nat) → Reader → Except Utf8.Error Reader
  | 0, r => .ok r
  | fuel + 1, r =>
    if pageSize ≤ r.ready.length then .ok r
    else if r.rest.isEmpty then
      if r.cut.isEmpty then
        let held : Text := if r.returned then ['\n'] else []
        .ok { r with ready := r.ready ++ held, returned := false }
      else .error (.ofCut 0 r.cut)
    else do
      let size := r.blockSize (pageSize - r.ready.length)
      let block := r.rest.take size
      let (found, cut) ← Utf8.readFrom 0 0 [] (r.cut ++ block)
      let waits := if found.isEmpty then r.returned else found.head?.any (·.is '\r')
      let held : Text := if r.returned then ['\r'] else []
      let text := if found.isEmpty then [] else
        withLineFeeds false (held ++ (if waits then found.tail else found).reverse)
      prepare fuel { r with
        rest := r.rest.drop size, cut, returned := waits, ready := r.ready ++ text
        last := (block.length, text.length) }

/-- The pages of a file, up to the first that cannot be read; `fuel` bounds their number. -/
def pages : (fuel : Nat) → Reader → List Text × Option Utf8.Error
  | 0, _ => ([], none)
  | fuel + 1, r =>
    match r.prepare (r.rest.length + 1) with
    | .error e => ([], some e)
    | .ok r =>
      if r.ready.isEmpty then ([], none)
      else
        let (more, e) := pages fuel { r with ready := r.ready.drop pageSize }
        (r.ready.take pageSize :: more, e)

end Reader

/-- The pages of the file with some bytes, and what is wrong behind the last one. -/
def pages (bytes : List UInt8) : List Text × Option Utf8.Error :=
  Reader.pages (bytes.length + 1) { rest := bytes }

example : (pages [0x61, 0x0D, 0x0A, 0x0D, 0x62, 0x0D]).1 = [Text.ofString "a\n\nb\n"] := by decide +kernel

end TapeLang.Paged
