/-
  Folder — the files that a command can read.

  A folder is a list of files with their paths; a path names its directories too.  Finding a file means
  to walk its path part by part, so a part that is missing, a directory at the end and a file on the way
  are told apart.  Of the system around a folder little is known: what every system has.
-/
import TapeLang.Failure

namespace TapeLang

/-- A file: its path, part by part, and its contents. -/
structure File where
  /-- The names on the way to the file, and its own. -/
  path : List Text
  /-- The contents. -/
  contents : List UInt8

/-- The files below a directory. -/
abbrev Folder := List File

/-- The parts of a path; a path that ends with a slash has an empty last part. -/
def Text.parts (path : Text) : List Text := path.splitOn (CodePoint.ofChar '/')

/-- What stands at a place below a directory. -/
inductive Entry where
  /-- Nothing. -/
  | missing
  /-- A directory. -/
  | directory
  /-- A file with its contents. -/
  | file (contents : List UInt8)

namespace Folder

/-- A folder of files with the given paths. -/
def ofFiles (files : List (Text × List UInt8)) : Folder :=
  files.map fun f => ⟨(Text.parts f.1).filter fun p => !p.isEmpty && p != ".", f.2⟩

/-- What stands at a place, given by the parts of its path without empty ones and dots. -/
def entry (folder : Folder) (path : List Text) : Entry :=
  match folder.find? (·.path == path) with
  | some f => .file f.contents
  | none =>
    if path.isEmpty || folder.any fun f => path.length < f.path.length && f.path.take path.length == path
    then .directory else .missing

/-- The greatest number of bytes of a name. -/
def maxNameBytes : Nat := 255

/-- The greatest number of bytes of a path. -/
def maxPathBytes : Nat := 4095

/-- The number of bytes of a name. -/
def byteCount (name : Text) : Nat := (name.flatMap fun c => (pathUnit? c).getD []).length

/-- Walks along the parts of a path from the place `here`, which is a directory.  Two dots lead back,
    and at the top they lead out of the folder, where nothing is known to be. -/
def walk (folder : Folder) (shown : Text) (here : List Text) :
    List Text → Except FileError (List UInt8)
  | [] => .error (.isDirectory shown)
  | part :: rest =>
    if part.isEmpty || part == "." then folder.walk shown here rest
    else if part == ".." then
      if here.isEmpty then .error (if rest.all (·.isEmpty) then .isDirectory shown else .notFound shown)
      else folder.walk shown here.dropLast rest
    else if maxNameBytes < byteCount part then .error (.tooLong shown)
    else
      match folder.entry (here ++ [part]) with
      | .missing => .error (.notFound shown)
      | .directory => folder.walk shown (here ++ [part]) rest
      | .file contents => if rest.isEmpty then .ok contents else .error (.notDirectory shown)

/-- What every system has at its root: an empty file, and some directories.  A directory of which nothing
    more is known is written down by a file without a name. -/
def everywhere : Folder :=
  ofFiles [("dev/null", [])] ++
    (["bin", "boot", "etc", "home", "lib", "media", "mnt", "opt", "proc", "root", "run", "sbin", "srv", "sys",
      "tmp", "usr", "var"] : List Text).map fun name => ⟨[name, []], []⟩

/-- Reads the file at a path.  A path that starts with a slash leads to the files of the system. -/
def read (folder : Folder) (path : Text) : Except Failure (List UInt8) := do
  let bytes ← path.pathBytes.mapError Failure.encoding
  if path.any (·.is '\x00') then throw (.file .nulInPath)
  if maxPathBytes < bytes.length then throw (.file (.tooLong path))
  match path.parts with
  | [[]] | [] => throw (.file (.notFound path))
  | [] :: rest => (everywhere.walk path [] rest).mapError Failure.file
  | first :: rest => (folder.walk path [] (first :: rest)).mapError Failure.file

end Folder

end TapeLang
