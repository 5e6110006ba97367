/-! # File systems

  A file system holds files and directories at places, and a working directory.
  A place is the list of names that leads to it from the root; a path is text,
  which is followed name by name. What following a path finds, and each way in
  which it can fail, is a function of the file system alone.

  Paths are those of Unix: their parts are divided by slashes only, and there are
  no drives. There are no links, so that a place has one path without dots, and no
  permissions, so that everything there is can be read and written. That a system
  denies a permission is an error with a name all the same, for whoever knows more
  about a disk than what is on it.
-/

namespace Netlister

/-- The names that lead from the root to a file or directory. -/
abbrev Place := List String

/-- What is at a place. -/
inductive Entry where
  | file (content : ByteArray)
  | directory

/-- Files and directories. -/
structure FileSystem where
  /-- Where paths that do not start at the root start. -/
  workingDirectory : Place
  /-- What there is below the root; the root itself is a directory. -/
  entries : List (Place × Entry)

/-- Why a file or directory cannot be reached, read or written. -/
inductive FileError where
  | notFound
  | notADirectory
  | isADirectory
  | nameTooLong
  /-- The path holds a NUL, which no name can. -/
  | nulInPath
  /-- The file holds something else than text. -/
  | notText
  /-- The system does not let the program do this. -/
  | permissionDenied
deriving DecidableEq

/-- The message for an error. -/
def FileError.message : FileError → String
  | notFound => "No such file or directory (os error 2)"
  | notADirectory => "Not a directory (os error 20)"
  | isADirectory => "Is a directory (os error 21)"
  | nameTooLong => "File name too long (os error 36)"
  | nulInPath => "file name contained an unexpected NUL byte"
  | notText => "stream did not contain valid UTF-8"
  | permissionDenied => "Permission denied (os error 13)"

namespace FileSystem

/-! ### Places -/

/-- What is at a place. -/
def entry? (fs : FileSystem) (place : Place) : Option Entry :=
  if place = [] then some .directory else fs.entries.lookup place

/-- Whether there is a directory at a place. -/
def isDirectory (fs : FileSystem) (place : Place) : Bool :=
  match fs.entry? place with
  | some .directory => true
  | _ => false

/-- The file system with something else at a place. -/
def set (fs : FileSystem) (place : Place) (entry : Entry) : FileSystem :=
  { fs with entries := (place, entry) :: fs.entries.filter (·.1 ≠ place) }

/-! ### Paths -/

/-- The longest name of a file, in bytes. -/
def maxNameBytes : Nat := 255

/-- The longest path, in bytes. -/
def maxPathBytes : Nat := 4095

/-- The parts of a path between its slashes. -/
def splitPath : List Char → List (List Char)
  | [] => [[]]
  | c :: cs =>
    if c = '/' then [] :: splitPath cs
    else match splitPath cs with
      | part :: parts => (c :: part) :: parts
      | [] => [[c]]

/-- Follows one part of a path. Only a directory can be followed further; an
    empty part and a dot stay in it, two dots go up. -/
def follow (fs : FileSystem) (place : Place) (part : String) : Except FileError Place :=
  -- Even staying at a place, or going up from it, takes a directory.
  if !fs.isDirectory place then .error .notADirectory
  else if part = "" || part = "." then .ok place
  else if part = ".." then .ok place.dropLast
  else if maxNameBytes < part.utf8ByteSize then .error .nameTooLong
  else if (fs.entry? (place ++ [part])).isSome then .ok (place ++ [part])
  else .error .notFound

/-- Where a path starts, and the parts that lead on from there. -/
def start (fs : FileSystem) (path : String) : Except FileError (Place × List String) :=
  if path.toList.contains '\x00' then .error .nulInPath
  else if path = "" then .error .notFound
  else if maxPathBytes < path.utf8ByteSize then .error .nameTooLong
  else
    let parts := (splitPath path.toList).map String.ofList
    .ok (if path.toList.head? = some '/' then ([], parts) else (fs.workingDirectory, parts))

/-- The place that a path leads to, at which there must be something. -/
def locate (fs : FileSystem) (path : String) : Except FileError Place := do
  let (place, parts) ← fs.start path
  parts.foldlM fs.follow place

/-- What a path leads to. -/
def status (fs : FileSystem) (path : String) : Except FileError Entry := do
  match fs.entry? (← fs.locate path) with
  | some entry => return entry
  | none => throw .notFound

/-! ### Files -/

/-- The content of a text file. -/
def readText (fs : FileSystem) (path : String) : Except FileError String := do
  match ← fs.status path with
  | .directory => throw .isADirectory
  | .file content =>
    match String.fromUTF8? content with
    | some text => return text
    | none => throw .notText

/-- The place for a file with a name in a directory, which may be taken by
    another file. -/
def placeForFile (fs : FileSystem) (directory : Place) (name : String) : Except FileError Place :=
  if !fs.isDirectory directory then .error .notADirectory
  else if name = "" || name = "." || name = ".." then .error .isADirectory
  else if maxNameBytes < name.utf8ByteSize then .error .nameTooLong
  else if fs.isDirectory (directory ++ [name]) then .error .isADirectory
  else .ok (directory ++ [name])

/-- Writes a text file, in place of any file that is there. -/
def writeText (fs : FileSystem) (path text : String) : Except FileError FileSystem := do
  let (place, parts) ← fs.start path
  -- All parts but the last must be there; the last is the file's own name.
  let directory ← parts.dropLast.foldlM fs.follow place
  let file ← fs.placeForFile directory (parts.getLastD "")
  return fs.set file (.file text.toUTF8)

end FileSystem

end Netlister
