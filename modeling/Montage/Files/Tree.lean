import Montage.Files.Path
import Montage.Text.Quoted

/-! # Files

A tree of files below the working directory and below the root, as a list of places with what stands
there. A place has no double dots except at its start, so two paths to one file have one place.

A path is followed part by part. Every part but the last has to lead to a directory, and neither a part
nor the whole path may have too many octets.

A file that is written in pieces stays open meanwhile. What is open is the file and not the name: it goes
along when the file gets another name, and nobody sees what is written to it once the file was removed or
another one took its place.
-/

namespace Montage

/-- What stands at a place: a file with its content, or a directory. -/
inductive Node where
  | file (content : ByteArray)
  | directory

/-- Why an operation on files is refused. -/
inductive FileFault where
  | missing (path : String)
  | lost (path target : String)
  | busy (path target : String)
  | exists (path : String)
  | notDirectory (path : String)
  | isDirectory (path : String)
  | replacesDirectory (path target : String)
  | tooLong (path : String)
  | holdsNull
  deriving DecidableEq, Repr

/-- The wording of a refusal. -/
def FileFault.message : FileFault → String
  | .missing path => "[Errno 2] No such file or directory: " ++ Text.quotedText path
  | .lost path target =>
    "[Errno 2] No such file or directory: " ++ Text.quotedText path ++ " -> " ++ Text.quotedText target
  | .busy path target =>
    "[Errno 16] Device or resource busy: " ++ Text.quotedText path ++ " -> " ++ Text.quotedText target
  | .exists path => "[Errno 17] File exists: " ++ Text.quotedText path
  | .notDirectory path => "[Errno 20] Not a directory: " ++ Text.quotedText path
  | .isDirectory path => "[Errno 21] Is a directory: " ++ Text.quotedText path
  | .replacesDirectory path target =>
    "[Errno 21] Is a directory: " ++ Text.quotedText path ++ " -> " ++ Text.quotedText target
  | .tooLong path => "[Errno 36] File name too long: " ++ Text.quotedText path
  | .holdsNull => "embedded null byte"

/-- A place in the tree, named by a path without inner double dots. -/
abbrev Place := Path

/-- Whether a place lies at or above the working directory or the root. -/
def Place.isTop (place : Place) : Bool := place.parts.all (· == "..")

/-- The place above a place. -/
def Place.parent (place : Place) : Place := { place with parts := place.parts.dropLast }

/-- An open file: the place where it stands, if it still does, and the octet that is written next. -/
structure OpenFile where
  place : Option Place
  position : Nat

/-- Files and directories by place, and the files that were opened. The directories at the top are not
listed. -/
structure Files where
  entries : List (Place × Node) := []
  opened : List OpenFile := []

namespace Files

/-- What stands at a place. -/
def node? (files : Files) (place : Place) : Option Node :=
  if place.isTop then some .directory else files.entries.lookup place

/-- Whether a directory stands at a place. -/
def isDirectoryAt (files : Files) (place : Place) : Bool :=
  match files.node? place with
  | some .directory => true
  | _ => false

/-- The greatest number of octets of one part of a path. -/
def nameLimit : Nat := 255

/-- The least number of octets of a path that is too long. -/
def pathLimit : Nat := 4096

/-- Follows the parts of a path from a place, which has to be a directory as long as parts are left. -/
def walk (files : Files) (path : Path) (place : Place) : List String → Except FileFault Place
  | [] => .ok place
  | part :: rest =>
    match files.node? place with
    | none => .error (.missing path.text)
    | some (.file _) => .error (.notDirectory path.text)
    | some .directory =>
      if part = ".." then
        if !place.isTop then walk files path place.parent rest
        else if place.root = "" then
          walk files path { place with parts := place.parts ++ [".."] } rest
        else walk files path place rest
      else if nameLimit < part.utf8ByteSize then .error (.tooLong path.text)
      else walk files path { place with parts := place.parts ++ [part] } rest

/-- The place that a path leads to, where something may stand or not. -/
def locate (files : Files) (path : Path) : Except FileFault Place :=
  if path.text.toList.contains '\x00' then .error .holdsNull
  else if pathLimit ≤ path.text.utf8ByteSize then .error (.tooLong path.text)
  else files.walk path { root := path.root } path.parts

/-- What a path leads to. -/
def find (files : Files) (path : Path) : Except FileFault Node := do
  match files.node? (← files.locate path) with
  | some node => .ok node
  | none => .error (.missing path.text)

/-- Whether a path leads to a regular file; a path may be too long to be followed. -/
def isFile (files : Files) (path : Path) : Except FileFault Bool :=
  match files.find path with
  | .ok (.file _) => .ok true
  | .error (.tooLong path) => .error (.tooLong path)
  | _ => .ok false

/-- The content of the file that a path leads to. -/
def content? (files : Files) (path : Path) : Option ByteArray :=
  match files.find path with
  | .ok (.file content) => some content
  | _ => none

/-- The size of the file that a path leads to. -/
def size (files : Files) (path : Path) : Except FileFault Nat :=
  (files.find path).map fun
    | .file content => content.size
    | .directory => 0

/-- The tree with something put at a place. -/
def put (files : Files) (place : Place) (node : Node) : Files :=
  if files.entries.any (·.1 == place) then
    { files with
      entries := files.entries.map fun entry => if entry.1 == place then (place, node) else entry }
  else { files with entries := files.entries ++ [(place, node)] }

/-- The tree with nothing at a place. -/
def clear (files : Files) (place : Place) : Files :=
  { files with entries := files.entries.filter fun entry => entry.1 != place }

/-- The open files after the file at one place got to another one, or nowhere. -/
def follow (files : Files) (source : Place) (target : Option Place) : Files :=
  { files with
    opened := files.opened.map fun file =>
      if file.place = some source then { file with place := target }
      else if target.isSome ∧ file.place = target then { file with place := none }
      else file }

/-- Writes a file anew; its directory must be there. -/
def write (files : Files) (path : Path) (content : ByteArray) : Except FileFault Files := do
  let place ← files.locate path
  if files.isDirectoryAt place then .error (.isDirectory path.text)
  else .ok (files.put place (.file content))

/-- Opens a file that is written anew, and answers its number. -/
def create (files : Files) (path : Path) : Except FileFault (Nat × Files) := do
  let place ← files.locate path
  let written ← files.write path ByteArray.empty
  return (written.opened.length, { written with opened := written.opened ++ [⟨some place, 0⟩] })

/-- A content with a piece written over it from a position on. What is missing before it is zeros. -/
def overwrite (content : ByteArray) (position : Nat) (piece : ByteArray) : ByteArray :=
  if piece.isEmpty then content
  else
    content.extract 0 position ++ ⟨Array.replicate (position - content.size) 0⟩ ++ piece ++
      content.extract (position + piece.size) content.size

/-- Writes a piece to an open file. -/
def extend (files : Files) (number : Nat) (piece : ByteArray) : Files :=
  match files.opened[number]? with
  | none => files
  | some file =>
    let written := match file.place with
      | none => files
      | some place =>
        match files.node? place with
        | some (.file content) => files.put place (.file (overwrite content file.position piece))
        | _ => files
    { written with opened := written.opened.set number ⟨file.place, file.position + piece.size⟩ }

/-- Removes a file if it is there. -/
def remove (files : Files) (path : Path) : Files :=
  match files.locate path with
  | .ok place => if files.isDirectoryAt place then files else (files.clear place).follow place none
  | .error _ => files

/-- Gives a file another name, in place of what had that name. A path that ends in double dots is no
name. -/
def rename (files : Files) (path target : Path) : Except FileFault Files :=
  match files.find path with
  | .error (.missing _) => .error (.lost path.text target.text)
  | .error fault => .error fault
  | .ok .directory => .error (.isDirectory path.text)
  | .ok (.file content) =>
    if target.name = ".." then .error (.busy path.text target.text)
    else
      match files.find target with
      | .ok .directory => .error (.replacesDirectory path.text target.text)
      | _ => do
        let source ← files.locate path
        let place ← files.locate target
        if source = place then return files
        else return ((files.put place (.file content)).clear source).follow source (some place)

/-- Makes a directory in one that is there. -/
def makeDirectory (files : Files) (path : Path) : Except FileFault Files := do
  let place ← files.locate path
  match files.node? place with
  | some _ => .error (.exists path.text)
  | none => .ok (files.put place .directory)

/-- Makes a directory in one that is there, unless it is there itself. -/
def ensureDirectory (files : Files) (path : Path) : Except FileFault Files :=
  match files.find path with
  | .ok .directory => .ok files
  | _ => files.makeDirectory path

/-- Makes a directory, and those above it if that cannot be done without them. -/
def makeParts (files : Files) (root : String) : List String → Except FileFault Files
  | [] => files.ensureDirectory { root := root }
  | last :: above =>
    let path : Path := { root := root, parts := (last :: above).reverse }
    match files.ensureDirectory path with
    | .error (.missing _) => do (← files.makeParts root above).ensureDirectory path
    | found => found

/-- Makes a directory and those above it, where they are missing. -/
def makeDirectories (files : Files) (path : Path) : Except FileFault Files :=
  files.makeParts path.root path.parts.reverse

/-- The order of names by code point. -/
def nameLe (a b : String) : Bool := decide (a ≤ b)

/-- The paths and sizes of all files, in the order of the paths. -/
def sizes (files : Files) : List (String × Nat) :=
  (files.entries.filterMap fun (place, node) =>
    match node with
    | .file content => some (place.text, content.size)
    | .directory => none).mergeSort fun a b => nameLe a.1 b.1

/-- The names in a directory, in order. -/
def list (files : Files) (path : Path) : Except FileFault (List String) := do
  let place ← files.locate path
  match files.node? place with
  | some .directory =>
    return (files.entries.filterMap fun entry =>
      if !entry.1.isTop && entry.1.parent == place then some entry.1.name else none).mergeSort nameLe
  | some (.file _) => .error (.notDirectory path.text)
  | none => .error (.missing path.text)

end Files

end Montage
