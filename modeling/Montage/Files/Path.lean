/-! # Paths

A path is its root and its parts. Empty parts and single dots are dropped when a text is read; double
dots are kept, since what they mean depends on the files. The text of a path is therefore not always
the text that it was read from.
-/

namespace Montage

/-- A path: what it starts from, empty for a relative one, and its parts. -/
structure Path where
  root : String := ""
  parts : List String := []
  deriving DecidableEq, Repr

namespace Path

/-- The pieces of a text between the occurrences of a character. -/
def splitAt (separator : Char) : List Char → List (List Char)
  | [] => [[]]
  | c :: rest =>
    if c = separator then [] :: splitAt separator rest
    else match splitAt separator rest with
      | [] => [[c]]
      | piece :: others => (c :: piece) :: others

/-- The root that a text starts with: exactly two slashes are a root of their own. -/
def rootOf : List Char → String
  | '/' :: '/' :: '/' :: _ => "/"
  | '/' :: '/' :: _ => "//"
  | '/' :: _ => "/"
  | _ => ""

/-- Reads a path. -/
def ofText (text : String) : Path :=
  let pieces := (splitAt '/' text.toList).filter fun piece => piece != [] && piece != ['.']
  { root := rootOf text.toList, parts := pieces.map String.ofList }

/-- Writes a path; one without root and parts is a single dot. -/
def text (p : Path) : String :=
  if p.root = "" ∧ p.parts = [] then "." else p.root ++ "/".intercalate p.parts

/-- A path below another one; one with a root stands for itself. -/
def join (p q : Path) : Path :=
  if q.root = "" then { root := p.root, parts := p.parts ++ q.parts } else q

instance : HDiv Path String Path := ⟨fun p text => p.join (ofText text)⟩

/-- The last part, empty when there is none. -/
def name (p : Path) : String := p.parts.getLast?.getD ""

/-- The path with another last part. -/
def withName (p : Path) (name : String) : Path := { p with parts := p.parts.dropLast ++ [name] }

end Path

namespace FileName

/-- A file name cut before its last point, unless that point is the first or last character. -/
def split (name : String) : String × String :=
  let reversed := name.toList.reverse
  let extension := reversed.takeWhile (· != '.')
  let stem := (reversed.drop extension.length).drop 1
  if extension = [] ∨ stem = [] then (name, "")
  else (String.ofList stem.reverse, String.ofList ('.' :: extension.reverse))

/-- A file name without its extension. -/
def stem (name : String) : String := (split name).1

/-- The extension of a file name, with its point. -/
def extension (name : String) : String := (split name).2

end FileName

end Montage
