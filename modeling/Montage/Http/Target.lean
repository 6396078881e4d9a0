import Montage.Files.Path
import Montage.Text.Percent

/-! # Request targets

A target is the part of an address that a server sees: a path, and a query of names and values. Both
are kept without their escapes. Dot segments are resolved before escapes are, so an escaped dot is an
ordinary character of the path.
-/

namespace Montage.Http

/-- What a request is sent to. -/
structure Target where
  path : String
  query : List (String × String) := []
  deriving DecidableEq, Repr

namespace Target

/-- The segments kept so far and one more: a single dot is dropped, and two dots drop the last segment
unless it is the empty one before the first slash. -/
def addSegment (kept : List (List Char)) (segment : List Char) : List (List Char) :=
  if segment = ['.'] then kept
  else if segment = ['.', '.'] then (if kept = [[]] then kept else kept.dropLast)
  else kept ++ [segment]

/-- A path without dot segments. -/
def dropDots (path : List Char) : List Char :=
  ['/'].intercalate ((Path.splitAt '/' path).foldl addSegment [])

/-- A name or value of a query without its escapes; a plus sign stands for a space. -/
def queryText (s : List Char) : String :=
  String.ofList (Text.Percent.decode (s.map fun c => if c = '+' then ' ' else c))

/-- One part of a query; without an equals sign its value is empty. -/
def queryPart (s : List Char) : String × String :=
  (queryText (s.takeWhile (· != '=')), queryText ((s.dropWhile (· != '=')).drop 1))

/-- The names and values of a query; empty parts are passed over. -/
def queryParts (s : List Char) : List (String × String) :=
  ((Path.splitAt '&' s).filter fun part => part ≠ []).map queryPart

/-- The target that a text stands for. -/
def ofText (text : String) : Target :=
  let whole := text.toList.takeWhile (· != '#')
  { path := String.ofList (Text.Percent.decode (dropDots (whole.takeWhile (· != '?'))))
    query := queryParts ((whole.dropWhile (· != '?')).drop 1) }

/-- The last value of a name in the query. -/
def value? (target : Target) (name : String) : Option String :=
  target.query.reverse.lookup name

end Target

end Montage.Http
