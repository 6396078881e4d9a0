import Montage.Text.Blank
import Montage.Text.Letter

/-! # Caption text

The text of a caption is quoted for the engine. Inside the quotes a backslash, a percent sign and a
colon are escaped, and a single quote leaves the quotes for a moment. Line break tokens of the form
`<br>`, with blanks and a slash before the closing bracket, become line breaks first.
-/

namespace Montage.Caption

/-- A character of quoted text. -/
def escapeChar (c : Char) : List Char :=
  if c = '\\' then ['\\', '\\']
  else if c = '%' then ['\\', '%']
  else if c = ':' then ['\\', ':']
  else if c = '\'' then ['\'', '\\', '\'', '\'']
  else [c]

/-- Text for a single-quoted option. -/
def escapeText (s : List Char) : List Char := s.flatMap escapeChar

/-- A character of a quoted path. -/
def escapePathChar (c : Char) : List Char :=
  if c = '\\' then ['\\', '\\']
  else if c = ':' then ['\\', ':']
  else if c = '\'' then ['\\', '\'']
  else [c]

/-- A path for a single-quoted option. -/
def escapePath (s : List Char) : List Char := s.flatMap escapePathChar

/-- The length of the line break token that a text starts with. -/
def breakLength? : List Char → Option Nat
  | '<' :: b :: r :: rest =>
    if Text.isFormOf 'b' b && Text.isFormOf 'r' r then
      let blanks := rest.takeWhile Text.isBlank
      match rest.drop blanks.length with
      | '>' :: _ => some (blanks.length + 4)
      | '/' :: '>' :: _ => some (blanks.length + 5)
      | _ => none
    else none
  | _ => none

/-- Drops `skip` characters, then puts a line break in place of every token. -/
def breakLinesAfter : Nat → List Char → List Char
  | _, [] => []
  | skip + 1, _ :: rest => breakLinesAfter skip rest
  | 0, c :: rest =>
    match breakLength? (c :: rest) with
    | some length => '\n' :: breakLinesAfter (length - 1) rest
    | none => c :: breakLinesAfter 0 rest

/-- A text with a line break in place of every token. -/
def breakLines (s : List Char) : List Char := breakLinesAfter 0 s

/-- A text as it is drawn, and its number of lines. -/
structure Prepared where
  escaped : String
  lines : Nat
  deriving DecidableEq, Repr

/-- Breaks a text into lines, counts them and quotes it. -/
def prepare (raw : String) : Prepared :=
  let broken := breakLines raw.toList
  { escaped := String.ofList (escapeText broken), lines := broken.count '\n' + 1 }

end Montage.Caption
