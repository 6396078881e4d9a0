import Montage.Text.Blank
import Montage.Text.Utf8

/-! # Reading lines from octets

The engine writes octets, which arrive in pieces of any size. A piece may end inside a character or
inside a line, so a reader keeps the character that has been started and the line so far. Carriage
returns and line feeds both end a line; lines are trimmed, and blank ones are dropped.
-/

namespace Montage.Engine

/-- Whether a character ends a line. -/
def isLineBreak (c : Char) : Bool := c == '\r' || c == '\n'

/-- The lines of a text that have ended, and the rest of it. -/
def splitLines : List Char → List (List Char) × List Char
  | [] => ([], [])
  | c :: rest =>
    let (lines, last) := splitLines rest
    if isLineBreak c then ([] :: lines, last)
    else
      match lines with
      | [] => ([], c :: last)
      | line :: others => ((c :: line) :: others, last)

/-- Lines without the blanks around them, and without those that are blank. -/
def trimLines (lines : List (List Char)) : List String :=
  (lines.map Text.strip).filterMap fun line => if line = [] then none else some (String.ofList line)

/-- What is kept between two pieces: a started character, and the line so far. -/
structure LineReader where
  started : Option Text.Utf8.Pending := none
  line : List Char := []
  deriving DecidableEq

/-- The greatest number of octets that are read at once. -/
def readLimit : Nat := 4096

/-- Octets in the pieces in which they are read, the first of which has some room left. -/
def pieces : Nat → List UInt8 → List (List UInt8)
  | _, [] => [[]]
  | 0, octet :: rest =>
    [] :: match pieces (readLimit - 1) rest with
      | first :: others => (octet :: first) :: others
      | [] => [[octet]]
  | room + 1, octet :: rest =>
    match pieces room rest with
    | first :: others => (octet :: first) :: others
    | [] => [[octet]]

namespace LineReader

/-- Takes a piece and answers the lines that end in it. -/
def read (reader : LineReader) (octets : List UInt8) : LineReader × List String :=
  let (found, started) := Text.Utf8.run reader.started octets
  let (lines, line) := splitLines (reader.line ++ Text.Utf8.replaceFaults found)
  ({ started := started, line := line }, trimLines lines)

/-- The line that is left when no more pieces come, if it is not blank. -/
def finish (reader : LineReader) : List String :=
  trimLines [reader.line ++ Text.Utf8.replaceFaults (Text.Utf8.finish reader.started)]

end LineReader

end Montage.Engine
