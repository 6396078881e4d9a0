/-! # Letters in either case

Words that may be written in either case are compared letter by letter. Beside the two cases of ASCII,
the letter `i` is also met by its dotted capital and its dotless small form.
-/

namespace Montage.Text

/-- Whether a character is a small ASCII letter or another form of it. -/
def isFormOf (letter c : Char) : Bool :=
  c.toLower == letter || (letter == 'i' && (c == '\u0130' || c == '\u0131'))

/-- The text after a word in either case; characters of the word that are no letters stand for
themselves. -/
def afterWord? : List Char → List Char → Option (List Char)
  | [], s => some s
  | _, [] => none
  | letter :: word, c :: s => if isFormOf letter c then afterWord? word s else none

/-- The small form of a character where it is an ASCII letter: of capitals, and of the Kelvin sign. -/
def toSmall (c : Char) : Char := if c == '\u212A' then 'k' else c.toLower

end Montage.Text
