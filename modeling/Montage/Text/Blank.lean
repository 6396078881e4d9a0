/-! # Blank characters

Blanks are the characters of Unicode white space together with the four information separators.
Trimming and the reading of fields use this one class throughout.
-/

namespace Montage.Text

/-- Whether a character is white space or an information separator. -/
def isBlank (c : Char) : Bool :=
  let n := c.toNat
  (9 ≤ n && n ≤ 13) || (28 ≤ n && n ≤ 32) || n == 0x85 || n == 0xA0 || n == 0x1680 ||
    (0x2000 ≤ n && n ≤ 0x200A) || n == 0x2028 || n == 0x2029 || n == 0x202F || n == 0x205F ||
    n == 0x3000

/-- The characters after the leading blanks. -/
def dropBlank (s : List Char) : List Char := s.dropWhile isBlank

/-- Drops the leading and the trailing characters of a class. -/
def stripWhere (drop : Char → Bool) (s : List Char) : List Char :=
  ((s.dropWhile drop).reverse.dropWhile drop).reverse

/-- The characters between the leading and the trailing blanks. -/
def strip (s : List Char) : List Char := stripWhere isBlank s

/-- The text between its leading and trailing blanks. -/
def stripped (s : String) : String := String.ofList (strip s.toList)

/-- Whether a text holds nothing but blanks. -/
def isBlankText (s : String) : Bool := s.toList.all isBlank

end Montage.Text
