/-! # Hexadecimal digits -/

namespace Montage.Text

/-- The value of a hexadecimal digit in either case. -/
def hexValue? (c : Char) : Option Nat :=
  if c.isDigit then some (c.toNat - 48)
  else if 'a' ≤ c ∧ c ≤ 'f' then some (c.toNat - 87)
  else if 'A' ≤ c ∧ c ≤ 'F' then some (c.toNat - 55)
  else none

/-- Whether a character is a hexadecimal digit in either case. -/
def isHexDigit (c : Char) : Bool := (hexValue? c).isSome

/-- The octets that pairs of hexadecimal digits stand for; what is no digit counts as zero. -/
def hexOctets : List Char → List UInt8
  | a :: b :: rest =>
    UInt8.ofNat ((hexValue? a).getD 0 * 16 + (hexValue? b).getD 0) :: hexOctets rest
  | _ => []

/-- The hexadecimal digit of a value, in lower case. -/
def hexDigit (n : Nat) : Char := Char.ofNat (if n < 10 then 48 + n else 87 + n)

/-- The hexadecimal digit of a value, in upper case. -/
def hexCapital (n : Nat) : Char := Char.ofNat (if n < 10 then 48 + n else 55 + n)

end Montage.Text
