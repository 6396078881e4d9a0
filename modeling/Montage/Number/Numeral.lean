import Montage.Number.Decimal
import Montage.Text.Blank
import Montage.Text.Digit
import Montage.Text.Quoted

/-! # Reading numerals

Integers are runs of decimal digits of any script, at most `integerDigitLimit` of them. Doubles are
decimal numerals with an optional sign, fraction and exponent, or the words for infinity and for no
number; a single underscore may stand between two digits.
-/

namespace Montage

/-- Why a run of digits is refused as an integer. -/
inductive IntegerFault where
  | notDecimal (text : String)
  | tooLong (digits : Nat)
  deriving DecidableEq, Repr

/-- The longest run of digits that is read as an integer. -/
def integerDigitLimit : Nat := 4300

/-- The most characters of a refused text, with its quotes, that are shown. -/
def shownLimit : Nat := 200

/-- The wording of a refused integer. -/
def IntegerFault.message : IntegerFault → String
  | .notDecimal text =>
    "invalid literal for int() with base 10: " ++
      String.ofList ((Text.quoted text.toList).take shownLimit)
  | .tooLong digits =>
    s!"Exceeds the limit ({integerDigitLimit} digits) for integer string conversion: " ++
      s!"value has {digits} digits; use sys.set_int_max_str_digits() to increase the limit"

/-- The number that a list of decimal digits denotes, given the value of the digits before it. -/
def foldDigits (start : Nat) (values : List Nat) : Nat :=
  values.foldl (fun n digit => 10 * n + digit) start

/-- Reads a run of digits, which may include forms that are not decimal. -/
def readInteger (s : List Char) : Except IntegerFault Nat :=
  let leading := s.takeWhile Text.isDecimalDigit
  if integerDigitLimit < leading.length then .error (.tooLong leading.length)
  else if leading.length < s.length ∨ s = [] then .error (.notDecimal (String.ofList s))
  else .ok (foldDigits 0 (leading.filterMap Text.digitValue?))

namespace Numeral

/-- Decimal digits of any script become those of ASCII. -/
def plainDigit (c : Char) : Char :=
  match Text.digitValue? c with
  | some value => Char.ofNat (48 + value)
  | none => c

/-- Drops the underscores of a numeral; `none` when one does not stand between two digits. `after`
says whether a digit came before. -/
def dropUnderscores (after : Bool) : List Char → Option (List Char)
  | [] => some []
  | '_' :: rest =>
    match rest with
    | [] => none
    | c :: _ => if after && c.isDigit then dropUnderscores false rest else none
  | c :: rest => (dropUnderscores c.isDigit rest).map (c :: ·)

/-- The optional sign in front of a numeral: whether it is a minus, and what follows. -/
def splitSign : List Char → Bool × List Char
  | '-' :: rest => (true, rest)
  | '+' :: rest => (false, rest)
  | s => (false, s)

/-- The value of an ASCII digit. -/
def asciiValue (c : Char) : Nat := c.toNat - 48

/-- Reads an exponent part, which may be missing; the text must end with it. -/
def readExponent : List Char → Option Int
  | [] => some 0
  | c :: rest =>
    if c = 'e' ∨ c = 'E' then
      let (negative, digits) := splitSign rest
      if digits ≠ [] ∧ digits.all Char.isDigit then
        let magnitude := foldDigits 0 (digits.map asciiValue)
        some (if negative then -magnitude else magnitude)
      else none
    else none

/-- The words for what is no finite number, in lower case. -/
def infinityWords : List String := ["inf", "infinity"]

/-- The double of an unsigned decimal numeral. Exponents far beyond every double are cut short, which
leaves the rounded value as it is. -/
def finiteValue (negative : Bool) (digits : List Char) (fraction : List Char) (exponent : Int) :
    Binary64 :=
  let mantissa := foldDigits 0 ((digits ++ fraction).map asciiValue)
  let shift : Int := exponent - fraction.length
  let size : Int := (digits ++ fraction).length
  let shift := max (-400 - size) (min 400 shift)
  let value : Rat := mantissa * tenPow shift
  if mantissa = 0 then (if negative then .negZero else .zero)
  else Binary64.round (if negative then -value else value) negative

/-- Reads an ASCII numeral without underscores. -/
def readPlain (s : List Char) : Option Binary64 :=
  let (negative, body) := splitSign s
  let word := (String.ofList (body.map Char.toLower))
  if infinityWords.contains word then some (.infinite negative)
  else if word = "nan" then some .nan
  else
    let digits := body.takeWhile Char.isDigit
    let rest := body.dropWhile Char.isDigit
    let (fraction, rest) := match rest with
      | '.' :: more => (more.takeWhile Char.isDigit, more.dropWhile Char.isDigit)
      | other => ([], other)
    if digits = [] ∧ fraction = [] then none
    else (readExponent rest).map (finiteValue negative digits fraction)

/-- Reads an integer with a sign, underscores and blanks around it. -/
def readSigned? (s : List Char) : Option Int :=
  let (negative, body) := splitSign (Text.strip s)
  match dropUnderscores false (body.map plainDigit) with
  | some digits =>
    if digits ≠ [] ∧ digits.all Char.isDigit ∧ digits.length ≤ integerDigitLimit then
      let magnitude : Int := foldDigits 0 (digits.map asciiValue)
      some (if negative then -magnitude else magnitude)
    else none
  | none => none

end Numeral

/-- Reads a numeral as the nearest double; `none` when the text is no numeral. -/
def readNumeral? (s : List Char) : Option Binary64 :=
  (Numeral.dropUnderscores false (s.map Numeral.plainDigit)).bind Numeral.readPlain

end Montage
