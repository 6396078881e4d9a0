import Montage.Geometry
import Montage.Number.Numeral
import Montage.Text.Hex
import Montage.Text.Letter

/-! # Colours

A colour is asked for as `rgb(r, g, b)`, `rgba(r, g, b, a)` or six hexadecimal digits, and named to
the engine as `0xRRGGBB@alpha`. A call is looked for anywhere in the text; a text without a call or a
hexadecimal form means opaque white.
-/

namespace Montage.Color

/-- Opaque white. -/
def fallback : String := "0xFFFFFF@1"

/-- The numerals of a colour call as they are written. -/
structure Call where
  red : List Char
  green : List Char
  blue : List Char
  alpha : Option (List Char)
  deriving DecidableEq, Repr

/-- Characters that a numeral in a call may have. -/
def isNumeralChar (c : Char) : Bool := c = '.' || Text.isDecimalDigit c

/-- The longest run of numeral characters, if there is one, and what follows. -/
def numeralRun? (s : List Char) : Option (List Char × List Char) :=
  match s.takeWhile isNumeralChar with
  | [] => none
  | run => some (run, s.dropWhile isNumeralChar)

/-- The text after blanks and one given character. -/
def afterBlanks? (expected : Char) (s : List Char) : Option (List Char) :=
  match Text.dropBlank s with
  | c :: rest => if c = expected then some rest else none
  | [] => none

/-- A numeral with the blanks around it left out. -/
def argument? (s : List Char) : Option (List Char × List Char) := numeralRun? (Text.dropBlank s)

/-- The fourth numeral of a call and the closing parenthesis. -/
def alphaAndClose? (s : List Char) : Option (List Char) := do
  let rest ← afterBlanks? ',' s
  let (alpha, rest) ← argument? rest
  let _ ← afterBlanks? ')' rest
  return alpha

/-- The colour call that a text starts with. -/
def callAt? (s : List Char) : Option Call := do
  let rest ← Text.afterWord? ['r', 'g', 'b'] s
  let rest ← afterBlanks? '(' ((Text.afterWord? ['a'] rest).getD rest)
  let (red, rest) ← argument? rest
  let rest ← afterBlanks? ',' rest
  let (green, rest) ← argument? rest
  let rest ← afterBlanks? ',' rest
  let (blue, rest) ← argument? rest
  match alphaAndClose? rest with
  | some alpha => return ⟨red, green, blue, some alpha⟩
  | none =>
    let _ ← afterBlanks? ')' rest
    return ⟨red, green, blue, none⟩

/-- The first colour call in a text. -/
def findCall? : List Char → Option Call
  | [] => none
  | c :: rest =>
    match callAt? (c :: rest) with
    | some call => some call
    | none => findCall? rest

/-- A colour channel: the nearest integer, at most 255. -/
def channel (x : Binary64) : Except RangeFault Nat :=
  (roundHalfUp x).map fun n => (max 0 (min 255 n)).toNat

/-- An opacity between zero and one. -/
def opacity (x : Binary64) : Binary64 := clamp x 0 1

/-- Two hexadecimal digits in upper case. -/
def hexByte (n : Nat) : List Char := [Text.hexCapital (n / 16), Text.hexCapital (n % 16)]

/-- The engine's name for a colour of three channels and an opacity. -/
def literal (red green blue : Nat) (alpha : Binary64) : String :=
  "0x" ++ String.ofList (hexByte red ++ hexByte green ++ hexByte blue) ++ "@" ++ alpha.plainText

/-- The engine's name for the colour of a call; opaque white when a numeral cannot be read. -/
def Call.resolve (call : Call) : Except RangeFault String :=
  let alpha? := match call.alpha with
    | some numeral => readNumeral? numeral
    | none => some 1
  match readNumeral? call.red, readNumeral? call.green, readNumeral? call.blue, alpha? with
  | some red, some green, some blue, some alpha => do
    let red ← channel red
    let green ← channel green
    let blue ← channel blue
    return literal red green blue (opacity alpha)
  | _, _, _, _ => .ok fallback

/-- The six digits of a hexadecimal form, after an optional number sign. -/
def hexForm? (s : List Char) : Option (List Char) :=
  let digits := match s with
    | '#' :: rest => rest
    | other => other
  if digits.length = 6 ∧ digits.all Text.isHexDigit then some digits else none

/-- The engine's name for the colour that a text asks for. -/
def resolve (s : List Char) : Except RangeFault String :=
  match findCall? s with
  | some call => call.resolve
  | none =>
    match hexForm? (Text.strip s) with
    | some digits => .ok ("0x" ++ String.ofList (digits.map Char.toUpper) ++ "@1")
    | none => .ok fallback

/-- The engine's name for an optional colour; no colour is opaque white. -/
def resolveText (text : Option String) : Except RangeFault String :=
  match text with
  | some s => resolve s.toList
  | none => .ok fallback

end Montage.Color
