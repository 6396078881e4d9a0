import Montage.Entries
import Montage.Json.Basic
import Montage.Number.Numeral
import Montage.Text.Search

/-! # Reading structured values

The reader takes the usual notation, and beside it the words for the infinities and for no number.
A fault names the place where the text stops making sense, as the text that is left there; of a
string that never ends that is the whole string. Arrays and objects may be nested up to a depth, and
integers may have digits up to a limit.
-/

namespace Montage.Json

/-- Why a text is no value: the text left at the fault, an integer with too many digits, or an array
or object that is nested too deeply. -/
inductive Fault where
  | malformed (rest : List Char)
  | integerTooLong (digits : Nat)
  | arrayTooDeep
  | objectTooDeep
  deriving DecidableEq, Repr

namespace Reader

/-- The white space between the parts of a value. -/
def isSpace (c : Char) : Bool := c = ' ' || c = '\t' || c = '\n' || c = '\r'

/-- The text after leading white space. -/
def skip (s : List Char) : List Char := s.dropWhile isSpace

/-- The code unit of four hexadecimal digits. -/
def unit? (a b c d : Char) : Option Nat := do
  let a ← Text.hexValue? a
  let b ← Text.hexValue? b
  let c ← Text.hexValue? c
  let d ← Text.hexValue? d
  some (((a * 16 + b) * 16 + c) * 16 + d)

/-- The character of a short escape. -/
def shortEscape? : Char → Option Char
  | '"' => some '"'
  | '\\' => some '\\'
  | '/' => some '/'
  | 'b' => some '\x08'
  | 'f' => some '\x0c'
  | 'n' => some '\n'
  | 'r' => some '\r'
  | 't' => some '\t'
  | _ => none

/-- Puts a code point in front of what a reader found. -/
def consPoint (n : Nat) : Except Fault (List Nat × List Char) → Except Fault (List Nat × List Char)
  | .ok (points, rest) => .ok (n :: points, rest)
  | .error fault => .error fault

/-- Puts a first half of a pair that has no second one in front of what a reader found. -/
def flushUnit (pending : Option Nat) (found : Except Fault (List Nat × List Char)) :
    Except Fault (List Nat × List Char) :=
  match pending with
  | none => found
  | some half => consPoint half found

/-- Reads the rest of a string up to its closing quote, as code points. `opened` is the text from its
opening quote, and `pending` the first half of a pair of code units that has just been read. -/
def points (opened : List Char) (pending : Option Nat) :
    List Char → Except Fault (List Nat × List Char)
  | [] => .error (.malformed opened)
  | '"' :: rest => flushUnit pending (.ok ([], rest))
  | ['\\'] => .error (.malformed opened)
  | '\\' :: 'u' :: a :: b :: c :: d :: rest =>
    match rest.isEmpty, unit? a b c d, pending with
    | false, some low, some high =>
      if isLowUnit low then
        consPoint (0x10000 + (high - 0xD800) * 1024 + (low - 0xDC00)) (points opened none rest)
      else if isHighUnit low then consPoint high (points opened (some low) rest)
      else consPoint high (consPoint low (points opened none rest))
    | false, some unit, none =>
      if isHighUnit unit then points opened (some unit) rest
      else consPoint unit (points opened none rest)
    | _, _, _ => .error (.malformed ('u' :: a :: b :: c :: d :: rest))
  | '\\' :: 'u' :: rest => .error (.malformed ('u' :: rest))
  | '\\' :: c :: rest =>
    match shortEscape? c with
    | some plain => flushUnit pending (consPoint plain.toNat (points opened none rest))
    | none => .error (.malformed ('\\' :: c :: rest))
  | c :: rest =>
    if c.toNat < 32 then .error (.malformed (c :: rest))
    else flushUnit pending (consPoint c.toNat (points opened none rest))

/-- The exponent part in front of a text: its letter, sign and digits, if it has digits. -/
def exponentPart (s : List Char) : List Char :=
  match s with
  | c :: rest =>
    if c = 'e' ∨ c = 'E' then
      let (sign, rest) := match rest with
        | '+' :: more => (['+'], more)
        | '-' :: more => (['-'], more)
        | other => ([], other)
      let digits := rest.takeWhile Char.isDigit
      if digits = [] then [] else c :: (sign ++ digits)
    else []
  | [] => []

/-- The fraction part in front of a text: its point and digits, if it has digits. -/
def fractionPart (s : List Char) : List Char :=
  match s with
  | '.' :: rest =>
    let digits := rest.takeWhile Char.isDigit
    if digits = [] then [] else '.' :: digits
  | _ => []

/-- The integer part in front of a text: a zero, or digits that do not start with one. -/
def integerPart (s : List Char) : List Char :=
  match s with
  | '0' :: _ => ['0']
  | s => s.takeWhile Char.isDigit

/-- Whether there is a minus sign in front of a text, and the text without it. -/
def splitMinus : List Char → Bool × List Char
  | '-' :: rest => (true, rest)
  | s => (false, s)

/-- Reads a number: an integer when it has neither fraction nor exponent. An integer has at most
`limit` digits. -/
def number (limit : Nat) (s : List Char) : Except Fault (Json × List Char) :=
  let (negative, body) := splitMinus s
  let digits := integerPart body
  if digits = [] then .error (.malformed s)
  else
    let rest := body.drop digits.length
    let fraction := fractionPart rest
    let exponent := exponentPart (rest.drop fraction.length)
    let rest := rest.drop (fraction.length + exponent.length)
    if fraction = [] ∧ exponent = [] then
      if limit < digits.length then .error (.integerTooLong digits.length)
      else
        let magnitude : Int := foldDigits 0 (digits.map Numeral.asciiValue)
        .ok (.int (if negative then -magnitude else magnitude), rest)
    else
      match Numeral.readExponent exponent with
      | some e => .ok (.num (Numeral.finiteValue negative digits (fraction.drop 1) e), rest)
      | none => .error (.malformed s)

/-- The words that are values of their own. -/
def words : List (String × Json) :=
  [("null", .null), ("true", .bool true), ("false", .bool false), ("NaN", .num .nan),
    ("Infinity", .num (.infinite false)), ("-Infinity", .num (.infinite true))]

/-- Reads a word or a number. -/
def scalar (limit : Nat) (s : List Char) : Except Fault (Json × List Char) :=
  match words.findSome? fun (word, value) => (Text.afterStart? word.toList s).map fun rest => (value, rest) with
  | some found => .ok found
  | none => number limit s

variable (limit : Nat)

mutual

/-- Reads one value in front of a text, at most `depth` arrays and objects deep. -/
def value : Nat → Nat → List Char → Except Fault (Json × List Char)
  | 0, _, s => .error (.malformed s)
  | fuel + 1, depth, s =>
    match s with
    | '"' :: rest => (points s none rest).map fun (found, rest) => (ofPoints found, rest)
    | '[' :: rest =>
      match depth, skip rest with
      | 0, _ => .error .arrayTooDeep
      | _, ']' :: rest => .ok (.arr [], rest)
      | depth + 1, rest => (items fuel depth rest).map fun (found, rest) => (.arr found, rest)
    | '\x7b' :: rest =>
      match depth, skip rest with
      | 0, _ => .error .objectTooDeep
      | _, '\x7d' :: rest => .ok (.obj [], rest)
      | depth + 1, rest => (fields fuel depth [] rest).map fun (found, rest) => (.obj found, rest)
    | s => scalar limit s

/-- Reads the items of an array, at least one, and the closing bracket. -/
def items : Nat → Nat → List Char → Except Fault (List Json × List Char)
  | 0, _, s => .error (.malformed s)
  | fuel + 1, depth, s => do
    let (first, rest) ← value fuel depth s
    match skip rest with
    | ']' :: rest => .ok ([first], rest)
    | ',' :: rest =>
      let (others, rest) ← items fuel depth (skip rest)
      .ok (first :: others, rest)
    | rest => .error (.malformed rest)

/-- Reads the fields of an object after those in `before`, at least one, and the closing brace. A
repeated field keeps its first place and its last value. -/
def fields : Nat → Nat → List (String × Json) → List Char →
    Except Fault (List (String × Json) × List Char)
  | 0, _, _, s => .error (.malformed s)
  | fuel + 1, depth, before, s => do
    match s with
    | '"' :: rest =>
      let (key, rest) ← points s none rest
      match skip rest with
      | ':' :: rest =>
        let (found, rest) ← value fuel depth (skip rest)
        let all := Entries.set before (pointsText key) found
        match skip rest with
        | '\x7d' :: rest => .ok (all, rest)
        | ',' :: rest => fields fuel depth all (skip rest)
        | rest => .error (.malformed rest)
      | rest => .error (.malformed rest)
    | s => .error (.malformed s)

end

end Reader

/-- Reads a text that is one value with white space around it, at most `depth` arrays and objects
deep, with at most `limit` digits in an integer. -/
def readWithin (limit depth : Nat) (s : List Char) : Except Fault Json := do
  let (found, rest) ← Reader.value limit (2 * s.length + 2) depth (Reader.skip s)
  match Reader.skip rest with
  | [] => .ok found
  | rest => .error (.malformed rest)

/-- Reads a text that is one value, at most `depth` arrays and objects deep. -/
def read (depth : Nat) (s : List Char) : Except Fault Json := readWithin integerDigitLimit depth s

/-- Reads a text as one value of any depth. -/
def ofText (s : String) : Except Fault Json := read s.length s.toList

/-- Reads a text as one value of any depth and with integers of any length. -/
def decode (s : List Char) : Except Fault Json := readWithin s.length s.length s

/-- The number of characters in front of a fault. -/
def Fault.offset (s : List Char) : Fault → Nat
  | .malformed rest => s.length - rest.length
  | _ => 0

end Montage.Json
