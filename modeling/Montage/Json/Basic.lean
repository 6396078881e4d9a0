import Montage.Number.Decimal
import Montage.Text.Hex

/-! # Structured values and their wire text

A value keeps the order of its fields, and keeps integers apart from doubles. Its text is pure ASCII:
every character outside the printable range is written as an escape, so a text never holds a line
break of its own. Escapes can spell half a character, which no text can hold; a value with such a half
in it is kept apart from texts.
-/

namespace Montage

/-- A structured value. -/
inductive Json where
  | null
  | bool (value : Bool)
  | int (value : Int)
  | num (value : Binary64)
  | str (value : String)
  /-- What is no text, for all its quotes: the code points of one with half a character in it. -/
  | broken (points : List Nat)
  | arr (items : List Json)
  | obj (fields : List (String × Json))

namespace Json

/-- The value of a field of an object. -/
def field? (key : String) : Json → Option Json
  | .obj fields => fields.lookup key
  | _ => none

/-- A code unit of sixteen bits as an escape. -/
def unitEscape (n : Nat) : List Char :=
  ['\\', 'u', Text.hexDigit (n / 4096 % 16), Text.hexDigit (n / 256 % 16),
    Text.hexDigit (n / 16 % 16), Text.hexDigit (n % 16)]

/-- A character inside quotes: itself when it is printable ASCII, a short escape when there is one, else
its code units in hexadecimal. -/
def escapeChar (c : Char) : List Char :=
  if c = '"' then ['\\', '"']
  else if c = '\\' then ['\\', '\\']
  else if c = '\n' then ['\\', 'n']
  else if c = '\r' then ['\\', 'r']
  else if c = '\t' then ['\\', 't']
  else if c = '\x08' then ['\\', 'b']
  else if c = '\x0c' then ['\\', 'f']
  else
    let n := c.toNat
    if 32 ≤ n ∧ n < 127 then [c]
    else if n < 0x10000 then unitEscape n
    else
      let rest := n - 0x10000
      unitEscape (0xD800 + rest / 1024) ++ unitEscape (0xDC00 + rest % 1024)

/-- Whether a code unit opens a pair. -/
def isHighUnit (n : Nat) : Bool := 0xD800 ≤ n && n < 0xDC00

/-- Whether a code unit closes a pair. -/
def isLowUnit (n : Nat) : Bool := 0xDC00 ≤ n && n < 0xE000

/-- Whether a code point is half a character. -/
def isHalf (n : Nat) : Bool := isHighUnit n || isLowUnit n

/-- The value of a run of code points in quotes. -/
def ofPoints (points : List Nat) : Json :=
  if points.any isHalf then .broken points else .str (String.ofList (points.map Char.ofNat))

/-- The text of a run of code points, with a replacement character for each half. -/
def pointsText (points : List Nat) : String :=
  String.ofList (points.map fun n => if isHalf n then '\uFFFD' else Char.ofNat n)

/-- A text in quotes. -/
def quote (s : String) : List Char := '"' :: (s.toList.flatMap escapeChar ++ ['"'])

/-- A run of code points in quotes. -/
def quotePoints (points : List Nat) : List Char :=
  '"' :: (points.flatMap (fun n => if isHalf n then unitEscape n else escapeChar (Char.ofNat n)) ++
    ['"'])

/-- The wire text of a double. -/
def numberText (x : Binary64) : String :=
  match x with
  | .nan => "NaN"
  | .infinite negative => if negative then "-Infinity" else "Infinity"
  | x => x.text

mutual

/-- The wire text of a value. -/
def render : Json → List Char
  | .null => "null".toList
  | .bool b => (if b then "true" else "false").toList
  | .int n => (toString n).toList
  | .num x => (numberText x).toList
  | .str s => quote s
  | .broken points => quotePoints points
  | .arr items => '[' :: (renderItems items ++ [']'])
  | .obj fields => '\x7b' :: (renderFields fields ++ ['\x7d'])

/-- The items of an array, separated by a comma and a space. -/
def renderItems : List Json → List Char
  | [] => []
  | [item] => render item
  | item :: rest => render item ++ (',' :: ' ' :: renderItems rest)

/-- The fields of an object, separated by a comma and a space. -/
def renderFields : List (String × Json) → List Char
  | [] => []
  | [(key, value)] => quote key ++ (':' :: ' ' :: render value)
  | (key, value) :: rest =>
    quote key ++ (':' :: ' ' :: (render value ++ (',' :: ' ' :: renderFields rest)))

end

/-- The wire text of a value as a string. -/
def text (value : Json) : String := String.ofList value.render

/-- A text, or null when there is none. -/
def ofOptionString : Option String → Json
  | some s => .str s
  | none => .null

/-- An integer, or null when there is none. -/
def ofOptionInt : Option Int → Json
  | some n => .int n
  | none => .null

end Json

end Montage
