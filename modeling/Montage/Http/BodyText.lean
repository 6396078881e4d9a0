import Montage.Text.Utf8

/-! # The text of a body

A body is text in one of the Unicode encodings. Which one it is can be told by where its first octets
are zero, since the text of a structured value begins with ASCII.
-/

namespace Montage.Http

/-- The encodings of bodies. -/
inductive BodyEncoding where
  | octets
  | pairs (bigEndian : Bool)
  | quads (bigEndian : Bool)
  deriving DecidableEq, Repr

namespace BodyEncoding

/-- The encoding of a body. -/
def ofBody : List UInt8 → BodyEncoding
  | [first, second] =>
    if first = 0 then .pairs true else if second = 0 then .pairs false else .octets
  | first :: second :: third :: fourth :: _ =>
    if first = 0 then (if second = 0 then .quads true else .pairs true)
    else if second = 0 then (if third = 0 ∧ fourth = 0 then .quads false else .pairs false)
    else .octets
  | _ => .octets

/-- The number of two octets in order. -/
def pair (bigEndian : Bool) (a b : UInt8) : Nat :=
  if bigEndian then a.toNat * 256 + b.toNat else b.toNat * 256 + a.toNat

/-- The numbers of pairs of octets; `none` when an octet is left over. -/
def pairs? (bigEndian : Bool) : List UInt8 → Option (List Nat)
  | [] => some []
  | a :: b :: rest => (pairs? bigEndian rest).map (pair bigEndian a b :: ·)
  | [_] => none

/-- The characters of code units of sixteen bits; half a character becomes a replacement character. -/
def joinUnits : List Nat → List Char
  | high :: low :: rest =>
    if 0xD800 ≤ high ∧ high < 0xDC00 ∧ 0xDC00 ≤ low ∧ low < 0xE000 then
      Char.ofNat (0x10000 + (high - 0xD800) * 1024 + (low - 0xDC00)) :: joinUnits rest
    else unitChar high :: joinUnits (low :: rest)
  | [unit] => [unitChar unit]
  | [] => []
where
  /-- The character of a unit that stands alone. -/
  unitChar (unit : Nat) : Char := if 0xD800 ≤ unit ∧ unit < 0xE000 then '\uFFFD' else Char.ofNat unit

/-- The characters of code points that are given in pairs of halves; `none` when a half is left over or
there is no such code point. -/
def joinHalves (bigEndian : Bool) : List Nat → Option (List Char)
  | [] => some []
  | first :: second :: rest =>
    let point := if bigEndian then first * 65536 + second else second * 65536 + first
    if point < 0x110000 then (joinHalves bigEndian rest).map (joinUnits.unitChar point :: ·) else none
  | [_] => none

/-- A text without the byte order mark at its start. -/
def dropMark (s : List Char) : List Char :=
  match s with
  | '\uFEFF' :: rest => rest
  | s => s

/-- The text of a body; `none` if it is not in its encoding. -/
def decode? (body : List UInt8) : Option (List Char) :=
  match ofBody body with
  | .octets => (Text.Utf8.refuseFaults (Text.Utf8.decode body)).map dropMark
  | .pairs bigEndian => (pairs? bigEndian body).map joinUnits
  | .quads bigEndian => (pairs? bigEndian body).bind (joinHalves bigEndian)

end BodyEncoding

end Montage.Http
