/-! # Names in few letters

A text of any code points can be written with ASCII letters, digits and hyphens alone: its ASCII
characters come first, then a hyphen if there are any, then numbers that say which other code points are
put in and where. Code points are put in from the lowest to the highest, and each number counts the
places and code points that are passed over since the last one. Its digits have 36 values, and which of
them ends a number depends on the numbers before it.
-/

namespace Montage.Text.Punycode

/-- The number of values of a digit. -/
def radix : Nat := 36

/-- The first code point that is put in by a number. -/
def firstPoint : Nat := 0x80

/-- The bias of the first number. -/
def firstBias : Nat := 72

/-- At a place of a number, the value below which a digit ends the number. -/
def threshold (place bias : Nat) : Nat := min 26 (max 1 (radix * (place + 1) - bias))

theorem threshold_pos (place bias : Nat) : 0 < threshold place bias := by
  unfold threshold
  omega

/-- How often a number is reduced until it is small, and what it then is. -/
def reduce (n : Nat) : Nat × Nat :=
  if 455 < n then
    let (count, small) := reduce (n / 35)
    (count + 1, small)
  else (0, n)
termination_by n

/-- The bias after a number, with the length of the text that it made, the first number apart. -/
def nextBias (number length : Nat) (isFirst : Bool) : Nat :=
  let damped := if isFirst then number / 700 else number / 2
  let (count, small) := reduce (damped + damped / length)
  radix * count + radix * small / (small + 38)

/-- The digits of a number, from a place on. -/
def digits (bias place number : Nat) : List Nat :=
  let low := threshold place bias
  if number < low then [number]
  else
    (low + (number - low) % (radix - low)) ::
      digits bias (place + 1) ((number - low) / (radix - low))
termination_by number
decreasing_by
  have pos := threshold_pos place bias
  have small := Nat.div_le_self (number - threshold place bias) (radix - threshold place bias)
  omega

/-- The character of a digit. -/
def digitChar (digit : Nat) : Char :=
  if digit < 26 then Char.ofNat (0x61 + digit) else Char.ofNat (0x30 + (digit - 26))

/-- The value of a digit, in either case. -/
def digitValue? (c : Char) : Option Nat :=
  if c.isLower then some (c.toNat - 0x61)
  else if c.isUpper then some (c.toNat - 0x41)
  else if c.isDigit then some (26 + (c.toNat - 0x30))
  else none

/-- How far a text is written: the number of code points that are in place, the number passed over since
the last one that was put in, the bias, and the characters so far. -/
structure Writing where
  placed : Nat
  skipped : Nat := 0
  bias : Nat := firstBias
  isFirst : Bool := true
  written : List Char := []

/-- Looks at the next code point of the text while a code point is put in at its places. -/
def Writing.pass (writing : Writing) (point n : Nat) : Writing :=
  if n < point then { writing with skipped := writing.skipped + 1 }
  else if n = point then
    let found := digits writing.bias 0 writing.skipped
    { placed := writing.placed + 1
      skipped := 0
      bias := nextBias writing.skipped (writing.placed + 1) writing.isFirst
      isFirst := false
      written := writing.written ++ found.map digitChar }
  else writing

/-- Puts in the code points of a list, in ascending order, from a given one on. -/
def writeFrom (points : List Nat) : Nat → List Nat → Writing → Writing
  | _, [], writing => writing
  | next, point :: rest, writing =>
    let reached :=
      { writing with skipped := writing.skipped + (point - next) * (writing.placed + 1) }
    let passed := points.foldl (fun now n => now.pass point n) reached
    writeFrom points (point + 1) rest { passed with skipped := passed.skipped + 1 }

/-- A text in few letters. -/
def encode (points : List Nat) : List Char :=
  let plain := points.filter (· < firstPoint)
  let others := ((points.filter (firstPoint ≤ ·)).mergeSort (· ≤ ·)).eraseDups
  let written := (writeFrom points firstPoint others { placed := plain.length }).written
  plain.map Char.ofNat ++ (if plain.isEmpty then [] else ['-']) ++ written

/-- How far a text is read: the code points in place, the last one that was put in, where the next one
goes if its number is zero, the bias, and of the number that is being read its value, the weight of the
next digit and how many digits there are. -/
structure Reading where
  points : List Nat
  point : Nat := firstPoint
  next : Nat := 0
  bias : Nat := firstBias
  isFirst : Bool := true
  number : Nat := 0
  weight : Nat := 1
  place : Nat := 0

/-- Puts a code point in as a number says. There is none beyond the last code point. -/
def Reading.insert? (reading : Reading) (number : Nat) : Option Reading :=
  let length := reading.points.length + 1
  let position := reading.next + number
  let point := reading.point + position / length
  if 0x10FFFF < point then none
  else
    some {
      points := reading.points.insertIdx (position % length) point
      point := point
      next := position % length + 1
      bias := nextBias number length reading.isFirst
      isFirst := false }

/-- Reads a character, which must be a digit. -/
def Reading.read? (reading : Reading) (c : Char) : Option Reading := do
  let digit ← digitValue? c
  let number := reading.number + digit * reading.weight
  let low := threshold reading.place reading.bias
  if digit < low then reading.insert? number
  else
    some { reading with
      number := number
      weight := reading.weight * (radix - low)
      place := reading.place + 1 }

/-- The text that is written in few letters. The last number must have an end. -/
def decode? (s : List Char) : Option (List Nat) := do
  let tail := (s.reverse.takeWhile (· != '-')).reverse
  let plain := (s.take (s.length - tail.length)).dropLast
  let reading ← tail.foldlM Reading.read? { points := plain.map Char.toNat }
  if reading.place = 0 then some reading.points else none

end Montage.Text.Punycode
