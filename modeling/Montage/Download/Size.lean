import Montage.Number.Decimal

/-! # Sizes

Sizes for people: a number with at most two places and six significant digits, and a unit.
-/

namespace Montage.Download

/-- The units above bytes. -/
def largerUnits : List String := ["KB", "MB", "GB", "TB"]

/-- Divides by 1024 as long as the value allows it and there is a larger unit. -/
def scaleSize (value : Binary64) (unit : String) : List String → Binary64 × String
  | [] => (value, unit)
  | larger :: rest =>
    if (1024 : Binary64).le value then scaleSize (value / 1024) larger rest else (value, unit)

/-- The double nearest to a double rounded to two places, ties to even. -/
def roundTwoPlaces (x : Binary64) : Binary64 :=
  match x.toRat? with
  | some r => Binary64.round (roundPlaces r 2 .toEven) x.isNegative
  | none => x

/-- A number of bytes for people; there is none for numbers beyond every double. -/
def sizeText (bytes : Int) : Except RangeFault String :=
  if bytes ≤ 0 then .ok "0 Bytes"
  else do
    let (value, unit) := scaleSize (← Binary64.ofInt? bytes) "Bytes" largerUnits
    return (roundTwoPlaces value).measureText ++ " " ++ unit

/-- The share of a size that was saved, in percent with two places. -/
def reduction (initial compressed : Int) : Except RangeFault Binary64 :=
  if initial ≤ 0 then .ok .zero
  else do
    let share ← Binary64.ofQuotient? (initial - compressed) initial.toNat
    return roundTwoPlaces (share * 100)

end Montage.Download
