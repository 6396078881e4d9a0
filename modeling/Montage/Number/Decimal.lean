import Montage.Number.Binary64

/-! # Decimal forms of numbers

Which digits a number is written with is settled here by exact arithmetic on rationals: the fewest
that read back as the same double, a given count of significant ones, or a given number of places.
How digits are laid out around the point is a separate question, answered by a `DecimalLayout`.
-/

namespace Montage

/-- The number `digits * 10 ^ exponent`. -/
structure Decimal where
  digits : Nat
  exponent : Int
  deriving DecidableEq, Repr

/-- The rational `10 ^ k`. -/
def tenPow (k : Int) : Rat :=
  if 0 ≤ k then (Nat.pow 10 k.toNat : Rat) else mkRat 1 (Nat.pow 10 (-k).toNat)

/-- The rational that a decimal denotes. -/
def Decimal.toRat (d : Decimal) : Rat := d.digits * tenPow d.exponent

/-- The decimal digits of a natural number, most significant first. -/
def decimalDigits (n : Nat) : List Char := Nat.toDigits 10 n

/-- The least `k` with `r < 10 ^ k`, for a positive `r`. -/
def decimalScale (r : Rat) : Int :=
  if 1 ≤ r then (decimalDigits r.floor.toNat).length
  else
    let places : Int := (decimalDigits (r.den / r.num.natAbs)).length
    if r = tenPow (1 - places) then 2 - places else 1 - places

/-- Which neighbour a number exactly between two decimals goes to. -/
inductive TieRule where
  | toEven
  | awayFromZero
  deriving DecidableEq, Repr

/-- A non-negative rational rounded to the nearest natural number. -/
def roundNat (r : Rat) (tie : TieRule) : Nat :=
  let q := r.floor.toNat
  let rest := r - q
  let half : Rat := 1 / 2
  if rest < half then q
  else if rest = half then match tie with
    | .toEven => if q % 2 = 0 then q else q + 1
    | .awayFromZero => q + 1
  else q + 1

namespace Decimal

/-- Drops trailing zeros from the digits, at most `fuel` of them. -/
def trim : Nat → Decimal → Decimal
  | 0, d => d
  | fuel + 1, d =>
    if d.digits ≠ 0 ∧ d.digits % 10 = 0 then trim fuel ⟨d.digits / 10, d.exponent + 1⟩ else d

/-- The decimal nearest to a positive `r` with `count` significant digits, an exact tie going to the
even last digit. -/
def significant (r : Rat) (count : Nat) : Decimal :=
  let exponent := decimalScale r - count
  ⟨roundNat (r / tenPow exponent) .toEven, exponent⟩

/-- The decimals with `count` significant digits on either side of a positive `r`, the nearer one
first; of two equally near ones, the one with the even last digit. -/
def neighbours (r : Rat) (count : Nat) : List Decimal :=
  let exponent := decimalScale r - count
  let below := (r / tenPow exponent).floor.toNat
  let nearest := roundNat (r / tenPow exponent) .toEven
  if nearest = below then [⟨below, exponent⟩, ⟨below + 1, exponent⟩]
  else [⟨below + 1, exponent⟩, ⟨below, exponent⟩]

/-- Searches digit counts upwards from `count`, at most `fuel` of them, for a decimal that rounds to
the same double as `r`. -/
def shortestFrom (r : Rat) : Nat → Nat → Decimal
  | 0, count => significant r count
  | fuel + 1, count =>
    match (neighbours r count).find? fun d => Binary64.ofRat d.toRat == Binary64.ofRat r with
    | some d => d
    | none => shortestFrom r fuel (count + 1)

/-- The decimal with the fewest digits that rounds to the same double as a positive `r`; the nearest
to `r` of those. -/
def shortest (r : Rat) : Decimal := (shortestFrom r 16 1).trim 17

end Decimal

/-- How the digits of a number are set around the point. -/
structure DecimalLayout where
  /-- Leading digits worth from `10 ^ (-4)` up to below ten to this power need no exponent. -/
  positionalBelow : Int
  /-- Whether a number without a fraction is written with one zero after the point. -/
  pointZero : Bool

namespace DecimalLayout

/-- The exponent of a number in scientific form: a sign and at least two digits. -/
def exponentText (x : Int) : String :=
  let digits := decimalDigits x.natAbs
  (if x < 0 then "e-" else "e+") ++
    String.ofList (if digits.length < 2 then '0' :: digits else digits)

/-- The text of a positive decimal whose digits have no trailing zero. -/
def write (layout : DecimalLayout) (d : Decimal) : String :=
  let digits := decimalDigits d.digits
  let leading : Int := digits.length - 1 + d.exponent
  if -4 ≤ leading ∧ leading < layout.positionalBelow then
    if 0 ≤ d.exponent then
      String.ofList (digits ++ List.replicate d.exponent.toNat '0') ++
        (if layout.pointZero then ".0" else "")
    else if 0 ≤ leading then
      String.ofList (digits.take (leading.toNat + 1)) ++ "." ++
        String.ofList (digits.drop (leading.toNat + 1))
    else "0." ++ String.ofList (List.replicate (-leading - 1).toNat '0' ++ digits)
  else
    String.ofList (digits.take 1) ++
      (if digits.length = 1 then "" else "." ++ String.ofList (digits.drop 1)) ++
      exponentText leading

/-- Doubles are written with the fewest digits that identify them, without an exponent below
`10 ^ 16`, and never without a fraction or an exponent. -/
def natural : DecimalLayout := ⟨16, true⟩

/-- Measures are written with six significant digits, without an exponent below a million. -/
def measure : DecimalLayout := ⟨6, false⟩

end DecimalLayout

namespace Binary64

/-- A double in words where it is not a number to be laid out, and laid out by `digits` otherwise. -/
def writeWith (layout : DecimalLayout) (digits : Rat → Decimal) : Binary64 → String
  | .nan => "nan"
  | .infinite negative => if negative then "-inf" else "inf"
  | .negZero => if layout.pointZero then "-0.0" else "-0"
  | .finite value _ =>
    if value = 0 then (if layout.pointZero then "0.0" else "0")
    else if value < 0 then "-" ++ layout.write (digits (-value))
    else layout.write (digits value)

/-- The double with the fewest digits that read back, always with a fraction or an exponent. -/
def text (x : Binary64) : String := x.writeWith .natural .shortest

/-- The double with at most six significant digits. -/
def measureText (x : Binary64) : String :=
  x.writeWith .measure fun r =>
    let d := Decimal.significant r 6
    d.trim 6

/-- The integer that the double is, if it is one. -/
def toInt? (x : Binary64) : Option Int :=
  match x.toRat? with
  | some r => if r.den = 1 then some r.num else none
  | none => none

/-- The double as a plain number: an integer without a fraction, else the fewest digits that read
back. -/
def plainText (x : Binary64) : String :=
  match x.toInt? with
  | some n => toString n
  | none => x.text

end Binary64

/-- A rational with exactly `places` digits after the point, rounded by the given tie rule. -/
def fixedText (r : Rat) (places : Nat) (tie : TieRule) : String :=
  let units := roundNat ((if r < 0 then -r else r) * tenPow places) tie
  let fraction := decimalDigits (units % Nat.pow 10 places)
  let padding := List.replicate (places - fraction.length) '0'
  (if r < 0 then "-" else "") ++ toString (units / Nat.pow 10 places) ++
    (if places = 0 then "" else "." ++ String.ofList (padding ++ fraction))

/-- The multiple of `10 ^ (-places)` nearest to a rational. -/
def roundPlaces (r : Rat) (places : Nat) (tie : TieRule) : Rat :=
  let units : Rat := roundNat ((if r < 0 then -r else r) * tenPow places) tie
  (if r < 0 then -units else units) / tenPow places

end Montage
