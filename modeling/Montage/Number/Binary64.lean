/-! # Double-precision numbers

A finite double is a rational `m * 2 ^ e` whose magnitude `m` is below `2 ^ 53` and whose exponent
lies between -1074 and 971. Beside these there are a negative zero, two infinities and "not a
number". Arithmetic computes the exact rational result and rounds it once, to the nearest double
with ties to the even magnitude, so every statement about it is one about rationals and `round`.
-/

namespace Montage

/-- The powers of two. -/
def twoPow (n : Nat) : Nat := Nat.pow 2 n

theorem twoPow_pos (n : Nat) : 0 < twoPow n := Nat.two_pow_pos n

theorem twoPow_add (m n : Nat) : twoPow (m + n) = twoPow m * twoPow n := Nat.pow_add 2 m n

theorem twoPow_le {m n : Nat} (le : m ≤ n) : twoPow m ≤ twoPow n :=
  Nat.pow_le_pow_right (by decide) le

theorem lt_twoPow_log2 (n : Nat) : n < twoPow (n.log2 + 1) := Nat.lt_log2_self

theorem twoPow_log2_le {n : Nat} (nonzero : n ≠ 0) : twoPow n.log2 ≤ n := Nat.log2_self_le nonzero

/-- The rational `m * 2 ^ e`. -/
def scaled (m e : Int) : Rat :=
  if 0 ≤ e then (m * twoPow e.toNat : Int) else mkRat m (twoPow (-e).toNat)

/-- The rationals that a double can hold exactly. -/
def Representable (r : Rat) : Prop :=
  ∃ m e : Int, m.natAbs < twoPow 53 ∧ -1074 ≤ e ∧ e ≤ 971 ∧ r = scaled m e

/-- A double: a representable rational, the zero with a minus sign, an infinity, or no number. -/
inductive Binary64 where
  | finite (value : Rat) (representable : Representable value)
  | negZero
  | infinite (negative : Bool)
  | nan
  deriving DecidableEq

/-- The quotient `a / b` rounded to the nearest natural number, a tie going to the even one. -/
def divHalfEven (a b : Nat) : Nat :=
  let q := a / b
  let r := a % b
  if 2 * r < b ∨ (2 * r = b ∧ q % 2 = 0) then q else q + 1

theorem divHalfEven_le {a b bound : Nat} (below : a < bound * b) : divHalfEven a b ≤ bound := by
  have quotient : a / b < bound := Nat.div_lt_of_lt_mul (by rwa [Nat.mul_comm] at below)
  simp only [divHalfEven]
  split <;> omega

/-- The numerator of `n / d` in units of `2 ^ e`, over the matching `unitDenominator`. -/
def unitNumerator (n : Nat) (e : Int) : Nat := n * twoPow (-e).toNat

/-- The denominator of `n / d` in units of `2 ^ e`. -/
def unitDenominator (d : Nat) (e : Int) : Nat := d * twoPow e.toNat

/-- The unit in which `n / d` is rounded: the least one, not below `2 ^ (-1074)`, that leaves fewer
than 53 binary digits before the point. -/
def unitExponent (n d : Nat) : Int :=
  let low : Int := max (-1074) ((n.log2 : Int) - d.log2 - 53)
  if unitNumerator n low < twoPow 53 * unitDenominator d low then low else low + 1

theorem unitExponent_ge (n d : Nat) : -1074 ≤ unitExponent n d := by
  simp only [unitExponent]
  split <;> omega

theorem unitNumerator_lt (n d : Nat) (nonzero : d ≠ 0) :
    unitNumerator n (unitExponent n d) < twoPow 53 * unitDenominator d (unitExponent n d) := by
  simp only [unitExponent]
  split
  · assumption
  · generalize hlow : (max (-1074) ((n.log2 : Int) - d.log2 - 53) : Int) = low
    have above : (n.log2 : Int) + 1 ≤ 53 + (d.log2 + (low + 1)) := by omega
    have hn := lt_twoPow_log2 n
    have hd := twoPow_log2_le nonzero
    simp only [unitNumerator, unitDenominator]
    calc n * twoPow (-(low + 1)).toNat
        < twoPow (n.log2 + 1) * twoPow (-(low + 1)).toNat :=
          Nat.mul_lt_mul_of_pos_right hn (twoPow_pos _)
      _ = twoPow (n.log2 + 1 + (-(low + 1)).toNat) := (twoPow_add ..).symm
      _ ≤ twoPow (53 + (d.log2 + (low + 1).toNat)) := twoPow_le (by omega)
      _ = twoPow 53 * (twoPow d.log2 * twoPow (low + 1).toNat) := by
          rw [twoPow_add, twoPow_add d.log2]
      _ ≤ twoPow 53 * (d * twoPow (low + 1).toNat) :=
          Nat.mul_le_mul_left _ (Nat.mul_le_mul_right _ hd)

/-- Magnitude and exponent of the double nearest to `n / d`; `none` when it exceeds every double. -/
def roundMagnitude (n d : Nat) : Option (Nat × Int) :=
  let e := unitExponent n d
  let m := divHalfEven (unitNumerator n e) (unitDenominator d e)
  let (m, e) := if m = twoPow 53 then (twoPow 52, e + 1) else (m, e)
  if e ≤ 971 then some (m, e) else none

theorem roundMagnitude_bounds {n d m : Nat} {e : Int} (nonzero : d ≠ 0)
    (rounded : roundMagnitude n d = some (m, e)) : m < twoPow 53 ∧ -1074 ≤ e ∧ e ≤ 971 := by
  have unit := unitExponent_ge n d
  have small := divHalfEven_le (unitNumerator_lt n d nonzero)
  simp only [roundMagnitude] at rounded
  by_cases carry :
      divHalfEven (unitNumerator n (unitExponent n d)) (unitDenominator d (unitExponent n d)) =
        twoPow 53
  · simp only [carry, ↓reduceIte, Option.ite_none_right_eq_some, Option.some.injEq,
      Prod.mk.injEq] at rounded
    have fewer : twoPow 52 < twoPow 53 := by decide
    omega
  · simp only [carry, ↓reduceIte, Option.ite_none_right_eq_some, Option.some.injEq,
      Prod.mk.injEq] at rounded
    omega

namespace Binary64

/-- The zero without a minus sign. -/
def zero : Binary64 := .finite 0 ⟨0, 0, by decide, by decide, by decide, by decide +kernel⟩

/-- The double nearest to `r`, ties to the even magnitude; `negative` signs a result of zero. -/
def round (r : Rat) (negative : Bool) : Binary64 :=
  match rounded : roundMagnitude r.num.natAbs r.den with
  | none => .infinite negative
  | some (m, e) =>
    if m = 0 then bif negative then .negZero else zero
    else
      have bounds := roundMagnitude_bounds r.den_nz rounded
      bif negative then .finite (scaled (-m) e) ⟨-m, e, by omega, bounds.2.1, bounds.2.2, rfl⟩
      else .finite (scaled m e) ⟨m, e, by omega, bounds.2.1, bounds.2.2, rfl⟩

/-- The double nearest to a rational. -/
def ofRat (r : Rat) : Binary64 := round r (r < 0)

/-- The double nearest to an integer. -/
def ofInt (n : Int) : Binary64 := ofRat n

instance (n : Nat) : OfNat Binary64 n := ⟨ofInt n⟩

/-- The rational that a double stands for; none for the infinities and for no number. -/
def toRat? : Binary64 → Option Rat
  | .finite value _ => some value
  | .negZero => some 0
  | .infinite _ | .nan => none

/-- Whether the double is a number other than an infinity. -/
def isFinite (x : Binary64) : Bool := x.toRat?.isSome

/-- Both zeros are zero, nothing else is. -/
def isZero (x : Binary64) : Bool := x.toRat? == some 0

/-- The sign as written, which zeros have too. -/
def isNegative : Binary64 → Bool
  | .finite value _ => value < 0
  | .negZero => true
  | .infinite negative => negative
  | .nan => false

/-- The strict order of numbers, in which "not a number" has no place. -/
def lt : Binary64 → Binary64 → Bool
  | .nan, _ | _, .nan => false
  | .infinite negative, y => negative && y != .infinite true
  | _, .infinite negative => !negative
  | x, y => match x.toRat?, y.toRat? with
    | some a, some b => a < b
    | _, _ => false

/-- Numeric equality: the zeros are equal and "not a number" equals nothing. -/
def eq (x y : Binary64) : Bool :=
  x != .nan && (x == y || (x.isZero && y.isZero))

/-- The order of numbers. -/
def le (x y : Binary64) : Bool := x.lt y || x.eq y

/-- The same magnitude under the other sign. -/
def neg : Binary64 → Binary64
  | .finite value _ => if value = 0 then .negZero else ofRat (-value)
  | .negZero => zero
  | .infinite negative => .infinite !negative
  | .nan => .nan

/-- The rounded sum; a sum of exactly zero has no minus sign unless both terms have one. -/
def add : Binary64 → Binary64 → Binary64
  | .nan, _ | _, .nan => .nan
  | .infinite s, .infinite t => if s = t then .infinite s else .nan
  | .infinite s, _ | _, .infinite s => .infinite s
  | .negZero, .negZero => .negZero
  | x, y => match x.toRat?, y.toRat? with
    | some a, some b => ofRat (a + b)
    | _, _ => .nan

/-- The rounded difference. -/
def sub (x y : Binary64) : Binary64 := x.add y.neg

/-- The rounded product, signed by the signs of its factors. -/
def mul (x y : Binary64) : Binary64 :=
  let negative := x.isNegative != y.isNegative
  match x, y with
  | .nan, _ | _, .nan => .nan
  | .infinite _, y | y, .infinite _ => if y.isZero then .nan else .infinite negative
  | x, y => match x.toRat?, y.toRat? with
    | some a, some b => round (a * b) negative
    | _, _ => .nan

/-- The rounded quotient, signed by the signs of its operands. -/
def div (x y : Binary64) : Binary64 :=
  let negative := x.isNegative != y.isNegative
  match x, y with
  | .nan, _ | _, .nan => .nan
  | .infinite _, .infinite _ => .nan
  | .infinite _, _ => .infinite negative
  | _, .infinite _ => bif negative then .negZero else zero
  | x, y => match x.toRat?, y.toRat? with
    | some a, some b =>
      if b = 0 then (if a = 0 then .nan else .infinite negative) else round (a / b) negative
    | _, _ => .nan

instance : Add Binary64 := ⟨add⟩
instance : Sub Binary64 := ⟨sub⟩
instance : Mul Binary64 := ⟨mul⟩
instance : Div Binary64 := ⟨div⟩
instance : Neg Binary64 := ⟨neg⟩

/-- Keeps the first number unless the second is strictly smaller. -/
def min (x y : Binary64) : Binary64 := bif y.lt x then y else x

/-- Keeps the first number unless the second is strictly greater. -/
def max (x y : Binary64) : Binary64 := bif x.lt y then y else x

end Binary64

/-- What stands in the way of reading a double as an integer or of writing it in places. -/
inductive RangeFault where
  | integerOfNan
  | integerOfInfinity
  | placesOfInfinity
  | doubleOfInteger
  | doubleOfQuotient
  deriving DecidableEq, Repr

/-- The wording of a fault; writing an infinity in places has none. -/
def RangeFault.message : RangeFault → String
  | .integerOfNan => "cannot convert float NaN to integer"
  | .integerOfInfinity => "cannot convert float infinity to integer"
  | .placesOfInfinity => ""
  | .doubleOfInteger => "int too large to convert to float"
  | .doubleOfQuotient => "integer division result too large for a float"

namespace Binary64

/-- The exact rational behind a double that is to become an integer. -/
def toRat (x : Binary64) : Except RangeFault Rat :=
  match x with
  | .nan => .error .integerOfNan
  | .infinite _ => .error .integerOfInfinity
  | .finite value _ => .ok value
  | .negZero => .ok 0

/-- The greatest integer not above the double. -/
def floor (x : Binary64) : Except RangeFault Int := x.toRat.map Rat.floor

/-- The integer part, dropping any fraction. -/
def truncate (x : Binary64) : Except RangeFault Int :=
  x.toRat.map fun r => r.num.tdiv r.den

/-- The nearest double of an integer, refused when there is none. -/
def ofInt? (n : Int) : Except RangeFault Binary64 :=
  match ofInt n with
  | .infinite _ => .error .doubleOfInteger
  | x => .ok x

/-- The double nearest to a quotient of integers, refused when there is none. -/
def ofQuotient? (a : Int) (b : Nat) : Except RangeFault Binary64 :=
  match ofRat (mkRat a b) with
  | .infinite _ => .error .doubleOfQuotient
  | x => .ok x

end Binary64

end Montage
