import Mathlib.Data.Nat.Cast.Order.Field
import Montage.Proofs.Number.Places
import Montage.Proofs.Number.Rounding
import Montage.Proofs.Numeral

/-! # Doubles are read back from their digits

A number is rounded by no more than half a unit, and numbers that are close enough to a double are rounded to it.
Seventeen significant digits are always close enough, so the search for the fewest digits that read back ends with
digits that do.
-/

namespace Montage

/-- A quotient is rounded by no more than a half. -/
theorem divHalfEven_near (a : Nat) {b : Nat} (positive : 0 < b) :
    2 * (divHalfEven a b * b) ≤ 2 * a + b ∧ 2 * a ≤ 2 * (divHalfEven a b * b) + b := by
  have rest : a % b < b := Nat.mod_lt _ positive
  have split : b * (a / b) + a % b = a := Nat.div_add_mod a b
  have next : (a / b + 1) * b = b * (a / b) + b := by ring
  have same : a / b * b = b * (a / b) := Nat.mul_comm _ _
  simp only [divHalfEven]
  split <;> omega

namespace Binary64

variable {q r v : Rat}

/-- A number is rounded by no more than half of its unit. -/
theorem abs_ofRat_sub_le (nonneg : 0 ≤ r) (value : (ofRat r).toRat? = some v) :
    |v - r| ≤ (2 : Rat) ^ unitExponent r.num.natAbs r.den / 2 := by
  have denominator : 0 < unitDenominator r.den (unitExponent r.num.natAbs r.den) :=
    Nat.mul_pos r.den_pos (twoPow_pos _)
  have power : (0 : Rat) < 2 ^ unitExponent r.num.natAbs r.den := zpow_pos (by norm_num) _
  have whole : (r.num.natAbs : Rat) / r.den = r := by
    rw [Nat.cast_natAbs, abs_of_nonneg (Rat.num_nonneg.mpr nonneg), Rat.num_div_den]
  have split := unitNumerator_mul r.num.natAbs r.den_nz (unitExponent r.num.natAbs r.den)
  have near := divHalfEven_near (unitNumerator r.num.natAbs (unitExponent r.num.natAbs r.den)) denominator
  rw [whole] at split
  rw [toRat?_ofRat nonneg value, roundedUnits]
  generalize unitNumerator r.num.natAbs (unitExponent r.num.natAbs r.den) = n at *
  generalize unitDenominator r.den (unitExponent r.num.natAbs r.den) = d at *
  generalize (2 : Rat) ^ unitExponent r.num.natAbs r.den = unit at *
  generalize divHalfEven n d = k at *
  have positive : (0 : Rat) < d := by exact_mod_cast denominator
  have above : 2 * ((k : Rat) * d) ≤ 2 * n + d := by exact_mod_cast near.1
  have below : 2 * (n : Rat) ≤ 2 * (k * d) + d := by exact_mod_cast near.2
  rw [abs_le]
  constructor
  · rw [← mul_le_mul_iff_of_pos_right positive]
    nlinarith
  · rw [← mul_le_mul_iff_of_pos_right positive]
    nlinarith

/-- A number has no more than 53 binary digits before the point in its unit. -/
theorem lt_of_unitExponent (nonneg : 0 ≤ r) : r < 2 ^ 53 * (2 : Rat) ^ unitExponent r.num.natAbs r.den := by
  have fits := unitNumerator_lt r.num.natAbs r.den r.den_nz
  rw [← twoPow_cast, ← not_le, (units_le_iff nonneg _ _).1, not_le]
  exact fits

/-- What is so close to the greatest double is still in the range. -/
theorem greatestDouble_lt_gap : greatestDouble < 2 * 10 ^ 16 * (overflowBound - greatestDouble) := by decide +kernel

/-- Below the numbers with as many binary digits in a unit as a double has, no double lies within half of the unit. -/
theorem add_half_le_of_lt (representable : Representable r) (positive : 0 < r) {e : Int}
    (below : r < 2 ^ 52 * (2 : Rat) ^ e) : r + (2 : Rat) ^ e / 2 ≤ 2 ^ 52 * (2 : Rat) ^ e := by
  have power : (0 : Rat) < 2 ^ e := zpow_pos (by norm_num) e
  have finer : (2 : Rat) ^ (e - 1) = 2 ^ e / 2 := zpow_sub_one₀ (by norm_num) e
  rcases representable.exists_units positive.le (e - 1) with ⟨k, rfl⟩ | ⟨-, small⟩
  · rw [finer] at below ⊢
    have few : (k : Rat) < 2 ^ 53 := by
      rw [← mul_lt_mul_iff_of_pos_right (half_pos power)]
      linarith
    have units : k + 1 ≤ 2 ^ 53 := by exact_mod_cast few
    have most : ((k : Rat) + 1) * (2 ^ e / 2) ≤ 2 ^ 53 * (2 ^ e / 2) :=
      mul_le_mul_of_nonneg_right (by exact_mod_cast units) (half_pos power).le
    linarith
  · rw [finer] at small
    linarith

/-- A number closer to a double than half a unit in the last of seventeen digits is rounded to it. -/
theorem toRat?_ofRat_of_close (representable : Representable r) (positive : 0 < r)
    (close : |q - r| * (2 * 10 ^ 16) ≤ r) : (ofRat q).toRat? = some r := by
  obtain ⟨low, high⟩ := abs_le.mp (le_refl |q - r|)
  have least : 0 < q := by linarith
  have finite : (ofRat q).isFinite = true := by
    have bound := (abs_le.mp representable.abs_le).2
    have gap : (greatestDouble : Rat) < 2 * 10 ^ 16 * (overflowBound - greatestDouble) := by
      have close := greatestDouble_add_one_lt
      have sub : ((overflowBound - greatestDouble : Nat) : Rat) = overflowBound - greatestDouble :=
        Nat.cast_sub (by omega)
      rw [← sub]
      exact_mod_cast greatestDouble_lt_gap
    rw [ofRat, isFinite_round, abs_of_pos least]
    linarith
  obtain ⟨v, value⟩ := isFinite_iff.mp finite
  have near := abs_ofRat_sub_le least.le value
  have units := lt_of_unitExponent least.le
  have many := fun high => le_of_unitExponent least high
  have rounded := toRat?_ofRat least.le value
  generalize roundedUnits q.num.natAbs q.den = k at rounded
  generalize unitExponent q.num.natAbs q.den = e at *
  have power : (0 : Rat) < 2 ^ e := zpow_pos (by norm_num) e
  -- The number has so few digits in its unit that a double this close is less than half of the unit away.
  have within : |q - r| < (2 : Rat) ^ e / 2 := by linarith
  have same : v = r := by
    rcases representable.exists_units positive.le e with ⟨j, rfl⟩ | ⟨least, below⟩
    · obtain ⟨nearLow, nearHigh⟩ := abs_le.mp near
      obtain ⟨withinLow, withinHigh⟩ := abs_lt.mp within
      rw [rounded] at nearLow nearHigh ⊢
      have less : (k : Rat) * 2 ^ e < (j + 1) * 2 ^ e := by linarith
      have more : (j : Rat) * 2 ^ e < (k + 1) * 2 ^ e := by linarith
      rw [mul_lt_mul_iff_of_pos_right power] at less more
      have equal : k = j := by
        have first : k < j + 1 := by exact_mod_cast less
        have second : j < k + 1 := by exact_mod_cast more
        omega
      rw [equal]
    · have apart := add_half_le_of_lt representable positive below
      have reached := many least
      rw [twoPow_cast] at reached
      linarith
  rw [value, same]

/-- Doubles that stand for the same number other than zero are the same. -/
theorem eq_of_toRat? {x y : Binary64} (left : x.toRat? = some r) (right : y.toRat? = some r) (nonzero : r ≠ 0) :
    x = y := by
  cases x <;> cases y <;> simp_all [toRat?]

end Binary64

/-! ## Digits -/

theorem tenPow_eq (k : Int) : tenPow k = (10 : Rat) ^ k := by
  rcases Int.eq_nat_or_neg k with ⟨n, rfl | rfl⟩
  · rw [tenPow_natCast, zpow_natCast]
  · rw [Numeral.tenPow_neg, zpow_neg, zpow_natCast, one_div]

/-- A number lies between the powers of ten that its count of digits tells. -/
theorem decimalDigits_bounds {n : Nat} (positive : 0 < n) :
    10 ^ ((decimalDigits n).length - 1) ≤ n ∧ n < 10 ^ (decimalDigits n).length := by
  have some : 0 < (decimalDigits n).length := List.length_pos_of_ne_nil Nat.toDigits_ne_nil
  have fits {k : Nat} (count : 0 < k) : (decimalDigits n).length ≤ k ↔ n < 10 ^ k :=
    Nat.length_toDigits_le_iff (by decide) count
  refine ⟨?_, (fits some).mp le_rfl⟩
  rcases Nat.eq_zero_or_pos ((decimalDigits n).length - 1) with one | more
  · rw [one]
    exact positive
  · by_contra small
    have fewer := (fits more).mpr (not_le.mp small)
    omega

namespace Decimal

variable {r : Rat}

/-- A number of at least one has as many digits before the point as its scale says. -/
theorem decimalScale_bounds_of_one_le (large : 1 ≤ r) :
    (10 : Rat) ^ (decimalScale r - 1) ≤ r ∧ r < (10 : Rat) ^ decimalScale r := by
  obtain ⟨below, above⟩ := toNat_floor_bounds (zero_le_one.trans large)
  have positive : 0 < r.floor.toNat := by
    have one : 1 ≤ r.floor := Rat.le_floor_iff.mpr (by exact_mod_cast large)
    omega
  rw [decimalScale, if_pos large]
  generalize r.floor.toNat = n at below above positive
  obtain ⟨low, high⟩ := decimalDigits_bounds positive
  have some : 1 ≤ (decimalDigits n).length := List.length_pos_of_ne_nil Nat.toDigits_ne_nil
  generalize (decimalDigits n).length = count at low high some
  constructor
  · rw [← Nat.cast_one, ← Nat.cast_sub some, zpow_natCast]
    exact le_trans (by exact_mod_cast low) below
  · rw [zpow_natCast]
    have next : (n : Rat) + 1 ≤ 10 ^ count := by exact_mod_cast high
    linarith

/-- A positive number below one has zeros behind the point, as many as its inverse has digits or one less. -/
theorem decimalScale_bounds_of_lt_one (positive : 0 < r) (small : r < 1) :
    (10 : Rat) ^ (decimalScale r - 1) ≤ r ∧ r < (10 : Rat) ^ decimalScale r := by
  have numerator : 0 < r.num.natAbs := Int.natAbs_pos.mpr (Rat.num_ne_zero.mpr positive.ne')
  have units : (0 : Rat) < r.num.natAbs := by exact_mod_cast numerator
  have inverse : r⁻¹ = r.den / r.num.natAbs := by
    rw [Nat.cast_natAbs, abs_of_pos (Rat.num_pos.mpr positive), ← inv_div, Rat.num_div_den]
  have less : r.num.natAbs ≤ r.den := by
    have above : 1 ≤ r⁻¹ := (one_le_inv₀ positive).mpr small.le
    rw [inverse, le_div_iff₀ units, one_mul] at above
    exact_mod_cast above
  have some : 0 < r.den / r.num.natAbs := Nat.div_pos less numerator
  have below : ((r.den / r.num.natAbs : Nat) : Rat) ≤ r⁻¹ := inverse ▸ Nat.cast_div_le
  have above : r⁻¹ < (r.den / r.num.natAbs : Nat) + 1 := by
    rw [inverse, div_lt_iff₀ units, mul_comm]
    exact_mod_cast Nat.lt_mul_div_succ r.den numerator
  rw [decimalScale, if_neg (not_le.mpr small)]
  generalize r.den / r.num.natAbs = n at some below above
  obtain ⟨low, high⟩ := decimalDigits_bounds some
  have digits : 1 ≤ (decimalDigits n).length := List.length_pos_of_ne_nil Nat.toDigits_ne_nil
  simp only [tenPow_eq]
  generalize (decimalDigits n).length = count at low high digits
  have most : r ≤ (10 : Rat) ^ (1 - (count : Int)) := by
    have power : (10 : Rat) ^ (count - 1) ≤ r⁻¹ := le_trans (by exact_mod_cast low) below
    have flipped := inv_anti₀ (by positivity) power
    rwa [inv_inv, ← zpow_natCast, ← zpow_neg, Nat.cast_sub digits, Nat.cast_one, neg_sub] at flipped
  have least : (10 : Rat) ^ (-(count : Int)) < r := by
    have next : (n : Rat) + 1 ≤ 10 ^ count := by exact_mod_cast high
    have power : r⁻¹ < (10 : Rat) ^ count := above.trans_le next
    rw [zpow_neg, zpow_natCast]
    exact inv_lt_of_inv_lt₀ positive power
  split
  · next equal =>
    have scale : (2 : Int) - count - 1 = 1 - count := by omega
    refine ⟨by rw [scale, ← equal], ?_⟩
    rw [equal]
    exact zpow_lt_zpow_right₀ (by norm_num) (by omega)
  · next other =>
    have scale : (1 : Int) - count - 1 = -count := by omega
    exact ⟨by rw [scale]; exact least.le, lt_of_le_of_ne most other⟩

/-- The scale of a number: it lies between two powers of ten that follow each other. -/
theorem decimalScale_bounds (positive : 0 < r) :
    (10 : Rat) ^ (decimalScale r - 1) ≤ r ∧ r < (10 : Rat) ^ decimalScale r := by
  rcases le_or_gt 1 r with large | small
  · exact decimalScale_bounds_of_one_le large
  · exact decimalScale_bounds_of_lt_one positive small

/-- The nearest number with some significant digits is half a unit of the last one away at most. -/
theorem abs_significant_sub_le (positive : 0 < r) (count : Nat) :
    |(significant r count).toRat - r| ≤ (10 : Rat) ^ (decimalScale r - count) / 2 := by
  have power : (0 : Rat) < 10 ^ (decimalScale r - count) := zpow_pos (by norm_num) _
  have near := abs_roundNat_sub_le (div_nonneg positive.le power.le) .toEven
  simp only [significant, toRat, tenPow_eq]
  generalize roundNat (r / 10 ^ (decimalScale r - count)) .toEven = digits at near ⊢
  generalize (10 : Rat) ^ (decimalScale r - count) = unit at near power ⊢
  have whole : (digits : Rat) * unit - r = (digits - r / unit) * unit := by
    field_simp
  rw [whole, abs_mul, abs_of_pos power]
  linarith [mul_le_mul_of_nonneg_right near power.le]

/-- Seventeen significant digits are read back. -/
theorem ofRat_significant (representable : Representable r) (positive : 0 < r) :
    Binary64.ofRat (significant r 17).toRat = Binary64.ofRat r := by
  have near := abs_significant_sub_le positive 17
  have scale := (decimalScale_bounds positive).1
  have units : (10 : Rat) ^ (decimalScale r - 1) = 10 ^ (decimalScale r - (17 : Nat)) * 10 ^ 16 := by
    rw [← zpow_natCast, ← zpow_add₀ (by norm_num)]
    congr 1
    push_cast
    ring
  rw [units] at scale
  have close : |(significant r 17).toRat - r| * (2 * 10 ^ 16) ≤ r := by
    generalize (10 : Rat) ^ (decimalScale r - (17 : Nat)) = unit at near scale
    linarith
  have found := Binary64.toRat?_ofRat_of_close representable positive close
  exact Binary64.eq_of_toRat? found (Binary64.toRat?_ofRat_of_representable representable positive.le) positive.ne'

theorem ofRat_shortestFrom (representable : Representable r) (positive : 0 < r) {fuel count : Nat}
    (all : fuel + count = 17) : Binary64.ofRat (shortestFrom r fuel count).toRat = Binary64.ofRat r := by
  induction fuel generalizing count with
  | zero =>
    obtain rfl : count = 17 := by omega
    exact ofRat_significant representable positive
  | succ fuel ih =>
    rw [shortestFrom]
    split
    · next d found =>
      have same := List.find?_some found
      exact eq_of_beq same
    · exact ih (by omega)

theorem toRat_trim (fuel : Nat) (d : Decimal) : (d.trim fuel).toRat = d.toRat := by
  induction fuel generalizing d with
  | zero => rfl
  | succ fuel ih =>
    rw [trim]
    split
    · next ends =>
      rw [ih, toRat, toRat, tenPow_eq, tenPow_eq, zpow_add_one₀ (by norm_num)]
      have whole : (d.digits : Rat) = (d.digits / 10 : Nat) * 10 := by
        exact_mod_cast (Nat.div_mul_cancel (Nat.dvd_of_mod_eq_zero ends.2)).symm
      rw [whole]
      ring
    · rfl

/-- The fewest digits of a double are read back. -/
theorem ofRat_shortest (representable : Representable r) (positive : 0 < r) :
    Binary64.ofRat (shortest r).toRat = Binary64.ofRat r := by
  rw [shortest, toRat_trim]
  exact ofRat_shortestFrom representable positive rfl

end Decimal

end Montage
