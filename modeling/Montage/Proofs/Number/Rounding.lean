import Montage.Proofs.Number.Range

/-! # Rounding keeps the order

A rational is rounded in a unit that is a power of two. A double is a whole number of these units, or so small that the
rational lies above it together with everything that it can be rounded to. What is rounded therefore stays on its side
of every double, and a double is rounded to itself.
-/

namespace Montage

theorem twoPow_cast (n : Nat) : (twoPow n : Rat) = 2 ^ n := by
  rw [twoPow]
  exact Nat.cast_pow 2 n

/-- A magnitude in a unit is a product. -/
theorem scaled_eq (m e : Int) : scaled m e = m * (2 : Rat) ^ e := by
  unfold scaled
  split
  · next positive =>
    rw [Int.cast_mul, Int.cast_natCast, twoPow_cast, ← zpow_natCast, Int.toNat_of_nonneg positive]
  · next negative =>
    have power : (2 : Rat) ^ e = ((2 : Rat) ^ (-e).toNat)⁻¹ := by
      rw [← zpow_natCast, Int.toNat_of_nonneg (by omega), zpow_neg, inv_inv]
    rw [Rat.mkRat_eq_div, twoPow_cast, power, div_eq_mul_inv]

/-- A quotient is rounded to no less than a whole number below it. -/
theorem le_divHalfEven {a b k : Nat} (positive : 0 < b) (below : k * b ≤ a) : k ≤ divHalfEven a b := by
  have quotient : k ≤ a / b := (Nat.le_div_iff_mul_le positive).mpr below
  simp only [divHalfEven]
  split
  · exact quotient
  · omega

/-- A quotient is rounded to no more than a whole number above it. -/
theorem divHalfEven_le_of_le {a b k : Nat} (positive : 0 < b) (above : a ≤ k * b) : divHalfEven a b ≤ k := by
  rcases above.lt_or_eq with less | rfl
  · exact divHalfEven_le less
  · have whole : 2 * (k * b % b) < b := by
      rw [Nat.mul_mod_left]
      exact positive
    simp only [divHalfEven, whole, true_or, if_true, Nat.mul_div_cancel k positive]
    exact le_rfl

/-- Two units that follow each other: the number has twice as many of the smaller one. -/
theorem unit_succ (n d : Nat) (e : Int) :
    unitNumerator n e * unitDenominator d (e + 1) = 2 * (unitNumerator n (e + 1) * unitDenominator d e) := by
  unfold unitNumerator unitDenominator
  rcases Int.lt_or_le e 0 with negative | positive
  · have numerator : (-e).toNat = 1 + (-(e + 1)).toNat := by omega
    have denominator : (e + 1).toNat = e.toNat := by omega
    rw [numerator, denominator, twoPow_add, show twoPow 1 = 2 by rfl]
    ring
  · have numerator : (-(e + 1)).toNat = (-e).toNat := by omega
    have denominator : (e + 1).toNat = 1 + e.toNat := by omega
    rw [numerator, denominator, twoPow_add, show twoPow 1 = 2 by rfl]
    ring

/-- The unit is the least one of all, or the number has as many binary digits in it as a double. -/
theorem le_unitNumerator {n d : Nat} (some : n ≠ 0) (nonzero : d ≠ 0) (high : -1074 < unitExponent n d) :
    twoPow 52 * unitDenominator d (unitExponent n d) ≤ unitNumerator n (unitExponent n d) := by
  have hn := twoPow_log2_le some
  have hd := lt_twoPow_log2 d
  revert high
  simp only [unitExponent]
  split
  · intro high
    generalize unit : (max (-1074) ((n.log2 : Int) - d.log2 - 53) : Int) = low at high ⊢
    simp only [unitNumerator, unitDenominator]
    calc twoPow 52 * (d * twoPow low.toNat)
        ≤ twoPow 52 * (twoPow (d.log2 + 1) * twoPow low.toNat) :=
          Nat.mul_le_mul_left _ (Nat.mul_le_mul_right _ hd.le)
      _ = twoPow (52 + (d.log2 + 1 + low.toNat)) := by rw [twoPow_add 52, twoPow_add (d.log2 + 1)]
      _ ≤ twoPow (n.log2 + (-low).toNat) := twoPow_le (by omega)
      _ = twoPow n.log2 * twoPow (-low).toNat := twoPow_add _ _
      _ ≤ n * twoPow (-low).toNat := Nat.mul_le_mul_right _ hn
  · next exceeds =>
    intro _
    generalize (max (-1074) ((n.log2 : Int) - d.log2 - 53) : Int) = low at exceeds ⊢
    have positive : 0 < unitDenominator d low := Nat.mul_pos (Nat.pos_of_ne_zero nonzero) (twoPow_pos _)
    have above := Nat.mul_le_mul_right (unitDenominator d (low + 1)) (Nat.not_lt.mp exceeds)
    rw [unit_succ, show twoPow 53 = 2 * twoPow 52 by rfl] at above
    have doubled : 2 * (twoPow 52 * unitDenominator d (low + 1) * unitDenominator d low) ≤
        2 * (unitNumerator n (low + 1) * unitDenominator d low) := by
      calc _ = 2 * twoPow 52 * unitDenominator d low * unitDenominator d (low + 1) := by ring
        _ ≤ _ := above
    exact Nat.le_of_mul_le_mul_right (Nat.le_of_mul_le_mul_left doubled (by decide)) positive

/-- A quotient and its numerator and denominator in a unit. -/
theorem unitNumerator_mul (n : Nat) {d : Nat} (nonzero : d ≠ 0) (e : Int) :
    (unitNumerator n e : Rat) * (2 : Rat) ^ e = n / d * unitDenominator d e := by
  have power : (2 : Rat) ^ (-e).toNat * (2 : Rat) ^ e = (2 : Rat) ^ e.toNat := by
    rw [← zpow_natCast, ← zpow_natCast, ← zpow_add₀ (by norm_num)]
    congr 1
    omega
  have whole : (d : Rat) ≠ 0 := by exact_mod_cast nonzero
  calc (unitNumerator n e : Rat) * (2 : Rat) ^ e = n * ((2 : Rat) ^ (-e).toNat * (2 : Rat) ^ e) := by
        rw [unitNumerator, Nat.cast_mul, twoPow_cast]
        ring
    _ = n / d * unitDenominator d e := by
        rw [power, unitDenominator, Nat.cast_mul, twoPow_cast]
        field_simp

/-- A double that is not negative is a whole number of a unit, or lies below 53 binary digits of it. -/
theorem Representable.exists_units {a : Rat} (representable : Representable a) (nonneg : 0 ≤ a) (e : Int) :
    (∃ k : Nat, a = k * (2 : Rat) ^ e) ∨ -1074 < e ∧ a < 2 ^ 52 * (2 : Rat) ^ e := by
  obtain ⟨m, f, magnitude, least, -, rfl⟩ := representable
  rw [scaled_eq] at nonneg ⊢
  have power : (0 : Rat) < 2 ^ f := zpow_pos (by norm_num) f
  have sign : 0 ≤ m := by exact_mod_cast nonneg_of_mul_nonneg_left nonneg power
  obtain ⟨k, rfl⟩ := Int.eq_ofNat_of_zero_le sign
  rcases Int.lt_or_le f e with less | fits
  · right
    refine ⟨by omega, ?_⟩
    have digits : (k : Rat) < 2 ^ 53 := by
      rw [← twoPow_cast]
      exact_mod_cast magnitude
    have step : (2 : Rat) ^ f ≤ 2 ^ (e - 1) := zpow_le_zpow_right₀ (by norm_num) (by omega)
    calc ((k : Int) : Rat) * 2 ^ f = k * 2 ^ f := by rw [Int.cast_natCast]
      _ < 2 ^ 53 * 2 ^ f := mul_lt_mul_of_pos_right digits power
      _ ≤ 2 ^ 53 * 2 ^ (e - 1) := mul_le_mul_of_nonneg_left step (by norm_num)
      _ = 2 ^ 52 * 2 ^ e := by
          rw [zpow_sub₀ (by norm_num)]
          ring
  · left
    refine ⟨k * 2 ^ (f - e).toNat, ?_⟩
    have split : (2 : Rat) ^ f = 2 ^ (f - e).toNat * 2 ^ e := by
      rw [← zpow_natCast, ← zpow_add₀ (by norm_num)]
      congr 1
      omega
    rw [split]
    push_cast
    ring

theorem representable_half {k : Nat} (small : 2 * k + 1 < twoPow 53) : Representable ((k : Rat) + 1 / 2) := by
  refine ⟨2 * k + 1, -1, by omega, by decide, by decide, ?_⟩
  rw [scaled_eq]
  push_cast
  norm_num
  ring

theorem representable_natCast {k : Nat} (small : k < twoPow 53) : Representable (k : Rat) := by
  refine ⟨k, 0, by omega, by decide, by decide, ?_⟩
  rw [scaled_eq]
  simp

/-- The number of units that a quotient is rounded to. -/
def roundedUnits (n d : Nat) : Nat :=
  divHalfEven (unitNumerator n (unitExponent n d)) (unitDenominator d (unitExponent n d))

/-- What a quotient is rounded to, in its unit: a carry is into the next unit and changes nothing. -/
theorem roundMagnitude_value {n d m : Nat} {e : Int} (rounded : roundMagnitude n d = some (m, e)) :
    (m : Rat) * (2 : Rat) ^ e = roundedUnits n d * (2 : Rat) ^ unitExponent n d := by
  simp only [roundMagnitude] at rounded
  rw [← roundedUnits] at rounded
  by_cases carry : roundedUnits n d = twoPow 53
  · simp only [carry, if_true, Option.ite_none_right_eq_some, Option.some.injEq, Prod.mk.injEq] at rounded
    obtain ⟨-, rfl, rfl⟩ := rounded
    rw [carry, twoPow_cast, twoPow_cast, zpow_add_one₀ (by norm_num)]
    ring
  · simp only [carry, if_false, Option.ite_none_right_eq_some, Option.some.injEq, Prod.mk.injEq] at rounded
    obtain ⟨-, rfl, rfl⟩ := rounded
    rfl

namespace Binary64

variable {a r v : Rat}

theorem floor_eq_ok_iff {x : Binary64} {n : Int} : x.floor = .ok n ↔ ∃ r, x.toRat? = some r ∧ r.floor = n := by
  cases x <;> simp [floor, toRat, toRat?, Except.map]

theorem floor_eq_ok {x : Binary64} (known : x.toRat? = some r) : x.floor = .ok r.floor :=
  floor_eq_ok_iff.mpr ⟨r, known, rfl⟩

/-- A number that is not negative is rounded to a double without a minus sign. -/
theorem isNegative_ofRat (nonneg : 0 ≤ r) : (ofRat r).isNegative = false := by
  rw [ofRat, decide_eq_false (not_lt.mpr nonneg)]
  unfold round
  split
  · rfl
  · next m e _ =>
    split
    · rfl
    · have positive : (0 : Rat) ≤ scaled m e := by
        rw [scaled_eq]
        exact mul_nonneg (by exact_mod_cast Nat.zero_le m) (zpow_nonneg (by norm_num) e)
      exact decide_eq_false (not_lt.mpr positive)

/-- The product of doubles that are not negative is the exact one, rounded once. -/
theorem mul_ofRat {a b : Rat} (left : (ofRat r).toRat? = some a) (right : (ofRat v).toRat? = some b)
    (nonneg : 0 ≤ r) (nonneg' : 0 ≤ v) : ofRat r * ofRat v = ofRat (a * b) := by
  have product : 0 ≤ a * b := mul_nonneg (nonneg_of_ofRat nonneg left) (nonneg_of_ofRat nonneg' right)
  rw [mul_eq_round left right, isNegative_ofRat nonneg, isNegative_ofRat nonneg', ofRat,
    decide_eq_false (not_lt.mpr product)]
  rfl

/-- What a number that is not negative is rounded to, in its unit. -/
theorem toRat?_ofRat (nonneg : 0 ≤ r) (value : (ofRat r).toRat? = some v) :
    v = roundedUnits r.num.natAbs r.den * (2 : Rat) ^ unitExponent r.num.natAbs r.den := by
  rw [ofRat, decide_eq_false (not_lt.mpr nonneg)] at value
  unfold round at value
  split at value
  · cases value
  · next m e rounded =>
    rw [← roundMagnitude_value rounded]
    split at value
    · next zero =>
      rw [zero, ← Option.some.inj value]
      simp
    · rw [← Option.some.inj value, scaled_eq]
      push_cast
      rfl

/-- A number that is not negative is compared with a whole number of a unit by its numerator and denominator in it. -/
theorem units_le_iff (nonneg : 0 ≤ r) (k : Nat) (e : Int) :
    (k * (2 : Rat) ^ e ≤ r ↔ k * unitDenominator r.den e ≤ unitNumerator r.num.natAbs e) ∧
      (r ≤ k * (2 : Rat) ^ e ↔ unitNumerator r.num.natAbs e ≤ k * unitDenominator r.den e) := by
  have power : (0 : Rat) < 2 ^ e := zpow_pos (by norm_num) e
  have denominator : (0 : Rat) < unitDenominator r.den e := by
    exact_mod_cast Nat.mul_pos r.den_pos (twoPow_pos _)
  have whole : (r.num.natAbs : Rat) / r.den = r := by
    rw [Nat.cast_natAbs, abs_of_nonneg (Rat.num_nonneg.mpr nonneg), Rat.num_div_den]
  have split := unitNumerator_mul r.num.natAbs r.den_nz e
  rw [whole] at split
  constructor
  · rw [← mul_le_mul_iff_of_pos_right denominator, ← split, mul_right_comm, mul_le_mul_iff_of_pos_right power]
    exact_mod_cast Iff.rfl
  · rw [← mul_le_mul_iff_of_pos_right denominator, ← split, mul_right_comm, mul_le_mul_iff_of_pos_right power]
    exact_mod_cast Iff.rfl

/-- In a unit that is not the least one a positive number has as many binary digits as a double. -/
theorem le_of_unitExponent (positive : 0 < r) (high : -1074 < unitExponent r.num.natAbs r.den) :
    (twoPow 52 : Nat) * (2 : Rat) ^ unitExponent r.num.natAbs r.den ≤ r := by
  rw [(units_le_iff positive.le _ _).1]
  apply le_unitNumerator _ r.den_nz high
  rw [Int.natAbs_ne_zero, Rat.num_ne_zero]
  exact positive.ne'

/-- What is not below a double is not rounded below it. -/
theorem le_of_le_ofRat (representable : Representable a) (nonneg : 0 ≤ r) (below : a ≤ r)
    (value : (ofRat r).toRat? = some v) : a ≤ v := by
  have least := nonneg_of_ofRat nonneg value
  rcases le_or_gt a 0 with negative | positive
  · exact negative.trans least
  · have power : (0 : Rat) < 2 ^ unitExponent r.num.natAbs r.den := zpow_pos (by norm_num) _
    have denominator : 0 < unitDenominator r.den (unitExponent r.num.natAbs r.den) :=
      Nat.mul_pos r.den_pos (twoPow_pos _)
    -- A whole number of units that is not above the number is not above what it is rounded to.
    have units (k : Nat) (fits : k * (2 : Rat) ^ unitExponent r.num.natAbs r.den ≤ r) :
        k * (2 : Rat) ^ unitExponent r.num.natAbs r.den ≤ v := by
      rw [toRat?_ofRat nonneg value, mul_le_mul_iff_of_pos_right power]
      exact_mod_cast le_divHalfEven denominator ((units_le_iff nonneg k _).1.mp fits)
    rcases representable.exists_units positive.le (unitExponent r.num.natAbs r.den) with ⟨k, rfl⟩ | ⟨high, small⟩
    · exact units k below
    · have many := units (twoPow 52) (le_of_unitExponent (positive.trans_le below) high)
      rw [twoPow_cast] at many
      exact small.le.trans many

/-- What is not above a double is not rounded above it. -/
theorem ofRat_le_of_le (representable : Representable a) (nonneg : 0 ≤ r) (above : r ≤ a)
    (value : (ofRat r).toRat? = some v) : v ≤ a := by
  have power : (0 : Rat) < 2 ^ unitExponent r.num.natAbs r.den := zpow_pos (by norm_num) _
  have denominator : 0 < unitDenominator r.den (unitExponent r.num.natAbs r.den) :=
    Nat.mul_pos r.den_pos (twoPow_pos _)
  have units (k : Nat) (fits : r ≤ k * (2 : Rat) ^ unitExponent r.num.natAbs r.den) :
      v ≤ k * (2 : Rat) ^ unitExponent r.num.natAbs r.den := by
    rw [toRat?_ofRat nonneg value, mul_le_mul_iff_of_pos_right power]
    exact_mod_cast divHalfEven_le_of_le denominator ((units_le_iff nonneg k _).2.mp fits)
  rcases nonneg.eq_or_lt with rfl | positive
  · have none := units 0 (by simp)
    rw [Nat.cast_zero, zero_mul] at none
    exact none.trans above
  · rcases representable.exists_units (positive.le.trans above) (unitExponent r.num.natAbs r.den) with
      ⟨k, rfl⟩ | ⟨high, small⟩
    · exact units k above
    · have many := le_of_unitExponent positive high
      rw [twoPow_cast] at many
      exact absurd (many.trans above) (not_le.mpr small)

/-- A double is rounded to itself. -/
theorem toRat?_ofRat_of_representable (representable : Representable r) (nonneg : 0 ≤ r) :
    (ofRat r).toRat? = some r := by
  have finite : (ofRat r).isFinite = true := by
    rw [ofRat, isFinite_round]
    have bound := representable.abs_le
    have close : (greatestDouble : Rat) + 1 < overflowBound := by exact_mod_cast greatestDouble_add_one_lt
    linarith
  obtain ⟨v, value⟩ := isFinite_iff.mp finite
  have same : v = r := le_antisymm (ofRat_le_of_le representable nonneg le_rfl value)
    (le_of_le_ofRat representable nonneg le_rfl value)
  rw [value, same]

end Binary64

end Montage
