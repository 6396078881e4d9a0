import Mathlib.Algebra.Order.Floor.Ring
import Mathlib.Data.Rat.Floor
import Mathlib.Tactic.Linarith
import Mathlib.Tactic.NormNum
import Montage.Geometry

/-! # The range of doubles

A rational is rounded to an infinity exactly from the middle between the greatest double and the power
of two after it. Whether arithmetic on finite doubles stays finite is therefore a bound on an exact
rational, and a double has an integer below it exactly if it is finite.
-/

namespace Montage

/-- The least magnitude that is rounded to an infinity. -/
def overflowBound : Nat := (twoPow 54 - 1) * twoPow 970

/-- The greatest magnitude of a finite double. -/
def greatestDouble : Nat := (twoPow 53 - 1) * twoPow 971

/-- A quotient below an even number is rounded up to it from the middle of the last step on. -/
theorem divHalfEven_eq_iff {a b top : Nat} (even : top % 2 = 0) (below : a < top * b) :
    divHalfEven a b = top ↔ (2 * top - 1) * b ≤ 2 * a := by
  have positive : 0 < b := Nat.pos_of_ne_zero fun zero => by simp [zero] at below
  have quotient : a / b < top := Nat.div_lt_of_lt_mul (by rwa [Nat.mul_comm] at below)
  have rest : a % b < b := Nat.mod_lt _ positive
  have split : b * (a / b) + a % b = a := Nat.div_add_mod a b
  obtain ⟨last, rfl⟩ := Nat.exists_eq_add_one_of_ne_zero (Nat.zero_lt_of_lt quotient).ne'
  have middle : (2 * (last + 1) - 1) * b = 2 * (b * last) + b := by
    rw [show 2 * (last + 1) - 1 = 2 * last + 1 by omega]
    ring
  rw [middle]
  simp only [divHalfEven]
  rcases Nat.lt_or_eq_of_le (Nat.le_of_lt_succ quotient) with lower | same
  · have under : b * (a / b + 1) ≤ b * last := Nat.mul_le_mul_left b lower
    rw [Nat.mul_add, Nat.mul_one] at under
    split <;> omega
  · rw [same] at split ⊢
    split <;> omega

theorem lt_of_unitExponent_le {n d : Nat} (nonzero : d ≠ 0) (low : unitExponent n d ≤ 970) :
    n < twoPow 1023 * d := by
  have unit := unitNumerator_lt n d nonzero
  simp only [unitNumerator, unitDenominator] at unit
  calc n = n * 1 := (Nat.mul_one n).symm
    _ ≤ n * twoPow (-unitExponent n d).toNat := Nat.mul_le_mul_left n (twoPow_pos _)
    _ < twoPow 53 * (d * twoPow (unitExponent n d).toNat) := unit
    _ ≤ twoPow 53 * (d * twoPow 970) :=
        Nat.mul_le_mul_left _ (Nat.mul_le_mul_left _ (twoPow_le (by omega)))
    _ = twoPow 1023 * d := by rw [show 1023 = 53 + 970 by rfl, twoPow_add]; ring

theorem le_of_unitExponent_ge {n d : Nat} (high : 972 ≤ unitExponent n d) :
    twoPow 1024 * d ≤ n := by
  have hd := lt_twoPow_log2 d
  simp only [unitExponent] at high
  split at high
  · next fits =>
    have wide : d.log2 + 1 + 1024 ≤ n.log2 := by omega
    have positive : n ≠ 0 := by
      rintro rfl
      simp at wide
    calc twoPow 1024 * d ≤ twoPow 1024 * twoPow (d.log2 + 1) := Nat.mul_le_mul_left _ hd.le
      _ = twoPow (d.log2 + 1 + 1024) := by rw [twoPow_add (d.log2 + 1), Nat.mul_comm]
      _ ≤ twoPow n.log2 := twoPow_le wide
      _ ≤ n := twoPow_log2_le positive
  · next exceeds =>
    generalize (max (-1074) ((n.log2 : Int) - d.log2 - 53) : Int) = low at high exceeds
    simp only [unitNumerator, unitDenominator, Nat.not_lt] at exceeds
    have none : (-low).toNat = 0 := by omega
    rw [none, show twoPow 0 = 1 by rfl, Nat.mul_one] at exceeds
    calc twoPow 1024 * d = twoPow 53 * (d * twoPow 971) := by
          rw [show 1024 = 53 + 971 by rfl, twoPow_add]; ring
      _ ≤ twoPow 53 * (d * twoPow low.toNat) :=
          Nat.mul_le_mul_left _ (Nat.mul_le_mul_left _ (twoPow_le (by omega)))
      _ ≤ n := exceeds

/-- In the last unit, what is rounded up to the next power of two lies beyond the range. -/
theorem divHalfEven_lastUnit {n d : Nat} (below : n < twoPow 53 * (d * twoPow 971)) :
    divHalfEven n (d * twoPow 971) = twoPow 53 ↔ overflowBound * d ≤ n := by
  rw [divHalfEven_eq_iff (by rfl) below]
  have double : (2 * twoPow 53 - 1) * (d * twoPow 971) = 2 * (overflowBound * d) := by
    rw [show 2 * twoPow 53 - 1 = twoPow 54 - 1 by rfl, show 971 = 1 + 970 by rfl, twoPow_add,
      show twoPow 1 = 2 by rfl, overflowBound]
    ring
  rw [double]
  exact Nat.mul_le_mul_left_iff (by decide)

/-- A quotient has no nearest double exactly from the bound on. -/
theorem roundMagnitude_eq_none {n d : Nat} (nonzero : d ≠ 0) :
    roundMagnitude n d = none ↔ overflowBound * d ≤ n := by
  have above : twoPow 1023 * d ≤ overflowBound * d := Nat.mul_le_mul_right d (by decide +kernel)
  have beyond : overflowBound * d ≤ twoPow 1024 * d := Nat.mul_le_mul_right d (by decide +kernel)
  simp only [roundMagnitude]
  rcases lt_trichotomy (unitExponent n d) 971 with low | last | high
  · have small := lt_of_unitExponent_le nonzero (Int.lt_add_one_iff.mp low)
    split <;> simp only [reduceCtorEq, ite_eq_right_iff, imp_false, not_le] <;> omega
  · have below := unitNumerator_lt n d nonzero
    rw [last] at below ⊢
    have numerator : unitNumerator n 971 = n := Nat.mul_one n
    have denominator : unitDenominator d 971 = d * twoPow 971 := rfl
    rw [numerator, denominator] at below ⊢
    rw [← divHalfEven_lastUnit below]
    split <;> simp_all
  · have large := le_of_unitExponent_ge (Int.add_one_le_iff.mpr high)
    split <;> simp only [ite_eq_right_iff, reduceCtorEq, imp_false, not_le] <;> omega

theorem abs_lt_iff (r : Rat) (bound : Nat) : |r| < bound ↔ r.num.natAbs < bound * r.den := by
  have positive : (0 : Rat) < r.den := by exact_mod_cast r.den_pos
  rw [Rat.abs_def, Rat.divInt_eq_div, Int.cast_natCast, Int.cast_natCast, div_lt_iff₀ positive]
  exact_mod_cast Iff.rfl

/-- A magnitude that a double can hold is not above the greatest double. -/
theorem Representable.abs_le {r : Rat} (representable : Representable r) :
    |r| ≤ greatestDouble := by
  obtain ⟨m, e, magnitude, -, exponent, rfl⟩ := representable
  have digits : |(m : Rat)| ≤ (twoPow 53 - 1 : Nat) := by
    rw [← Int.cast_abs, Int.abs_eq_natAbs]
    exact_mod_cast Nat.le_sub_one_of_lt magnitude
  rw [scaled]
  split
  · next positive =>
    have unit : twoPow e.toNat ≤ twoPow 971 := twoPow_le (by omega)
    rw [Int.cast_mul, Int.cast_natCast, abs_mul, Nat.abs_cast, greatestDouble, Nat.cast_mul]
    exact mul_le_mul digits (by exact_mod_cast unit) (Nat.cast_nonneg _) (Nat.cast_nonneg _)
  · have unit : (1 : Rat) ≤ twoPow (-e).toNat := by exact_mod_cast twoPow_pos (-e).toNat
    rw [Rat.mkRat_eq_div, abs_div, Nat.abs_cast]
    calc |(m : Rat)| / twoPow (-e).toNat ≤ |(m : Rat)| := div_le_self (abs_nonneg _) unit
      _ ≤ (twoPow 53 - 1 : Nat) := digits
      _ ≤ greatestDouble := by exact_mod_cast Nat.le_mul_of_pos_right _ (twoPow_pos 971)

/-- Half a pixel does not lead a double out of the range. -/
theorem greatestDouble_add_one_lt : greatestDouble + 1 < overflowBound := by decide +kernel

-- What follows is stated in terms of the two bounds, whose digits are better left alone.
attribute [irreducible] overflowBound greatestDouble

namespace Binary64

variable {x y : Binary64} {a b : Rat}

theorem isFinite_iff : x.isFinite = true ↔ ∃ r, x.toRat? = some r := Option.isSome_iff_exists

theorem ne_nan_of_isFinite (finite : x.isFinite = true) : x ≠ .nan := by
  rintro rfl
  contradiction

theorem abs_le_of_toRat? (value : x.toRat? = some a) : |a| ≤ greatestDouble := by
  cases x with
  | finite r representable => exact Option.some.inj value ▸ representable.abs_le
  | negZero => simp [← Option.some.inj value]
  | infinite | nan => contradiction

/-- Rounding gives a finite double exactly below the bound. -/
theorem isFinite_round {r : Rat} {negative : Bool} :
    (round r negative).isFinite = true ↔ |r| < overflowBound := by
  rw [abs_lt_iff, ← not_le, ← roundMagnitude_eq_none r.den_nz]
  unfold round
  split
  · next none => simp [none, isFinite, toRat?]
  · next some =>
    simp only [some, reduceCtorEq, not_false_eq_true, iff_true]
    split <;> cases negative <;> rfl

theorem round_ne_nan {r : Rat} {negative : Bool} : round r negative ≠ .nan := by
  unfold round
  split
  · simp
  · split <;> cases negative <;> simp [zero]

theorem mul_eq_round (left : x.toRat? = some a) (right : y.toRat? = some b) :
    x * y = round (a * b) (x.isNegative != y.isNegative) := by
  change x.mul y = _
  cases x <;> cases y <;>
    simp only [toRat?, Option.some.injEq, reduceCtorEq] at left right <;>
    subst left right <;> rfl

theorem add_eq_round (left : x.toRat? = some a) (right : y.toRat? = some b) :
    x + y = ofRat (a + b) ∨ x + y = .negZero ∧ a + b = 0 := by
  change x.add y = _ ∨ x.add y = _ ∧ _
  cases x <;> cases y <;>
    simp only [toRat?, Option.some.injEq, reduceCtorEq] at left right <;>
    subst left right
  all_goals first | exact .inl rfl | exact .inr ⟨rfl, by simp⟩

/-- The product of finite doubles is finite exactly if the exact product is below the bound. -/
theorem isFinite_mul (left : x.toRat? = some a) (right : y.toRat? = some b) :
    (x * y).isFinite = true ↔ |a * b| < overflowBound := by
  rw [mul_eq_round left right, isFinite_round]

/-- The sum of finite doubles is finite if the exact sum is below the bound. -/
theorem isFinite_add (left : x.toRat? = some a) (right : y.toRat? = some b)
    (below : |a + b| < overflowBound) : (x + y).isFinite = true := by
  rcases add_eq_round left right with sum | ⟨sum, -⟩
  · rw [sum, ofRat, isFinite_round]
    exact below
  · rw [sum]
    rfl

/-- The order of finite doubles is that of the rationals they stand for. -/
theorem lt_iff (left : x.toRat? = some a) (right : y.toRat? = some b) :
    x.lt y = true ↔ a < b := by
  cases x <;> cases y <;>
    simp only [toRat?, Option.some.injEq, reduceCtorEq] at left right <;>
    subst left right <;> simp [lt, toRat?]

theorem le_iff (left : x.toRat? = some a) (right : y.toRat? = some b) :
    x.le y = true ↔ a ≤ b := by
  have equal : x.eq y = true ↔ a = b := by
    cases x <;> cases y <;>
      simp only [toRat?, Option.some.injEq, reduceCtorEq] at left right <;>
      subst left right <;>
      simp only [eq, isZero, toRat?, bne_iff_ne, ne_eq, Bool.and_eq_true, Bool.or_eq_true, beq_iff_eq,
        finite.injEq, reduceCtorEq, Option.some.injEq, not_false_eq_true, true_and, and_true, false_or,
        true_or, or_iff_left_iff_imp, and_imp, eq_comm (a := (0 : Rat))]
    rintro rfl zero
    exact zero.symm
  rw [le, Bool.or_eq_true, lt_iff left right, equal, le_iff_lt_or_eq]

/-- Of two finite doubles the smaller one is kept. -/
theorem toRat?_min (left : x.toRat? = some a) (right : y.toRat? = some b) :
    (Binary64.min x y).toRat? = some (a ⊓ b) := by
  have order := lt_iff right left
  rw [Binary64.min]
  cases smaller : y.lt x with
  | true => rw [min_eq_right (order.mp smaller).le, cond_true, right]
  | false =>
    have least : a ≤ b := not_lt.mp fun lt => by simp [order.mpr lt] at smaller
    rw [min_eq_left least, cond_false, left]

/-- Of two finite doubles the greater one is kept. -/
theorem toRat?_max (left : x.toRat? = some a) (right : y.toRat? = some b) :
    (Binary64.max x y).toRat? = some (a ⊔ b) := by
  have order := lt_iff left right
  rw [Binary64.max]
  cases greater : x.lt y with
  | true => rw [max_eq_right (order.mp greater).le, cond_true, right]
  | false =>
    have most : b ≤ a := not_lt.mp fun lt => by simp [order.mpr lt] at greater
    rw [max_eq_left most, cond_false, left]

/-- A rational that is not negative is rounded to a double that is not. -/
theorem nonneg_of_ofRat {r : Rat} (nonneg : 0 ≤ r) (value : (ofRat r).toRat? = some a) : 0 ≤ a := by
  rw [ofRat, decide_eq_false (not_lt.mpr nonneg)] at value
  unfold round at value
  split at value
  · contradiction
  · next m e _ =>
    split at value
    · exact (Option.some.inj value).le
    · rw [← Option.some.inj value, scaled]
      split
      · exact_mod_cast Int.mul_nonneg (Int.natCast_nonneg m) (Int.natCast_nonneg _)
      · rw [Rat.mkRat_eq_div]
        positivity

end Binary64

end Montage
