import Mathlib.Data.Rat.Floor
import Mathlib.Tactic.Linarith
import Mathlib.Tactic.Positivity
import Montage.Geometry

/-! # Numbers in places

A number is rounded to a whole number of units, and its text has the digits of that whole number with a point among
them. What is written is never further from the number than half a unit, so a number between whole bounds is
written as one between them.
-/

namespace Montage

theorem tenPow_natCast (k : Nat) : tenPow k = 10 ^ k := by
  rw [tenPow, if_pos (Int.natCast_nonneg k), Int.toNat_natCast]
  exact_mod_cast rfl

/-- A number that is not negative lies between its whole part and the next whole number. -/
theorem toNat_floor_bounds {r : Rat} (nonneg : 0 ≤ r) : (r.floor.toNat : Rat) ≤ r ∧ r < r.floor.toNat + 1 := by
  have whole : (r.floor.toNat : Rat) = r.floor := by
    have least : 0 ≤ r.floor := Rat.le_floor_iff.mpr (by exact_mod_cast nonneg)
    exact_mod_cast Int.toNat_of_nonneg least
  rw [whole]
  exact ⟨Rat.floor_le r, by exact_mod_cast Rat.lt_floor_add_one r⟩

/-- A number is rounded by no more than a half. -/
theorem abs_roundNat_sub_le {r : Rat} (nonneg : 0 ≤ r) (tie : TieRule) : |roundNat r tie - r| ≤ 1 / 2 := by
  obtain ⟨below, above⟩ := toNat_floor_bounds nonneg
  simp only [roundNat]
  generalize r.floor.toNat = whole at below above ⊢
  rw [abs_le]
  split
  · constructor <;> linarith
  · split
    · cases tie with
      | toEven =>
        dsimp only
        split
        · constructor <;> linarith
        · rw [Nat.cast_add_one]
          constructor <;> linarith
      | awayFromZero =>
        dsimp only
        rw [Nat.cast_add_one]
        constructor <;> linarith
    · next notBelow notEqual =>
      have more : 1 / 2 < r - whole := lt_of_le_of_ne (not_lt.mp notBelow) (Ne.symm notEqual)
      rw [Nat.cast_add_one]
      constructor <;> linarith

/-- What is not above a whole number is not rounded above it. -/
theorem roundNat_le {r : Rat} {n : Nat} (nonneg : 0 ≤ r) (bound : r ≤ n) (tie : TieRule) : roundNat r tie ≤ n := by
  have near := (abs_le.mp (abs_roundNat_sub_le nonneg tie)).2
  have less : (roundNat r tie : Rat) < (n + 1 : Nat) := by
    rw [Nat.cast_add_one]
    linarith
  exact Nat.le_of_lt_succ (by exact_mod_cast less)

/-! ## Digits -/

/-- An unsigned numeral and what it denotes: digits, or digits with a point and a number of digits behind it. -/
inductive IsNumeral (places : Nat) : String → Rat → Prop
  | whole {digits : List Char} (nonempty : digits ≠ []) (plain : ∀ c ∈ digits, c.isDigit = true) :
      IsNumeral places (String.ofList digits) (Nat.ofDigitChars 10 digits 0)
  | pointed {digits fraction : List Char} (nonempty : digits ≠ []) (all : fraction.length = places)
      (plain : ∀ c ∈ digits ++ fraction, c.isDigit = true) :
      IsNumeral places (String.ofList (digits ++ '.' :: fraction))
        (Nat.ofDigitChars 10 (digits ++ fraction) 0 / 10 ^ places)

theorem isDigit_decimalDigits (n : Nat) : ∀ c ∈ decimalDigits n, c.isDigit = true :=
  fun _ member => Nat.isDigit_of_mem_toDigits (by decide) (by decide) member

theorem isNumeral_nat (places n : Nat) : IsNumeral places (toString n) n := by
  have numeral : IsNumeral places _ _ := .whole Nat.toDigits_ne_nil (isDigit_decimalDigits n)
  rwa [Nat.ofDigitChars_ten_toDigits, ← Nat.toString_eq_ofList_toDigits] at numeral

/-- The digits of a number with zeros in front of them. -/
def filledDigits (count n : Nat) : List Char :=
  List.replicate (count - (decimalDigits n).length) '0' ++ decimalDigits n

theorem length_filledDigits {count n : Nat} (positive : 0 < count) (below : n < 10 ^ count) :
    (filledDigits count n).length = count := by
  have fits := (Nat.length_toDigits_le_iff (by decide : 1 < 10) positive).mpr below
  rw [filledDigits, List.length_append, List.length_replicate, decimalDigits]
  omega

theorem isDigit_filledDigits (count n : Nat) : ∀ c ∈ filledDigits count n, c.isDigit = true := by
  rw [filledDigits, List.forall_mem_append]
  refine ⟨fun c zero => ?_, isDigit_decimalDigits n⟩
  rw [List.eq_of_mem_replicate zero]
  rfl

/-- Digits behind others are units below theirs. -/
theorem ofDigitChars_filledDigits {count n : Nat} (positive : 0 < count) (below : n < 10 ^ count) (start : Nat) :
    Nat.ofDigitChars 10 (filledDigits count n) start = start * 10 ^ count + n := by
  have zeros : Nat.ofDigitChars 10 (filledDigits count n) 0 = n := by
    rw [filledDigits, Nat.ofDigitChars_append, Nat.ofDigitChars_replicate_zero, Nat.mul_zero, decimalDigits,
      Nat.ofDigitChars_ten_toDigits]
  rw [Nat.ofDigitChars_eq_ofDigitChars_zero, zeros, length_filledDigits positive below, Nat.mul_comm]

/-- A number that is not negative is written without a sign: its whole part, a point, and the units of its last
place. -/
theorem fixedText_of_nonneg {r : Rat} (nonneg : 0 ≤ r) {places units : Nat} (positive : 0 < places) {tie : TieRule}
    (rounded : roundNat (r * tenPow places) tie = units) :
    fixedText r places tie = String.ofList
      (decimalDigits (units / 10 ^ places) ++ '.' :: filledDigits places (units % 10 ^ places)) := by
  have unsigned : ¬r < 0 := not_lt.mpr nonneg
  have pointed : places ≠ 0 := positive.ne'
  have fraction : List.replicate (places - (decimalDigits (units % Nat.pow 10 places)).length) '0' ++
      decimalDigits (units % Nat.pow 10 places) = filledDigits places (units % 10 ^ places) := rfl
  simp only [fixedText, rounded, unsigned, pointed, ↓reduceIte, fraction]
  rw [String.empty_append, Nat.toString_eq_ofList_toDigits, List.append_cons, String.ofList_append,
    String.ofList_append, String.append_assoc]
  rfl

/-- The text of a number that is not negative is the numeral of the units that it is rounded to. -/
theorem isNumeral_fixedText {r : Rat} (nonneg : 0 ≤ r) {places : Nat} (positive : 0 < places) (tie : TieRule) :
    IsNumeral places (fixedText r places tie) (roundNat (r * tenPow places) tie / 10 ^ places) := by
  rw [fixedText_of_nonneg nonneg positive rfl]
  generalize roundNat (r * tenPow places) tie = units
  have below : units % 10 ^ places < 10 ^ places := Nat.mod_lt _ (by positivity)
  have value : Nat.ofDigitChars 10
      (decimalDigits (units / 10 ^ places) ++ filledDigits places (units % 10 ^ places)) 0 = units := by
    rw [Nat.ofDigitChars_append, decimalDigits, Nat.ofDigitChars_ten_toDigits, ofDigitChars_filledDigits positive below,
      Nat.div_add_mod']
  have plain := List.forall_mem_append.mpr
    ⟨isDigit_decimalDigits (units / 10 ^ places), isDigit_filledDigits places (units % 10 ^ places)⟩
  have numeral : IsNumeral places _ _ := .pointed Nat.toDigits_ne_nil (length_filledDigits positive below) plain
  rwa [← decimalDigits, value] at numeral

/-- A coordinate between whole bounds is written as a numeral with a whole value or four places, and not outside of
them. -/
theorem isNumeral_coordinateText {r : Rat} {extent : Nat} (inside : 0 ≤ r ∧ r ≤ extent) :
    ∃ value, IsNumeral 4 (coordinateText r) value ∧ 0 ≤ value ∧ value ≤ extent := by
  unfold coordinateText
  split
  · next whole =>
    obtain ⟨n, numerator⟩ := Int.eq_ofNat_of_zero_le (Rat.num_nonneg.mpr inside.1)
    have same : r = n := by
      rw [← Rat.den_eq_one_iff r |>.mp whole, numerator]
      rfl
    rw [numerator]
    exact ⟨n, isNumeral_nat 4 n, same ▸ inside⟩
  · refine ⟨_, isNumeral_fixedText inside.1 (by decide) .awayFromZero, by positivity, ?_⟩
    have units : roundNat (r * tenPow (4 : Nat)) .awayFromZero ≤ extent * 10 ^ 4 := by
      rw [tenPow_natCast]
      refine roundNat_le (by linarith [inside.1]) ?_ _
      push_cast
      linarith [inside.2]
    rw [div_le_iff₀ (by positivity)]
    exact_mod_cast units

end Montage
