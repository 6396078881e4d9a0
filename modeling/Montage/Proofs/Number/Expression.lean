import Mathlib.Tactic.Ring
import Montage.Proofs.Number.Places
import Montage.Proofs.Text.Search

/-! # Numbers in expressions

A double is written in an expression as the integer that it is, or with four places. What the text denotes is then the
nearest multiple of a ten-thousandth, and of two equally near ones the one further from zero. A greater double is
therefore never written as a smaller number.
-/

namespace Montage

/-! ## Reading -/

/-- What digits denote that may have a point among them. -/
def unsignedValue? (s : List Char) : Option Rat :=
  let digits := s.takeWhile Char.isDigit
  match s.dropWhile Char.isDigit with
  | [] => if digits = [] then none else some (Nat.ofDigitChars 10 digits 0)
  | c :: fraction =>
    if digits ≠ [] ∧ c = '.' ∧ fraction.all Char.isDigit then
      some (Nat.ofDigitChars 10 (digits ++ fraction) 0 / 10 ^ fraction.length)
    else none

/-- What a numeral denotes that may have a minus sign in front of it. -/
def plainValue? : List Char → Option Rat
  | '-' :: rest => (unsignedValue? rest).map (- ·)
  | s => unsignedValue? s

theorem unsignedValue?_of_isNumeral {places : Nat} {text : String} {value : Rat}
    (numeral : IsNumeral places text value) : unsignedValue? text.toList = some value := by
  cases numeral with
  | whole nonempty plain =>
    rw [String.toList_ofList, unsignedValue?, List.dropWhile_eq_nil_iff.mpr plain,
      List.takeWhile_eq_self_iff.mpr plain, if_neg nonempty]
  | @pointed digits fraction nonempty all plain =>
    obtain ⟨before, after⟩ := List.forall_mem_append.mp plain
    have stops : Text.StopsAt Char.isDigit ('.' :: fraction) := Text.stopsAt_cons.mpr rfl
    rw [String.toList_ofList, unsignedValue?, Text.dropWhile_append before stops, Text.takeWhile_append before stops]
    simp only [nonempty, ne_eq, not_false_eq_true, true_and, List.all_eq_true.mpr after, if_true, all]

/-- Digits are no minus sign. -/
theorem plainValue?_of_isNumeral {places : Nat} {text : String} {value : Rat} (numeral : IsNumeral places text value) :
    plainValue? text.toList = some value ∧ plainValue? ("-" ++ text).toList = some (-value) := by
  have read := unsignedValue?_of_isNumeral numeral
  constructor
  · rw [plainValue?.eq_2, read]
    intro rest same
    rw [same] at read
    cases read
  · have minus : ("-" ++ text).toList = '-' :: text.toList := String.toList_append
    rw [minus, plainValue?, read, Option.map_some]

/-! ## The nearest multiple -/

/-- A multiple of the last place that is nearest to a number, and further from zero than it if another one is as near. -/
structure IsNearest (places : Nat) (r value : Rat) : Prop where
  multiple : ∃ k : Int, value = k / 10 ^ places
  near : |r - value| ≤ 1 / 2 / 10 ^ places
  tie : |r - value| = 1 / 2 / 10 ^ places → |r| < |value|

namespace IsNearest

variable {places : Nat} {r s value other : Rat}

theorem neg (nearest : IsNearest places r value) : IsNearest places (-r) (-value) := by
  have distance : |-r - -value| = |r - value| := by rw [← abs_neg (r - value)]; ring_nf
  obtain ⟨⟨k, rfl⟩, near, tie⟩ := nearest
  refine ⟨⟨-k, by push_cast; ring⟩, distance ▸ near, fun far => ?_⟩
  rw [abs_neg, abs_neg]
  exact tie (distance ▸ far)

/-- A multiple is nearest to itself. -/
theorem of_multiple (multiple : ∃ k : Int, r = k / 10 ^ places) : IsNearest places r r := by
  have half : (0 : Rat) < 1 / 2 / 10 ^ places := by positivity
  refine ⟨multiple, ?_, fun far => absurd far ?_⟩
  · rw [sub_self, abs_zero]
    exact half.le
  · rw [sub_self, abs_zero]
    exact half.ne

/-- The multiples nearest to two numbers are in their order. -/
theorem mono (first : IsNearest places r value) (second : IsNearest places s other) (le : r ≤ s) : value ≤ other := by
  obtain ⟨⟨k, rfl⟩, near, tie⟩ := first
  obtain ⟨⟨l, rfl⟩, near', tie'⟩ := second
  have unit : (0 : Rat) < 10 ^ places := by positivity
  have half : (0 : Rat) < 1 / 2 / 10 ^ places := by positivity
  rw [div_le_div_iff_of_pos_right unit, Int.cast_le]
  by_contra greater
  have apart : (l : Rat) + 1 ≤ k := by exact_mod_cast Int.add_one_le_of_lt (not_le.mp greater)
  have step : (l : Rat) / 10 ^ places + 1 / 10 ^ places ≤ k / 10 ^ places := by
    rw [← add_div]
    exact div_le_div_of_nonneg_right apart unit.le
  have halves : (1 : Rat) / 10 ^ places = 1 / 2 / 10 ^ places + 1 / 2 / 10 ^ places := by ring
  -- There is room for one number only, in the middle between two multiples, and it goes to one of them.
  have low := (abs_le.mp near).1
  have high := (abs_le.mp near').2
  have above : r - k / 10 ^ places = -(1 / 2 / 10 ^ places) := by linarith
  have below : s - l / 10 ^ places = 1 / 2 / 10 ^ places := by linarith
  have same : r = s := by linarith
  have further := tie (by rw [above, abs_neg, abs_of_pos half])
  have further' := tie' (by rw [below, abs_of_pos half])
  have next : k = l + 1 := by
    have quotient : (k : Rat) / 10 ^ places = (l + 1) / 10 ^ places := by
      rw [add_div]
      linarith
    exact_mod_cast (div_left_inj' unit.ne').mp quotient
  rcases le_or_gt k 0 with negative | positive
  · have sign : (k : Rat) / 10 ^ places ≤ 0 := div_nonpos_of_nonpos_of_nonneg (by exact_mod_cast negative) unit.le
    rw [abs_of_nonpos sign, abs_of_nonpos (by linarith)] at further
    linarith
  · have sign : 0 ≤ (l : Rat) / 10 ^ places := div_nonneg (by exact_mod_cast (by omega : 0 ≤ l)) unit.le
    rw [abs_of_nonneg sign, abs_of_nonneg (by linarith)] at further'
    linarith

end IsNearest

/-- A number is taken up to the next whole one from the middle on. -/
theorem roundNat_awayFromZero_bounds {r : Rat} (nonneg : 0 ≤ r) :
    (roundNat r .awayFromZero : Rat) - 1 / 2 ≤ r ∧ r < roundNat r .awayFromZero + 1 / 2 := by
  obtain ⟨below, above⟩ := toNat_floor_bounds nonneg
  simp only [roundNat]
  generalize r.floor.toNat = whole at below above ⊢
  split
  · constructor <;> linarith
  · next notBelow =>
    have most : (whole : Rat) + 1 - 1 / 2 ≤ r ∧ r < whole + 1 + 1 / 2 := by constructor <;> linarith
    split <;> rwa [Nat.cast_add_one]

theorem isNearest_roundNat {r : Rat} (nonneg : 0 ≤ r) (places : Nat) :
    IsNearest places r (roundNat (r * tenPow places) .awayFromZero / 10 ^ places) := by
  have unit : (0 : Rat) < 10 ^ places := by positivity
  obtain ⟨low, high⟩ := roundNat_awayFromZero_bounds (mul_nonneg nonneg unit.le)
  rw [tenPow_natCast]
  generalize roundNat (r * 10 ^ places) .awayFromZero = units at low high ⊢
  have least : (units : Rat) / 10 ^ places - 1 / 2 / 10 ^ places ≤ r := by
    rw [← sub_div, div_le_iff₀ unit]
    exact low
  have most : r < units / 10 ^ places + 1 / 2 / 10 ^ places := by
    rw [← add_div, lt_div_iff₀ unit]
    exact high
  have half : (0 : Rat) < 1 / 2 / 10 ^ places := by positivity
  refine ⟨⟨units, rfl⟩, abs_le.mpr ⟨by linarith, by linarith⟩, fun far => ?_⟩
  rcases abs_choice (r - units / 10 ^ places) with side | side
  · linarith
  · rw [abs_of_nonneg nonneg, abs_of_nonneg (by positivity)]
    linarith

/-! ## Writing -/

/-- A number in an expression: the numeral of an integer, or a whole part, a point and four digits with a sign in front
of them if the number is negative. -/
inductive IsExpression (r : Rat) : String → Prop
  | whole (n : Int) (same : r = n) : IsExpression r (toString n)
  | pointed (whole : Nat) {fraction : List Char} (broken : ∀ n : Int, r ≠ n) (four : fraction.length = 4)
      (plain : ∀ c ∈ fraction, c.isDigit = true) :
      IsExpression r ((if r < 0 then "-" else "") ++ toString whole ++ "." ++ String.ofList fraction)

theorem plainValue?_int (n : Int) : plainValue? (toString n).toList = some (n : Rat) := by
  cases n with
  | ofNat n => exact (plainValue?_of_isNumeral (isNumeral_nat 4 n)).1
  | negSucc n =>
    have read := (plainValue?_of_isNumeral (isNumeral_nat 4 (n + 1))).2
    rw [Int.cast_negSucc]
    exact read

/-- A negative number is written as its opposite behind a minus sign. -/
theorem fixedText_of_neg {r : Rat} (negative : r < 0) (places : Nat) (tie : TieRule) :
    fixedText r places tie = "-" ++ fixedText (-r) places tie := by
  have opposite : ¬-r < 0 := by linarith
  simp only [fixedText, negative, opposite, if_true, if_false, String.empty_append, String.append_assoc]

/-- What is written with four places. -/
theorem fixedText_isExpression {r : Rat} (broken : ∀ n : Int, r ≠ n) :
    IsExpression r (fixedText r 4 .awayFromZero) ∧
      ∃ value, plainValue? (fixedText r 4 .awayFromZero).toList = some value ∧ IsNearest 4 r value := by
  have places {r : Rat} (nonneg : 0 ≤ r) : ∃ (whole : Nat) (fraction : List Char), fraction.length = 4 ∧
      (∀ c ∈ fraction, c.isDigit = true) ∧
      fixedText r 4 .awayFromZero = toString whole ++ "." ++ String.ofList fraction := by
    generalize rounded : roundNat (r * tenPow (4 : Nat)) .awayFromZero = units
    refine ⟨units / 10 ^ 4, filledDigits 4 (units % 10 ^ 4),
      length_filledDigits (by decide) (Nat.mod_lt _ (by decide)), isDigit_filledDigits 4 _, ?_⟩
    rw [fixedText_of_nonneg nonneg (by decide) rounded, List.append_cons, String.ofList_append, String.ofList_append,
      Nat.toString_eq_ofList_toDigits]
    rfl
  rcases lt_or_ge r 0 with negative | nonneg
  · have opposite : 0 ≤ -r := by linarith
    obtain ⟨whole, fraction, four, plain, text⟩ := places opposite
    have numeral := isNumeral_fixedText opposite (by decide : 0 < 4) .awayFromZero
    rw [fixedText_of_neg negative]
    constructor
    · have form := IsExpression.pointed whole broken four plain
      rw [if_pos negative] at form
      rwa [text, ← String.append_assoc, ← String.append_assoc]
    · refine ⟨_, (plainValue?_of_isNumeral numeral).2, ?_⟩
      have nearest := (isNearest_roundNat opposite 4).neg
      rwa [neg_neg] at nearest
  · obtain ⟨whole, fraction, four, plain, text⟩ := places nonneg
    have numeral := isNumeral_fixedText nonneg (by decide : 0 < 4) .awayFromZero
    constructor
    · have form := IsExpression.pointed whole broken four plain
      rwa [if_neg (not_lt.mpr nonneg), String.empty_append, ← text] at form
    · exact ⟨_, (plainValue?_of_isNumeral numeral).1, isNearest_roundNat nonneg 4⟩

theorem coordinateText_isExpression (r : Rat) :
    IsExpression r (coordinateText r) ∧
      ∃ value, plainValue? (coordinateText r).toList = some value ∧ IsNearest 4 r value := by
  unfold coordinateText
  split
  · next whole =>
    have same : r = r.num := (Rat.den_eq_one_iff r).mp whole |>.symm
    refine ⟨.whole r.num same, r.num, plainValue?_int r.num, ?_⟩
    rw [← same]
    exact .of_multiple ⟨r.num * 10 ^ 4, by push_cast; rw [← same]; ring⟩
  · next broken =>
    refine fixedText_isExpression fun n same => broken ?_
    rw [same]
    exact Rat.den_intCast n

theorem expressionText_eq_ok {x : Binary64} {r : Rat} (number : x.toRat? = some r) :
    expressionText x = .ok (coordinateText r) := by
  cases x with
  | finite | negZero =>
    obtain rfl := Option.some.inj number
    rfl
  | infinite | nan => cases number

/-- Every double is written as the integer that it is, or with a point and four digits. What is written denotes the
nearest multiple of a ten-thousandth, of two equally near ones the one further from zero, and never less than what a
smaller double is written as. -/
theorem expressionText_isNearest {x : Binary64} {r : Rat} (number : x.toRat? = some r) :
    ∃ text value, expressionText x = .ok text ∧ IsExpression r text ∧ plainValue? text.toList = some value ∧
      IsNearest 4 r value ∧
      ∀ (y : Binary64) (s : Rat), y.toRat? = some s → r ≤ s →
        ∃ other more, expressionText y = .ok other ∧ plainValue? other.toList = some more ∧ value ≤ more := by
  obtain ⟨form, value, read, nearest⟩ := coordinateText_isExpression r
  refine ⟨_, value, expressionText_eq_ok number, form, read, nearest, fun y s number' le => ?_⟩
  obtain ⟨-, more, read', nearest'⟩ := coordinateText_isExpression s
  exact ⟨_, more, expressionText_eq_ok number', read', nearest.mono nearest' le⟩

/-- A negative number in the middle between two multiples is written as the lower one. -/
theorem expressionText_isNearest_tie : (Binary64.ofRat (-1 / 32)).toRat? = some (-1 / 32) ∧
    ∃ text value, expressionText (Binary64.ofRat (-1 / 32)) = .ok text ∧ IsExpression (-1 / 32) text ∧
      plainValue? text.toList = some value ∧ IsNearest 4 (-1 / 32) value ∧
      ∀ (y : Binary64) (s : Rat), y.toRat? = some s → -1 / 32 ≤ s →
        ∃ other more, expressionText y = .ok other ∧ plainValue? other.toList = some more ∧ value ≤ more :=
  ⟨by decide +kernel, expressionText_isNearest (by decide +kernel)⟩

example : expressionText (Binary64.ofRat (-1 / 32)) = .ok "-0.0313" := by decide +kernel

end Montage
