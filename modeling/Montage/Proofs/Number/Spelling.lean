import Montage.Proofs.Number.Shortest

/-! # Numerals with a point or an exponent

A numeral has digits before the point, may have digits after it, and may have a power of ten. Whatever the layout of a
double, its digits and its power denote the decimal that was laid out. The text of every finite double is therefore
read as that double, the sign of a zero included.
-/

namespace Montage

theorem foldDigits_asciiValue (s : List Char) (start : Nat) :
    foldDigits start (s.map Numeral.asciiValue) = Nat.ofDigitChars 10 s start := by
  rw [foldDigits, List.foldl_map, Nat.ofDigitChars_eq_foldl]
  rfl

theorem ofDigitChars_lt {s : List Char} (digits : ∀ c ∈ s, c.isDigit = true) (start : Nat) :
    Nat.ofDigitChars 10 s start < (start + 1) * 10 ^ s.length := by
  induction s generalizing start with
  | nil => simp
  | cons c rest ih =>
    obtain ⟨digit, others⟩ := List.forall_mem_cons.mp digits
    have value : c.toNat - '0'.toNat < 10 := by
      have range := Text.toNat_of_isDigit digit
      have zero : '0'.toNat = 48 := rfl
      omega
    rw [Nat.ofDigitChars_cons, List.length_cons, pow_succ]
    calc Nat.ofDigitChars 10 rest (10 * start + (c.toNat - '0'.toNat))
        < (10 * start + (c.toNat - '0'.toNat) + 1) * 10 ^ rest.length := ih others _
      _ ≤ (10 * (start + 1)) * 10 ^ rest.length := Nat.mul_le_mul_right _ (by omega)
      _ = (start + 1) * (10 ^ rest.length * 10) := by ring

/-- The digits of a number do not start with a zero. -/
theorem decimalDigits_eq_cons {n : Nat} (positive : 0 < n) : ∃ c rest, decimalDigits n = c :: rest ∧ c ≠ '0' := by
  obtain ⟨c, rest, split⟩ := List.exists_cons_of_ne_nil (l := decimalDigits n) Nat.toDigits_ne_nil
  refine ⟨c, rest, split, ?_⟩
  rintro rfl
  have digits : ∀ c ∈ rest, c.isDigit = true := fun c member =>
    Nat.isDigit_of_mem_toDigits (by decide) (by decide) (split ▸ List.mem_cons_of_mem _ member)
  have value : n = Nat.ofDigitChars 10 rest 0 := by
    calc n = Nat.ofDigitChars 10 (decimalDigits n) 0 := Nat.ofDigitChars_ten_toDigits.symm
      _ = Nat.ofDigitChars 10 rest 0 := by rw [split, Nat.ofDigitChars_cons]; rfl
  have least := (decimalDigits_bounds positive).1
  have most := ofDigitChars_lt digits 0
  rw [split, List.length_cons, Nat.add_sub_cancel] at least
  omega

/-- A power of ten is written as a letter, a sign and digits. -/
theorem exponentText_eq (e : Int) : ∃ (negative : Bool) (digits : List Char),
    (DecimalLayout.exponentText e).toList = 'e' :: (bif negative then '-' else '+') :: digits ∧
      digits ≠ [] ∧ (∀ c ∈ digits, c.isDigit = true) ∧
      (bif negative then -(Nat.ofDigitChars 10 digits 0 : Int) else Nat.ofDigitChars 10 digits 0) = e := by
  have denoted : Nat.ofDigitChars 10 (decimalDigits e.natAbs) 0 = e.natAbs := Nat.ofDigitChars_ten_toDigits
  obtain ⟨digits, padded, nonempty, plain, value⟩ : ∃ digits,
      (if (decimalDigits e.natAbs).length < 2 then '0' :: decimalDigits e.natAbs else decimalDigits e.natAbs) = digits ∧
        digits ≠ [] ∧ (∀ c ∈ digits, c.isDigit = true) ∧ Nat.ofDigitChars 10 digits 0 = e.natAbs := by
    have plain := isDigit_decimalDigits e.natAbs
    split
    · exact ⟨_, rfl, List.cons_ne_nil _ _, List.forall_mem_cons.mpr ⟨rfl, plain⟩, denoted⟩
    · exact ⟨_, rfl, Nat.toDigits_ne_nil, plain, denoted⟩
  refine ⟨decide (e < 0), digits, ?_, nonempty, plain, ?_⟩
  · simp only [DecimalLayout.exponentText, padded]
    split
    · next negative => simp [negative]
    · next positive => simp [positive]
  · rw [value]
    rcases Int.lt_or_le e 0 with negative | positive
    · simp only [decide_eq_true negative, cond_true]
      omega
    · simp only [decide_eq_false (not_lt.mpr positive), cond_false]
      omega

namespace Numeral

theorem readExponent_exponentText (e : Int) : readExponent (DecimalLayout.exponentText e).toList = some e := by
  obtain ⟨negative, digits, text, nonempty, plain, value⟩ := exponentText_eq e
  rw [text]
  cases negative <;>
    simpa [readExponent, splitSign, nonempty, List.all_eq_true.mpr plain, foldDigits_asciiValue] using value

/-- The parts of a numeral: the digits before the point and after it, and a power of ten. There is a zero in front only if
there is nothing else before the point. -/
structure Spelling where
  whole : List Char
  fraction : List Char
  power : Option Int
  digits : ∀ c ∈ whole ++ fraction, c.isDigit = true
  leading : whole = ['0'] ∨ ∃ c rest, whole = c :: rest ∧ c ≠ '0'

namespace Spelling

/-- The point and the digits after it, if there are any. -/
def pointText (p : Spelling) : List Char := if p.fraction = [] then [] else '.' :: p.fraction

/-- The power of ten, if there is one. -/
def powerText (p : Spelling) : List Char :=
  match p.power with
  | some e => (DecimalLayout.exponentText e).toList
  | none => []

/-- The numeral. -/
def text (p : Spelling) : List Char := p.whole ++ p.pointText ++ p.powerText

/-- The numeral behind a minus sign or without one. -/
def signed (p : Spelling) (negative : Bool) : List Char := if negative then '-' :: p.text else p.text

/-- Whether the numeral has nothing but digits. -/
def IsWhole (p : Spelling) : Prop := p.fraction = [] ∧ p.power = none

/-- The number that all digits denote together. -/
def mantissa (p : Spelling) : Nat := Nat.ofDigitChars 10 (p.whole ++ p.fraction) 0

/-- What the numeral denotes. -/
def value (p : Spelling) : Rat := p.mantissa * (10 : Rat) ^ (p.power.getD 0 - p.fraction.length)

/-- The numeral of a natural number. -/
def ofNat (n : Nat) : Spelling where
  whole := decimalDigits n
  fraction := []
  power := none
  digits := by simpa using isDigit_decimalDigits n
  leading := by
    rcases Nat.eq_zero_or_pos n with rfl | positive
    · exact .inl rfl
    · exact .inr (decimalDigits_eq_cons positive)

variable {p : Spelling} {d : Decimal}

@[simp]
theorem mantissa_ofNat (n : Nat) : (ofNat n).mantissa = n := by
  rw [mantissa, ofNat, List.append_nil]
  exact Nat.ofDigitChars_ten_toDigits

theorem whole_ne_nil (p : Spelling) : p.whole ≠ [] := by
  rcases p.leading with zero | ⟨c, others, split, -⟩
  · simp [zero]
  · simp [split]

theorem pointText_eq_nil : p.pointText = [] ↔ p.fraction = [] := by simp [pointText]

theorem drop_pointText (p : Spelling) : p.pointText.drop 1 = p.fraction := by
  unfold pointText
  split
  · next none => rw [none, List.drop_nil]
  · rfl

theorem powerText_eq_nil : p.powerText = [] ↔ p.power = none := by
  unfold powerText
  split
  · next e some =>
    obtain ⟨negative, digits, text, -⟩ := exponentText_eq e
    simp [text, some]
  · next none => simp [none]

theorem readExponent_powerText (p : Spelling) : readExponent p.powerText = some (p.power.getD 0) := by
  unfold powerText
  split
  · next e some => rw [readExponent_exponentText, some, Option.getD_some]
  · next none =>
    rw [none]
    rfl

/-- A numeral starts with a digit. -/
theorem exists_head (p : Spelling) : ∃ c rest, p.text = c :: rest ∧ c.isDigit = true := by
  have plain : ∀ c ∈ p.whole, c.isDigit = true := (List.forall_mem_append.mp p.digits).1
  obtain ⟨c, others, split⟩ := List.exists_cons_of_ne_nil p.whole_ne_nil
  refine ⟨c, others ++ p.pointText ++ p.powerText, ?_, plain c (split ▸ List.mem_cons_self)⟩
  rw [text, split]
  rfl

/-! ### Layouts -/

theorem isDigit_zeros (k : Nat) : ∀ c ∈ List.replicate k '0', c.isDigit = true := fun _ member =>
  List.eq_of_mem_replicate member ▸ rfl

/-- The digits of a number with the point behind the first ones of them. -/
def pointed {n : Nat} (positive : 0 < n) (before : Nat) (power : Option Int) : Spelling where
  whole := (decimalDigits n).take (before + 1)
  fraction := (decimalDigits n).drop (before + 1)
  power := power
  digits := by
    rw [List.take_append_drop]
    exact isDigit_decimalDigits n
  leading := by
    obtain ⟨c, rest, split, notZero⟩ := decimalDigits_eq_cons positive
    rw [split]
    exact .inr ⟨c, rest.take before, rfl, notZero⟩

/-- The digits of a number with zeros behind them, one of them behind the point. -/
def padded {n : Nat} (positive : 0 < n) (zeros : Nat) : Spelling where
  whole := decimalDigits n ++ List.replicate zeros '0'
  fraction := ['0']
  power := none
  digits := List.forall_mem_append.mpr
    ⟨List.forall_mem_append.mpr ⟨isDigit_decimalDigits n, isDigit_zeros zeros⟩, isDigit_zeros 1⟩
  leading := by
    obtain ⟨c, rest, split, notZero⟩ := decimalDigits_eq_cons positive
    rw [split]
    exact .inr ⟨c, rest ++ List.replicate zeros '0', rfl, notZero⟩

/-- The digits of a number with zeros and the point in front of them. -/
def small (n zeros : Nat) : Spelling where
  whole := ['0']
  fraction := List.replicate zeros '0' ++ decimalDigits n
  power := none
  digits := List.forall_mem_append.mpr
    ⟨isDigit_zeros 1, List.forall_mem_append.mpr ⟨isDigit_zeros zeros, isDigit_decimalDigits n⟩⟩
  leading := .inl rfl

theorem mantissa_pointed {n : Nat} (positive : 0 < n) (before : Nat) (power : Option Int) :
    (pointed positive before power).mantissa = n := by
  rw [mantissa, pointed, List.take_append_drop]
  exact Nat.ofDigitChars_ten_toDigits

theorem mantissa_padded {n : Nat} (positive : 0 < n) (zeros : Nat) :
    (padded positive zeros).mantissa = n * 10 ^ (zeros + 1) := by
  have behind : Nat.ofDigitChars 10 (decimalDigits n ++ List.replicate zeros '0' ++ List.replicate 1 '0') 0 =
      n * 10 ^ (zeros + 1) := by
    rw [List.append_assoc, List.replicate_append_replicate, Nat.ofDigitChars_append, decimalDigits,
      Nat.ofDigitChars_ten_toDigits, Nat.ofDigitChars_replicate_zero, Nat.mul_comm]
  exact behind

theorem mantissa_small (n zeros : Nat) : (small n zeros).mantissa = n := by
  have front : Nat.ofDigitChars 10 (List.replicate 1 '0' ++ (List.replicate zeros '0' ++ decimalDigits n)) 0 = n := by
    rw [← List.append_assoc, List.replicate_append_replicate, Nat.ofDigitChars_append,
      Nat.ofDigitChars_replicate_zero, Nat.mul_zero, decimalDigits, Nat.ofDigitChars_ten_toDigits]
  exact front

/-- A numeral denotes a decimal if its digits are those of the decimal with zeros behind them, and the point is put
there. -/
theorem value_eq {k : Nat} (digits : p.mantissa = d.digits * 10 ^ k)
    (place : p.power.getD 0 - p.fraction.length = d.exponent - k) : p.value = d.toRat := by
  rw [value, digits, place, Decimal.toRat, tenPow_eq, zpow_sub₀ (by norm_num), zpow_natCast]
  push_cast
  field_simp

/-- Whatever the layout, what is written denotes the decimal and is no integer. -/
theorem exists_write (positive : 0 < d.digits) :
    ∃ p : Spelling, (DecimalLayout.natural.write d).toList = p.text ∧ p.value = d.toRat ∧ ¬p.IsWhole := by
  have some : 0 < (decimalDigits d.digits).length := List.length_pos_of_ne_nil Nat.toDigits_ne_nil
  simp only [DecimalLayout.write, DecimalLayout.natural, if_true]
  generalize place : ((decimalDigits d.digits).length : Int) - 1 + d.exponent = leading
  split
  · split
    · next whole =>
      refine ⟨padded positive d.exponent.toNat, ?_, value_eq (mantissa_padded positive _) ?_, by simp [IsWhole, padded]⟩
      · simp [text, pointText, powerText, padded]
      · simp only [padded, Option.getD_none, List.length_singleton]
        omega
    · split
      · next below above =>
        have behind : (decimalDigits d.digits).drop (leading.toNat + 1) ≠ [] := by
          rw [ne_eq, List.drop_eq_nil_iff]
          omega
        refine ⟨pointed positive leading.toNat none, ?_, value_eq (k := 0) ?_ ?_, fun whole => behind whole.1⟩
        · simp [text, pointText, powerText, pointed, behind]
        · rw [mantissa_pointed, pow_zero, Nat.mul_one]
        · simp only [pointed, Option.getD_none, List.length_drop]
          omega
      · next below above =>
        refine ⟨small d.digits (-leading - 1).toNat, ?_, value_eq (k := 0) ?_ ?_, ?_⟩
        · simp [text, pointText, powerText, small, List.ne_nil_of_length_pos some]
        · rw [mantissa_small, pow_zero, Nat.mul_one]
        · simp only [small, Option.getD_none, List.length_append, List.length_replicate]
          omega
        · simp [IsWhole, small, List.ne_nil_of_length_pos some]
  · refine ⟨pointed positive 0 (Option.some leading), ?_, value_eq (k := 0) ?_ ?_, by simp [IsWhole, pointed]⟩
    · have one : (decimalDigits d.digits).length = 1 ↔ (decimalDigits d.digits).tail = [] := by
        rw [← List.drop_one, List.drop_eq_nil_iff]
        omega
      simp only [text, pointText, powerText, pointed, one, Nat.zero_add, List.drop_one]
      split <;> simp
    · rw [mantissa_pointed, pow_zero, Nat.mul_one]
    · simp only [pointed, Option.getD_some, List.length_drop]
      omega

/-- Cutting the exponent short changes nothing where doubles are. -/
theorem finiteValue_eq_round (negative : Bool) (least : (10 : Rat) ^ (-400 : Int) ≤ p.value)
    (most : p.value < (10 : Rat) ^ (400 : Int)) :
    finiteValue negative p.whole p.fraction (p.power.getD 0) =
      Binary64.round (if negative then -p.value else p.value) negative := by
  have digits := ofDigitChars_lt p.digits 0
  rw [zero_add, one_mul] at digits
  have ten : (1 : Rat) < 10 := by norm_num
  have power (k : Int) : (0 : Rat) < 10 ^ k := zpow_pos (by norm_num) k
  have some : 0 < p.mantissa := by
    rcases Nat.eq_zero_or_pos p.mantissa with none | some
    · rw [value, none, Nat.cast_zero, zero_mul] at least
      exact absurd least (not_le.mpr (power _))
    · exact some
  have units : (1 : Rat) ≤ p.mantissa := by exact_mod_cast some
  have below : (p.mantissa : Rat) < 10 ^ ((p.whole ++ p.fraction).length : Int) := by
    rw [zpow_natCast]
    exact_mod_cast digits
  have low : -400 - ((p.whole ++ p.fraction).length : Int) ≤ p.power.getD 0 - p.fraction.length := by
    have bound : (10 : Rat) ^ (-400 : Int) <
        10 ^ ((p.whole ++ p.fraction).length + (p.power.getD 0 - p.fraction.length) : Int) := by
      rw [zpow_add₀ (by norm_num)]
      exact least.trans_lt (mul_lt_mul_of_pos_right below (power _))
    have := (zpow_lt_zpow_iff_right₀ ten).mp bound
    omega
  have high : p.power.getD 0 - p.fraction.length ≤ 400 := by
    have bound : (10 : Rat) ^ (p.power.getD 0 - p.fraction.length : Int) < 10 ^ (400 : Int) :=
      (le_mul_of_one_le_left (power _).le units).trans_lt most
    exact ((zpow_lt_zpow_iff_right₀ ten).mp bound).le
  simp only [finiteValue, foldDigits_asciiValue, min_eq_right high, max_eq_right low, tenPow_eq]
  rw [← mantissa, if_neg some.ne', value]

end Spelling

end Numeral

theorem Representable.neg {r : Rat} (representable : Representable r) : Representable (-r) := by
  obtain ⟨m, e, magnitude, least, most, rfl⟩ := representable
  exact ⟨-m, e, by rwa [Int.natAbs_neg], least, most, by simp [scaled_eq]⟩

namespace Binary64

variable {q r : Rat} {x : Binary64}

/-- What a number is rounded to, whatever the sign of a zero. -/
theorem toRat?_round (r : Rat) (negative : Bool) :
    (round r negative).toRat? = (roundMagnitude r.num.natAbs r.den).map fun unit =>
      scaled (bif negative then -unit.1 else unit.1) unit.2 := by
  unfold round
  split
  · next none => simp [none, toRat?]
  · next m e some =>
    have units : (roundMagnitude r.num.natAbs r.den).map (fun unit =>
        scaled (bif negative then -unit.1 else unit.1) unit.2) =
          .some (scaled (bif negative then -m else m) e) := by
      rw [some, Option.map_some]
    rw [units]
    split
    · next zero =>
      rw [zero, scaled_eq]
      cases negative <;> simp [toRat?, Binary64.zero]
    · cases negative <;> rfl

/-- The opposite is rounded to the opposite. -/
theorem toRat?_round_neg (r : Rat) : (round (-r) true).toRat? = (round r false).toRat?.map fun v => -v := by
  rw [toRat?_round, toRat?_round, Rat.num_neg_eq_neg_num, Int.natAbs_neg, Rat.den_neg_eq_den, Option.map_map]
  congr 1
  funext unit
  simp [scaled_eq]

/-- No double lies between zero and the least unit. -/
theorem le_of_representable (representable : Representable r) (positive : 0 < r) : (2 : Rat) ^ (-1074 : Int) ≤ r := by
  rcases representable.exists_units positive.le (-1074) with ⟨k, rfl⟩ | ⟨high, -⟩
  · have power : (0 : Rat) < 2 ^ (-1074 : Int) := zpow_pos (by norm_num) _
    have some : 1 ≤ k := by
      rcases Nat.eq_zero_or_pos k with rfl | some
      · simp at positive
      · exact some
    have units : (1 : Rat) ≤ k := by exact_mod_cast some
    exact le_mul_of_one_le_left power.le units
  · omega

/-- What is rounded to a double other than zero is at least half of the least unit. -/
theorem half_le_of_ofRat (representable : Representable r) (positive : 0 < r) (nonneg : 0 ≤ q)
    (value : (ofRat q).toRat? = some r) : (2 : Rat) ^ (-1074 : Int) / 2 ≤ q := by
  have least := le_of_representable representable positive
  obtain ⟨-, near⟩ := abs_le.mp (abs_ofRat_sub_le nonneg value)
  rcases (unitExponent_ge q.num.natAbs q.den).eq_or_lt with low | high
  · rw [← low] at near
    linarith
  · have some : 0 < q := by
      rcases nonneg.eq_or_lt with rfl | some
      · have same := toRat?_ofRat_of_representable (representable_natCast (k := 0) (by decide)) le_rfl
        rw [Nat.cast_zero, value] at same
        exact absurd (Option.some.inj same) positive.ne'
      · exact some
    have digits := le_of_unitExponent some high
    have units : (2 : Rat) ^ (-1074 : Int) ≤ 2 ^ unitExponent q.num.natAbs q.den :=
      zpow_le_zpow_right₀ (by norm_num) high.le
    have many : (1 : Rat) ≤ (twoPow 52 : Nat) := by exact_mod_cast twoPow_pos 52
    have power : (0 : Rat) < 2 ^ (-1074 : Int) := zpow_pos (by norm_num) _
    have whole := le_mul_of_one_le_left (power.le.trans units) many
    linarith

/-- The least unit is far above the power of ten at which exponents are cut short. -/
theorem least_le : (10 : Rat) ^ (-400 : Int) ≤ (2 : Rat) ^ (-1074 : Int) / 2 := by
  have powers : (2 * 2 ^ 1074 : Nat) ≤ 10 ^ 400 := by decide +kernel
  have cast : ((2 : Rat) * 2 ^ 1074) ≤ 10 ^ 400 := by exact_mod_cast powers
  have flipped := inv_anti₀ (by positivity) cast
  rw [zpow_neg, zpow_neg, zpow_ofNat, zpow_ofNat]
  rwa [mul_inv, mul_comm, ← div_eq_mul_inv] at flipped

theorem overflowBound_lt : (overflowBound : Rat) < (10 : Rat) ^ (400 : Int) := by
  have bound : overflowBound < 10 ^ 400 := by decide +kernel
  rw [zpow_ofNat]
  exact_mod_cast bound

/-- The shortest digits of a magnitude have a numeral that is read as the double of that magnitude and a sign. -/
theorem exists_magnitude (representable : Representable r) (positive : 0 < r) :
    ∃ p : Numeral.Spelling, (DecimalLayout.natural.write (.shortest r)).toList = p.text ∧ ¬p.IsWhole ∧
      ∀ negative, (Numeral.finiteValue negative p.whole p.fraction (p.power.getD 0)).toRat? =
        some (if negative then -r else r) := by
  have value := toRat?_ofRat_of_representable representable positive.le
  rw [← Decimal.ofRat_shortest representable positive] at value
  have nonneg : 0 ≤ (Decimal.shortest r).toRat := by
    rw [Decimal.toRat, tenPow_eq]
    exact mul_nonneg (Nat.cast_nonneg _) (zpow_nonneg (by norm_num) _)
  have least := half_le_of_ofRat representable positive nonneg value
  have power : (0 : Rat) < 2 ^ (-1074 : Int) / 2 := half_pos (zpow_pos (by norm_num) _)
  have some : 0 < (Decimal.shortest r).digits := by
    apply Nat.pos_of_ne_zero
    intro none
    rw [Decimal.toRat, none, Nat.cast_zero, zero_mul] at least
    exact absurd least (not_le.mpr power)
  obtain ⟨p, written, denoted, broken⟩ := Numeral.Spelling.exists_write some
  rw [← denoted] at value nonneg least
  have sign : decide (p.value < 0) = false := decide_eq_false (not_lt.mpr nonneg)
  rw [ofRat, sign] at value
  have most : p.value < overflowBound := by
    have finite := isFinite_round.mp (isFinite_iff.mpr ⟨r, value⟩)
    rwa [abs_of_nonneg nonneg] at finite
  refine ⟨p, written, broken, fun negative => ?_⟩
  rw [p.finiteValue_eq_round negative (least_le.trans least) (most.trans overflowBound_lt)]
  cases negative with
  | false => exact value
  | true =>
    rw [if_pos rfl, if_pos rfl, toRat?_round_neg, value]
    rfl

/-- Every finite double is read from its text. -/
theorem exists_spelling (finite : x.isFinite = true) :
    ∃ (negative : Bool) (p : Numeral.Spelling), x.text.toList = p.signed negative ∧
      ¬p.IsWhole ∧ Numeral.finiteValue negative p.whole p.fraction (p.power.getD 0) = x := by
  have zero : ∃ p : Numeral.Spelling, p.text = "0.0".toList ∧ ¬p.IsWhole ∧ ∀ negative,
      Numeral.finiteValue negative p.whole p.fraction (p.power.getD 0) = bif negative then .negZero else .zero := by
    refine ⟨⟨['0'], ['0'], none, ?_, .inl rfl⟩, rfl, by simp [Numeral.Spelling.IsWhole], fun negative => ?_⟩
    · exact List.forall_mem_cons.mpr ⟨rfl, List.forall_mem_singleton.mpr rfl⟩
    · cases negative <;> rfl
  cases x with
  | infinite | nan => contradiction
  | negZero =>
    obtain ⟨p, text, broken, read⟩ := zero
    exact ⟨true, p, by rw [Numeral.Spelling.signed, text]; rfl, broken, read true⟩
  | finite r representable =>
    rcases lt_trichotomy r 0 with negative | rfl | positive
    · obtain ⟨p, text, broken, read⟩ := exists_magnitude (Representable.neg representable) (neg_pos.mpr negative)
      have same := read true
      rw [if_pos rfl, neg_neg] at same
      refine ⟨true, p, ?_, broken, eq_of_toRat? same rfl negative.ne⟩
      rw [Numeral.Spelling.signed, if_pos rfl, ← text]
      simp [Binary64.text, writeWith, negative, negative.ne]
    · obtain ⟨p, text, broken, read⟩ := zero
      exact ⟨false, p, by rw [Numeral.Spelling.signed, text]; rfl, broken, read false⟩
    · obtain ⟨p, text, broken, read⟩ := exists_magnitude representable positive
      refine ⟨false, p, ?_, broken, eq_of_toRat? (read false) rfl positive.ne'⟩
      rw [Numeral.Spelling.signed, if_neg Bool.false_ne_true, ← text]
      simp [Binary64.text, writeWith, not_lt.mpr positive.le, positive.ne']

end Binary64

end Montage
