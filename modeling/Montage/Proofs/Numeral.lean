import Mathlib.Tactic.IntervalCases
import Mathlib.Tactic.Positivity
import Mathlib.Data.Rat.Cast.Order
import Montage.Number.Numeral
import Montage.Proofs.Text.Letter
import Montage.Proofs.Text.Search

/-! # Plain decimal numerals

A run of ASCII digits is read as the number that it denotes, and so is the numeral of a number, up to
the length at which integers are refused. A numeral with a point is read as the double nearest to what it
denotes.
-/

namespace Montage

theorem Text.digitValue?_of_isDigit {c : Char} (digit : c.isDigit = true) :
    Text.digitValue? c = some (c.toNat - 48) := by
  have range := toNat_of_isDigit digit
  have first : decide (48 ≤ c.toNat) && decide (c.toNat < 48 + 10) := by
    simp only [Bool.and_eq_true, decide_eq_true_eq]
    omega
  simp only [Text.digitValue?, Text.decimalZeros, List.find?_cons, first, Option.map_some]

theorem Text.isDecimalDigit_of_isDigit {c : Char} (digit : c.isDigit = true) :
    Text.isDecimalDigit c = true := by
  rw [Text.isDecimalDigit, Text.digitValue?_of_isDigit digit, Option.isSome_some]

theorem Text.isBlank_of_digit_at : ∀ first ∈ decimalZeros, ∀ k < 10, isBlank (Char.ofNat (first + k)) = false := by
  decide +kernel

theorem Text.isBlank_of_isDecimalDigit {c : Char} (digit : isDecimalDigit c = true) : isBlank c = false := by
  obtain ⟨value, found⟩ := Option.isSome_iff_exists.mp digit
  obtain ⟨first, zero, -⟩ := Option.map_eq_some_iff.mp found
  have range := List.find?_some zero
  simp only [Bool.and_eq_true, decide_eq_true_eq] at range
  have solid := isBlank_of_digit_at first (List.mem_of_find?_eq_some zero) (c.toNat - first) (by omega)
  rwa [Nat.add_sub_cancel' range.1, Char.ofNat_toNat] at solid

theorem Text.isDigitForm_of_isDigit {c : Char} (digit : c.isDigit = true) :
    Text.isDigitForm c = true := by
  rw [Text.isDigitForm, Text.isDecimalDigit_of_isDigit digit, Bool.true_or]

theorem foldDigits_eq_ofDigitChars {s : List Char} (digits : ∀ c ∈ s, c.isDigit = true)
    (start : Nat) : foldDigits start (s.filterMap Text.digitValue?) = Nat.ofDigitChars 10 s start := by
  induction s generalizing start with
  | nil => rfl
  | cons c rest ih =>
    have value := Text.digitValue?_of_isDigit (digits c List.mem_cons_self)
    rw [List.filterMap_cons_some value, Nat.ofDigitChars_cons]
    exact ih (fun other member => digits other (List.mem_cons_of_mem _ member)) _

/-- A run of ASCII digits is refused only for its length. -/
theorem readInteger_of_digits {s : List Char} (nonempty : s ≠ [])
    (digits : ∀ c ∈ s, c.isDigit = true) :
    readInteger s = if integerDigitLimit < s.length then .error (.tooLong s.length)
      else .ok (Nat.ofDigitChars 10 s 0) := by
  have leading : s.takeWhile Text.isDecimalDigit = s :=
    List.takeWhile_eq_self_iff.mpr fun c member => Text.isDecimalDigit_of_isDigit (digits c member)
  simp only [readInteger, leading, Nat.lt_irrefl, nonempty, or_self, ↓reduceIte,
    foldDigits_eq_ofDigitChars digits]

/-- A run of decimal digits of any script, and the number that it denotes. -/
structure IsDecimal (digits : List Char) (n : Nat) : Prop where
  nonempty : digits ≠ []
  decimal : ∀ c ∈ digits, Text.isDecimalDigit c = true
  value : foldDigits 0 (digits.filterMap Text.digitValue?) = n

/-- A run of digits is read as the number that it denotes, provided that all of them are decimal and that
there are not too many. -/
theorem readInteger_eq_ok_iff {s : List Char} {n : Nat} :
    readInteger s = .ok n ↔ IsDecimal s n ∧ s.length ≤ integerDigitLimit := by
  by_cases decimal : s.takeWhile Text.isDecimalDigit = s
  · have digits := List.takeWhile_eq_self_iff.mp decimal
    simp only [readInteger, decimal, Nat.lt_irrefl, false_or]
    split
    · next long => exact iff_of_false nofun fun both => absurd both.2 (Nat.not_le.mpr long)
    · next short =>
      split
      · next empty => exact iff_of_false nofun fun both => both.1.nonempty empty
      · next nonempty =>
        rw [Except.ok.injEq]
        exact ⟨fun value => ⟨⟨nonempty, digits, value⟩, Nat.not_lt.mp short⟩, fun both => both.1.value⟩
  · have shorter : (s.takeWhile Text.isDecimalDigit).length < s.length :=
      Nat.lt_of_le_of_ne (List.takeWhile_prefix _).length_le fun same =>
        decimal ((List.takeWhile_prefix _).eq_of_length same)
    refine iff_of_false ?_ fun both => decimal (List.takeWhile_eq_self_iff.mpr both.1.decimal)
    simp only [readInteger, shorter, true_or, ↓reduceIte]
    split <;> nofun

/-- The numeral of a number is read as that number. -/
theorem readInteger_toDigits (n : Nat) :
    readInteger (Nat.toDigits 10 n) =
      if integerDigitLimit < (Nat.toDigits 10 n).length then
        .error (.tooLong (Nat.toDigits 10 n).length)
      else .ok n := by
  rw [readInteger_of_digits Nat.toDigits_ne_nil
    (fun c member => Nat.isDigit_of_mem_toDigits (by decide) (by decide) member),
    Nat.ofDigitChars_ten_toDigits]

theorem toDigits_injective : Function.Injective (Nat.toDigits 10) := by
  intro a b same
  calc
    a = Nat.ofDigitChars 10 (Nat.toDigits 10 a) 0 := Nat.ofDigitChars_ten_toDigits.symm
    _ = Nat.ofDigitChars 10 (Nat.toDigits 10 b) 0 := by rw [same]
    _ = b := Nat.ofDigitChars_ten_toDigits

namespace Numeral

/-- A character of a plain numeral. -/
def IsPlain (c : Char) : Prop := c = '.' ∨ c.isDigit = true

theorem isDigit_ofNat {value : Nat} (below : value < 10) :
    (Char.ofNat (48 + value)).isDigit = true := by
  interval_cases value <;> rfl

/-- Leaving out underscores adds no characters. -/
theorem mem_of_dropUnderscores {after : Bool} {s kept : List Char}
    (dropped : dropUnderscores after s = some kept) : ∀ c ∈ kept, c ∈ s := by
  fun_induction dropUnderscores after s generalizing kept with
  | case1 =>
    obtain rfl := Option.some.inj dropped
    exact fun c member => member
  | case2 | case4 => contradiction
  | case3 after c rest digits ih =>
    exact fun other member => List.mem_cons_of_mem _ (ih dropped other member)
  | case5 after c rest notUnderscore ih =>
    obtain ⟨others, found, rfl⟩ := Option.map_eq_some_iff.mp dropped
    intro other member
    rcases List.mem_cons.mp member with rfl | later
    · exact List.mem_cons_self
    · exact List.mem_cons_of_mem _ (ih found other later)

theorem mem_of_splitSign {s : List Char} : ∀ c ∈ (splitSign s).2, c ∈ s := by
  intro c member
  unfold splitSign at member
  split at member
  · exact List.mem_cons_of_mem _ member
  · exact List.mem_cons_of_mem _ member
  · exact member

theorem toLower_of_isPlain {c : Char} (plain : IsPlain c) : c.toLower = c := by
  rcases plain with rfl | digit
  · rfl
  · have range := Text.toNat_of_isDigit digit
    refine dif_neg fun upper => ?_
    have above := UInt32.le_iff_toNat_le.mp upper.1
    have least : ('A'.val).toNat = 65 := rfl
    have same : c.val.toNat = c.toNat := rfl
    omega

/-- Nothing is left out of digits and points. -/
theorem dropUnderscores_of_plain {after : Bool} {s : List Char} (plain : ∀ c ∈ s, IsPlain c) :
    dropUnderscores after s = some s := by
  induction s generalizing after with
  | nil => rfl
  | cons c rest ih =>
    obtain ⟨here, others⟩ := List.forall_mem_cons.mp plain
    have solid : c ≠ '_' := by
      rintro rfl
      exact absurd here (by simp [IsPlain, Char.isDigit])
    rw [dropUnderscores, ih others]
    · rfl
    · exact fun same => solid same

/-- Digits and points are no sign. -/
theorem splitSign_of_plain {s : List Char} (plain : ∀ c ∈ s, IsPlain c) : splitSign s = (false, s) := by
  unfold splitSign
  split
  · exact absurd (plain '-' List.mem_cons_self) (by simp [IsPlain, Char.isDigit])
  · exact absurd (plain '+' List.mem_cons_self) (by simp [IsPlain, Char.isDigit])
  · rfl

/-- Digits and points are none of the words. -/
theorem lower_of_plain {s : List Char} (plain : ∀ c ∈ s, IsPlain c) :
    infinityWords.contains (String.ofList (s.map Char.toLower)) = false ∧
      String.ofList (s.map Char.toLower) ≠ "nan" := by
  have apart (word : String) (letters : ∃ c rest, word.toList = c :: rest ∧ ¬IsPlain c) :
      String.ofList (s.map Char.toLower) ≠ word := by
    rintro rfl
    obtain ⟨c, rest, word, letter⟩ := letters
    rw [String.toList_ofList] at word
    have member : c ∈ s.map Char.toLower := word ▸ List.mem_cons_self
    obtain ⟨written, present, rfl⟩ := List.mem_map.mp member
    rw [toLower_of_isPlain (plain written present)] at letter
    exact letter (plain written present)
  have letter : ¬IsPlain 'i' ∧ ¬IsPlain 'n' := by simp [IsPlain, Char.isDigit]
  refine ⟨?_, apart "nan" ⟨'n', _, rfl, letter.2⟩⟩
  have one := apart "inf" ⟨'i', _, rfl, letter.1⟩
  have other := apart "infinity" ⟨'i', _, rfl, letter.1⟩
  simp [infinityWords, one, other]

/-- What follows the digits before the point: the point and the digits after it, or nothing. -/
def IsTail (rest fraction : List Char) : Prop := rest = [] ∧ fraction = [] ∨ rest = '.' :: fraction

theorem isPlain_of_digits {whole fraction rest : List Char} (digits : ∀ c ∈ whole ++ fraction, c.isDigit = true)
    (tail : IsTail rest fraction) : ∀ c ∈ whole ++ rest, IsPlain c := by
  obtain ⟨before, after⟩ := List.forall_mem_append.mp digits
  intro c member
  rcases List.mem_append.mp member with here | there
  · exact .inr (before c here)
  · rcases tail with ⟨rfl, -⟩ | rfl
    · contradiction
    · exact (List.mem_cons.mp there).imp_right (after c)

theorem readPlain_of_digits {whole fraction rest : List Char} (digits : ∀ c ∈ whole ++ fraction, c.isDigit = true)
    (some : whole ++ fraction ≠ []) (tail : IsTail rest fraction) :
    readPlain (whole ++ rest) = .some (finiteValue false whole fraction 0) := by
  obtain ⟨before, after⟩ := List.forall_mem_append.mp digits
  have plain := isPlain_of_digits digits tail
  have stops : Text.StopsAt Char.isDigit rest := by
    rcases tail with ⟨rfl, -⟩ | rfl
    · exact Text.stopsAt_nil
    · exact Text.stopsAt_cons.mpr rfl
  obtain ⟨finite, number⟩ := lower_of_plain plain
  simp only [readPlain, splitSign_of_plain plain, finite, number, Text.takeWhile_append before stops,
    Text.dropWhile_append before stops, Bool.false_eq_true, ↓reduceIte]
  have nonempty : ¬(whole = [] ∧ fraction = []) := fun both => some (by rw [both.1, both.2]; rfl)
  rcases tail with ⟨rfl, rfl⟩ | rfl
  · rw [if_neg nonempty]
    rfl
  · have digits : fraction.takeWhile Char.isDigit = fraction := List.takeWhile_eq_self_iff.mpr after
    have nothing : fraction.dropWhile Char.isDigit = [] := List.dropWhile_eq_nil_iff.mpr after
    simp only [digits, nothing]
    rw [if_neg nonempty]
    rfl

theorem asciiValue_ofNat {value : Nat} (below : value < 10) : asciiValue (Char.ofNat (48 + value)) = value := by
  interval_cases value <;> rfl

theorem plainDigit_of_digit {c : Char} {value : Nat} (digit : Text.digitValue? c = some value) :
    (plainDigit c).isDigit = true ∧ asciiValue (plainDigit c) = value := by
  obtain ⟨first, found, rfl⟩ := Option.map_eq_some_iff.mp digit
  have range := List.find?_some found
  simp only [Bool.and_eq_true, decide_eq_true_eq] at range
  have below : c.toNat - first < 10 := by omega
  rw [plainDigit, digit]
  exact ⟨isDigit_ofNat below, asciiValue_ofNat below⟩

theorem isDigit_plainDigits {digits : List Char} (decimal : ∀ c ∈ digits, Text.isDecimalDigit c = true) :
    ∀ c ∈ digits.map plainDigit, c.isDigit = true := by
  rw [List.forall_mem_map]
  intro c member
  obtain ⟨value, digit⟩ := Option.isSome_iff_exists.mp (decimal c member)
  exact (plainDigit_of_digit digit).1

theorem asciiValues_plainDigits {digits : List Char}
    (decimal : ∀ c ∈ digits, Text.isDecimalDigit c = true) :
    (digits.map plainDigit).map asciiValue = digits.filterMap Text.digitValue? := by
  induction digits with
  | nil => rfl
  | cons c rest ih =>
    obtain ⟨here, others⟩ := List.forall_mem_cons.mp decimal
    obtain ⟨value, digit⟩ := Option.isSome_iff_exists.mp here
    rw [List.map_cons, List.map_cons, (plainDigit_of_digit digit).2, ih others,
      List.filterMap_cons_some digit]

theorem tenPow_neg (k : Nat) : tenPow (-(k : Int)) = 1 / (10 : Rat) ^ k := by
  rw [tenPow]
  split
  · next low =>
    obtain rfl : k = 0 := by omega
    norm_num
  · rw [Rat.mkRat_eq_div, Int.neg_neg, Int.toNat_natCast]
    norm_num

/-- The value of a numeral without exponent is what it denotes, rounded once. -/
theorem finiteValue_eq (digits fraction : List Char) : finiteValue false digits fraction 0 =
    Binary64.ofRat (foldDigits 0 ((digits ++ fraction).map asciiValue) / 10 ^ fraction.length) := by
  have shift : max (-400 - ((digits ++ fraction).length : Int)) (min 400 (0 - (fraction.length : Int))) =
      -(fraction.length : Int) := by
    rw [List.length_append]
    omega
  unfold finiteValue
  simp only [shift, tenPow_neg]
  generalize foldDigits 0 ((digits ++ fraction).map asciiValue) = n
  have value : (n : Rat) * (1 / 10 ^ fraction.length) = n / 10 ^ fraction.length := mul_one_div _ _
  have nonneg : ¬(n : Rat) / 10 ^ fraction.length < 0 := not_lt.mpr (by positivity)
  have sign : decide ((n : Rat) / 10 ^ fraction.length < 0) = false := decide_eq_false nonneg
  rw [value, Binary64.ofRat, sign]
  split
  · next none =>
    rw [none, Nat.cast_zero, zero_div]
    rfl
  · rfl

end Numeral

/-- A numeral with at most one point in digits of any script, and what it denotes. -/
inductive IsFixed : List Char → Rat → Prop
  | whole {digits : List Char} {n : Nat} (decimal : IsDecimal digits n) : IsFixed digits n
  | pointed {whole fraction : List Char} {n : Nat} (decimal : IsDecimal (whole ++ fraction) n) :
      IsFixed (whole ++ '.' :: fraction) (n / 10 ^ fraction.length)

/-- A numeral with at most one point is read as the double nearest to what it denotes. -/
theorem readNumeral?_of_isFixed {text : List Char} {value : Rat} (fixed : IsFixed text value) :
    readNumeral? text = some (Binary64.ofRat value) := by
  have read {whole fraction rest : List Char} {n : Nat} (decimal : IsDecimal (whole ++ fraction) n)
      (tail : Numeral.IsTail rest fraction) :
      readNumeral? (whole ++ rest) = some (Binary64.ofRat (n / 10 ^ fraction.length)) := by
    obtain ⟨filled, digits, rfl⟩ := decimal
    have plain := Numeral.isDigit_plainDigits digits
    have values := Numeral.asciiValues_plainDigits digits
    have some : (whole ++ fraction).map Numeral.plainDigit ≠ [] := by simpa using filled
    have point : Numeral.plainDigit '.' = '.' := by decide
    have tail' : Numeral.IsTail (rest.map Numeral.plainDigit) (fraction.map Numeral.plainDigit) := by
      refine tail.imp (fun both => by simp [both]) fun rest => ?_
      rw [rest, List.map_cons, point]
    rw [List.map_append] at plain values some
    rw [readNumeral?, List.map_append, Numeral.dropUnderscores_of_plain (Numeral.isPlain_of_digits plain tail'),
      Option.bind_some, Numeral.readPlain_of_digits plain some tail', Numeral.finiteValue_eq, values,
      List.length_map]
  cases fixed with
  | @whole _ n decimal =>
    have alone : IsDecimal (text ++ []) n := by rwa [List.append_nil]
    have found := read alone (.inl ⟨rfl, rfl⟩)
    rw [List.append_nil] at found
    simpa using found
  | pointed decimal => exact read decimal (.inr rfl)

end Montage
