import Montage.Proofs.Color
import Montage.Proofs.Number.Rounding

/-! # What the numerals of a call stand for

A numeral of a call denotes a number if it has a digit and at most one point, and no other one is read. A channel is
moved into the range of an octet: a whole number in the range is kept, and whatever lies below or above a whole number
stays below or above it. Only a channel that no double is near to is refused. An opacity is moved between zero and one.
-/

namespace Montage

namespace Numeral

/-- Nothing is read where there is a second point. -/
theorem readPlain_of_points {whole fraction more : List Char} (digits : ∀ c ∈ whole ++ fraction, c.isDigit = true)
    (plain : ∀ c ∈ more, IsPlain c) : readPlain (whole ++ '.' :: (fraction ++ '.' :: more)) = none := by
  obtain ⟨before, after⟩ := List.forall_mem_append.mp digits
  have all : ∀ c ∈ whole ++ '.' :: (fraction ++ '.' :: more), IsPlain c := by
    simp only [List.forall_mem_append, List.forall_mem_cons]
    exact ⟨fun c member => .inr (before c member), .inl rfl, fun c member => .inr (after c member), .inl rfl, plain⟩
  have stops (rest : List Char) : Text.StopsAt Char.isDigit ('.' :: rest) := Text.stopsAt_cons.mpr rfl
  obtain ⟨finite, number⟩ := lower_of_plain all
  simp only [readPlain, splitSign_of_plain all, finite, number, Text.takeWhile_append before (stops _),
    Text.dropWhile_append before (stops _), Text.takeWhile_append after (stops _),
    Text.dropWhile_append after (stops _), Bool.false_eq_true, ↓reduceIte]
  split
  · rfl
  · rfl

end Numeral

theorem IsFixed.nonneg {numeral : List Char} {value : Rat} (fixed : IsFixed numeral value) : 0 ≤ value := by
  cases fixed with
  | whole decimal => exact Nat.cast_nonneg _
  | pointed decimal => exact div_nonneg (Nat.cast_nonneg _) (pow_nonneg (by norm_num) _)

namespace Color

variable {numeral : List Char} {value : Rat}

/-! ## Numerals -/

/-- A numeral of a call is all digits, or it has a first point. -/
theorem points_cases {s : List Char} (plain : ∀ c ∈ s, isNumeralChar c = true) :
    (∀ c ∈ s, Text.isDecimalDigit c = true) ∨ ∃ whole rest, s = whole ++ '.' :: rest ∧
      (∀ c ∈ whole, Text.isDecimalDigit c = true) ∧ ∀ c ∈ rest, isNumeralChar c = true := by
  induction s with
  | nil => exact .inl nofun
  | cons c s ih =>
    obtain ⟨here, later⟩ := List.forall_mem_cons.mp plain
    rw [isNumeralChar, Bool.or_eq_true, decide_eq_true_eq] at here
    rcases here with rfl | digit
    · exact .inr ⟨[], s, rfl, nofun, later⟩
    · rcases ih later with digits | ⟨whole, rest, rfl, digits, others⟩
      · exact .inl (List.forall_mem_cons.mpr ⟨digit, digits⟩)
      · exact .inr ⟨c :: whole, rest, rfl, List.forall_mem_cons.mpr ⟨digit, digits⟩, others⟩

/-- No numeral with two points is read. -/
theorem readNumeral?_of_points {whole fraction more : List Char}
    (digits : ∀ c ∈ whole ++ fraction, Text.isDecimalDigit c = true) (plain : ∀ c ∈ more, isNumeralChar c = true) :
    readNumeral? (whole ++ '.' :: (fraction ++ '.' :: more)) = none := by
  have point : Numeral.plainDigit '.' = '.' := by decide
  have ascii := Numeral.isDigit_plainDigits digits
  rw [List.map_append] at ascii
  have behind : ∀ c ∈ more.map Numeral.plainDigit, Numeral.IsPlain c := by
    rw [List.forall_mem_map]
    exact fun c member => Numeral.isPlain_plainDigit (plain c member)
  have all : ∀ c ∈ (whole ++ '.' :: (fraction ++ '.' :: more)).map Numeral.plainDigit, Numeral.IsPlain c := by
    simp only [List.map_append, List.map_cons, point, List.forall_mem_append, List.forall_mem_cons] at ascii ⊢
    exact ⟨fun c member => .inr (ascii.1 c member), .inl rfl, fun c member => .inr (ascii.2 c member), .inl rfl, behind⟩
  rw [readNumeral?, Numeral.dropUnderscores_of_plain all, Option.bind_some]
  simp only [List.map_append, List.map_cons, point]
  exact Numeral.readPlain_of_points ascii behind

/-- A numeral of a call that is read denotes a number, and what is read is the double nearest to it. -/
theorem exists_isFixed_of_readNumeral? {x : Binary64} (plain : ∀ c ∈ numeral, isNumeralChar c = true)
    (read : readNumeral? numeral = some x) : ∃ value, IsFixed numeral value ∧ x = Binary64.ofRat value := by
  have fixed : ∃ value, IsFixed numeral value := by
    rcases points_cases plain with digits | ⟨whole, rest, rfl, digits, others⟩
    · have filled : numeral ≠ [] := by
        rintro rfl
        cases read
      exact ⟨_, .whole ⟨filled, digits, rfl⟩⟩
    · rcases points_cases others with fraction | ⟨fraction, more, rfl, fractional, behind⟩
      · have filled : whole ++ rest ≠ [] := by
          rw [Ne, List.append_eq_nil_iff]
          rintro ⟨rfl, rfl⟩
          cases read
        exact ⟨_, .pointed ⟨filled, List.forall_mem_append.mpr ⟨digits, fraction⟩, rfl⟩⟩
      · rw [readNumeral?_of_points (List.forall_mem_append.mpr ⟨digits, fractional⟩) behind] at read
        cases read
  obtain ⟨value, fixed⟩ := fixed
  rw [readNumeral?_of_isFixed fixed, Option.some.injEq] at read
  exact ⟨value, fixed, read.symm⟩

/-! ## Channels -/

/-- A channel for a number: in the range of an octet, and on the same side of every whole number there. -/
structure Clamps (value : Rat) (n : Nat) : Prop where
  most : n ≤ 255
  below : ∀ k : Nat, k ≤ 255 → (k : Rat) ≤ value → k ≤ n
  above : ∀ k : Nat, value ≤ k → n ≤ k

/-- A whole number is kept up to the greatest octet. -/
theorem Clamps.eq_min {k n : Nat} (clamps : Clamps k n) : n = min 255 k := by
  have most := clamps.most
  have above := clamps.above k le_rfl
  rcases Nat.le_total k 255 with fits | exceeds
  · have below := clamps.below k fits le_rfl
    omega
  · have below := clamps.below 255 le_rfl (by exact_mod_cast exceeds)
    omega

open Binary64 in
/-- The half that is added before going down to an integer leaves a number on its side of the whole ones. -/
theorem roundHalfUp_ofRat (nonneg : 0 ≤ value) (below : value < overflowBound) :
    ∃ n : Int, roundHalfUp (ofRat value) = .ok n ∧ (∀ k : Nat, k ≤ 255 → (k : Rat) ≤ value → k ≤ n) ∧
      ∀ k : Nat, k ≤ 255 → value ≤ k → n ≤ k := by
  have half : (ofRat (1 / 2)).toRat? = some (1 / 2) := by decide +kernel
  have finite : (ofRat value).isFinite = true := by
    rw [ofRat, isFinite_round, abs_of_nonneg nonneg]
    exact below
  obtain ⟨v, near⟩ := isFinite_iff.mp finite
  have least : 0 ≤ v := nonneg_of_ofRat nonneg near
  have sum : ofRat value + ofRat (1 / 2) = ofRat (v + 1 / 2) := by
    apply (add_eq_round near half).resolve_right
    rintro ⟨-, zero⟩
    linarith
  have finiteSum : (ofRat (v + 1 / 2)).isFinite = true := by
    have bound := (abs_le.mp (abs_le_of_toRat? near)).2
    have close := greatestDouble_lt
    rw [ofRat, isFinite_round, abs_of_nonneg (by linarith)]
    linarith
  obtain ⟨w, whole⟩ := isFinite_iff.mp finiteSum
  have large : 2 * 255 + 1 < twoPow 53 := by decide
  refine ⟨w.floor, ?_, ?_, ?_⟩
  · rw [roundHalfUp, sum]
    exact floor_eq_ok whole
  · intro k small fits
    have double : Representable (k : Rat) := representable_natCast (by omega)
    have first : (k : Rat) ≤ v := le_of_le_ofRat double nonneg fits near
    have second : (k : Rat) ≤ w := le_of_le_ofRat double (by linarith) (by linarith) whole
    exact Rat.le_floor_iff.mpr (by exact_mod_cast second)
  · intro k small fits
    have first : v ≤ k := ofRat_le_of_le (representable_natCast (by omega)) nonneg fits near
    have second : w ≤ k + 1 / 2 := ofRat_le_of_le (representable_half (by omega)) (by linarith) (by linarith) whole
    have under : (w.floor : Rat) < k + 1 := by
      have floor := Rat.floor_le w
      linarith
    exact Int.le_of_lt_add_one (by exact_mod_cast under)

/-- A channel is refused exactly if it is rounded to an infinity. -/
theorem channel_ofRat (nonneg : 0 ≤ value) : Hinges RangeFault.integerOfInfinity (value < overflowBound)
    (Clamps value) (channel (Binary64.ofRat value)) := by
  by_cases fits : value < overflowBound
  · obtain ⟨n, rounded, below, above⟩ := roundHalfUp_ofRat nonneg fits
    have result : channel (Binary64.ofRat value) = .ok (max 0 (min 255 n)).toNat := by rw [channel, rounded]; rfl
    rw [result]
    refine ⟨fits, by omega, ?_, ?_⟩
    · intro k small reaches
      have kept := below k small reaches
      omega
    · intro k reached
      rcases Nat.le_total k 255 with small | large
      · have kept := above k small reached
        omega
      · omega
  · have infinite : ¬(Binary64.ofRat value).isFinite = true := by
      rw [Binary64.ofRat, Binary64.isFinite_round, abs_of_nonneg nonneg]
      exact fits
    have number : Binary64.ofRat value ≠ .nan := Binary64.round_ne_nan
    rw [(channel_hinges number).eq_error infinite]
    exact ⟨fits, rfl⟩

/-! ## Opacities -/

theorem opacity_of_finite {x : Binary64} {v : Rat} (known : x.toRat? = some v) :
    (opacity x).toRat? = some (min 1 (max 0 v)) := by
  have zero : (0 : Binary64).toRat? = some 0 := by decide +kernel
  have one : (1 : Binary64).toRat? = some 1 := by decide +kernel
  exact Binary64.toRat?_min one (Binary64.toRat?_max zero known)

/-- What is rounded to no finite double is rounded to the infinity on its side. -/
theorem ofRat_eq_infinite (nonneg : 0 ≤ value) (beyond : (Binary64.ofRat value).toRat? = none) :
    Binary64.ofRat value = .infinite false := by
  rw [Binary64.ofRat, decide_eq_false (not_lt.mpr nonneg)] at beyond ⊢
  unfold Binary64.round at beyond ⊢
  split at beyond
  · next none => rfl
  · split at beyond
    · cases beyond
    · cases beyond

/-- An opacity is moved between zero and one. -/
theorem opacity_ofRat (nonneg : 0 ≤ value) : ∃ within : Rat, (opacity (Binary64.ofRat value)).toRat? = some within ∧
    0 ≤ within ∧ within ≤ 1 ∧ (1 ≤ value → within = 1) ∧ (value = 0 → within = 0) := by
  have nothing : Representable (0 : Rat) := by exact_mod_cast representable_natCast (k := 0) (by decide)
  have full : Representable (1 : Rat) := by exact_mod_cast representable_natCast (k := 1) (by decide)
  cases near : (Binary64.ofRat value).toRat? with
  | some v =>
    have least := Binary64.nonneg_of_ofRat nonneg near
    refine ⟨min 1 v, ?_, le_min (by norm_num) least, min_le_left _ _, ?_, ?_⟩
    · rw [opacity_of_finite near, max_eq_right least]
    · intro most
      exact min_eq_left (Binary64.le_of_le_ofRat full nonneg most near)
    · rintro rfl
      rw [le_antisymm (Binary64.ofRat_le_of_le nothing le_rfl le_rfl near) least]
      norm_num
  | none =>
    have infinite : (opacity (.infinite false)).toRat? = some 1 := by decide +kernel
    refine ⟨1, ?_, by norm_num, le_rfl, fun _ => rfl, ?_⟩
    · rw [ofRat_eq_infinite nonneg near]
      exact infinite
    · rintro rfl
      rw [Binary64.toRat?_ofRat_of_representable nothing le_rfl] at near
      cases near

end Color

end Montage
