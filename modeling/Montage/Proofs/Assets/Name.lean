import Mathlib.Data.List.Basic
import Mathlib.Data.String.Basic
import Montage.Composition

/-! # Names that pass

The names of assets are runs of letters and digits of ASCII, underscores and dashes. The check lets them pass, and
besides them only such names with a single line break behind them. Of a font both its family and its weight are
checked, where the weight that is asked for has given way to the usual one before if it is missing or empty.
-/

namespace Montage.AssetName

variable {name : String} {c : Char}

/-- The names that assets are meant to have. -/
structure IsProper (name : String) : Prop where
  filled : name ≠ ""
  plain : ∀ c ∈ name.toList, ('A' ≤ c ∧ c ≤ 'Z') ∨ ('a' ≤ c ∧ c ≤ 'z') ∨ ('0' ≤ c ∧ c ≤ '9') ∨ c = '_' ∨ c = '-'

/-- A proper name with a line break behind it. -/
def IsBroken (name : String) : Prop := ∃ proper, IsProper proper ∧ name = proper ++ "\n"

/-- The names that pass: proper ones, with or without a line break behind them. -/
def Passes (name : String) : Prop := IsProper name ∨ IsBroken name

theorem isNameChar_iff : isNameChar c = true ↔
    ('A' ≤ c ∧ c ≤ 'Z') ∨ ('a' ≤ c ∧ c ≤ 'z') ∨ ('0' ≤ c ∧ c ≤ '9') ∨ c = '_' ∨ c = '-' := by
  have upper : c.isUpper = true ↔ 'A' ≤ c ∧ c ≤ 'Z' := decide_eq_true_iff
  have lower : c.isLower = true ↔ 'a' ≤ c ∧ c ≤ 'z' :=
    Bool.and_eq_true_iff.trans (and_congr decide_eq_true_iff decide_eq_true_iff)
  have digit : c.isDigit = true ↔ '0' ≤ c ∧ c ≤ '9' :=
    Bool.and_eq_true_iff.trans (and_congr decide_eq_true_iff decide_eq_true_iff)
  have letter : c.isAlpha = true ↔ c.isUpper = true ∨ c.isLower = true := Bool.or_eq_true_iff
  have plain : c.isAlphanum = true ↔ c.isAlpha = true ∨ c.isDigit = true := Bool.or_eq_true_iff
  simp only [isNameChar, Bool.or_eq_true, decide_eq_true_iff, plain, letter, upper, lower, digit, or_assoc]

theorem isProper_iff : IsProper name ↔ name ≠ "" ∧ ∀ c ∈ name.toList, isNameChar c = true := by
  simp only [isNameChar_iff]
  exact ⟨fun proper => ⟨proper.filled, proper.plain⟩, fun both => ⟨both.1, both.2⟩⟩

instance : Decidable (IsProper name) :=
  decidable_of_iff (name ≠ "" ∧ name.toList.all isNameChar = true) (by rw [isProper_iff, List.all_eq_true])

/-- There is no line break in a proper name. -/
theorem IsProper.break_notMem (proper : IsProper name) : '\n' ∉ name.toList := by
  intro member
  exact absurd ((isProper_iff.mp proper).2 '\n' member) (by decide)

theorem IsProper.not_isBroken (proper : IsProper name) : ¬ IsBroken name := by
  rintro ⟨front, -, rfl⟩
  apply proper.break_notMem
  rw [String.toList_append]
  exact List.mem_append_right _ List.mem_cons_self

theorem isValid_iff : isValid name = true ↔ Passes name := by
  have reads : isValid name = true ↔ IsProper (String.ofList (dropFinalBreak name.toList)) := by
    rw [isProper_iff, String.toList_ofList, ne_eq, String.ofList_eq_empty_iff]
    simp [isValid]
  rw [reads]
  unfold dropFinalBreak
  split
  · next ends =>
    have parts := List.dropLast_append_getLast? '\n' ends
    constructor
    · intro proper
      refine .inr ⟨_, proper, ?_⟩
      rw [← String.toList_inj, String.toList_append, String.toList_ofList]
      exact parts.symm
    · rintro (proper | ⟨front, proper, rfl⟩)
      · exact absurd (List.mem_of_getLast? ends) proper.break_notMem
      · rw [String.toList_append] at parts ⊢
        rw [List.append_cancel_right parts, String.ofList_toList]
        exact proper
  · next other =>
    rw [String.ofList_toList]
    constructor
    · exact .inl
    · rintro (proper | ⟨front, -, rfl⟩)
      · exact proper
      · rw [String.toList_append] at other
        exact absurd List.getLast?_concat other

/-- The characters of a name that passes, and the line break that may end it. -/
theorem mem_of_isValid (valid : isValid name = true) (member : c ∈ name.toList) : isNameChar c = true ∨ c = '\n' := by
  rcases isValid_iff.mp valid with proper | ⟨front, proper, rfl⟩
  · exact .inl ((isProper_iff.mp proper).2 c member)
  · rw [String.toList_append] at member
    rcases List.mem_append.mp member with inner | last
    · exact .inl ((isProper_iff.mp proper).2 c inner)
    · exact .inr (List.mem_singleton.mp last)

theorem isValid_of_check {kind other : String} (passes : check name kind = .ok other) : isValid name = true := by
  unfold check at passes
  split at passes
  · next valid => exact valid
  · cases passes

/-- There are proper names of any length but none. -/
theorem isProper_replicate {count : Nat} (some : count ≠ 0) (letter : isNameChar c = true) :
    IsProper (String.ofList (List.replicate count c)) := by
  rw [isProper_iff, String.toList_ofList, ne_eq, String.ofList_eq_empty_iff, List.replicate_eq_nil_iff]
  refine ⟨some, fun other member => ?_⟩
  rw [List.eq_of_mem_replicate member]
  exact letter

theorem utf8ByteSize_replicate (count : Nat) (c : Char) :
    (String.ofList (List.replicate count c)).utf8ByteSize = count * c.utf8Size := by
  rw [String.utf8ByteSize_ofList]
  induction count with
  | zero => rw [Nat.zero_mul, List.replicate_zero, String.utf8Len_nil]
  | succ count ih => rw [List.replicate_succ, String.utf8Len_cons, ih, Nat.add_one_mul]

/-- The weight of a font that is looked for: the one that is asked for, or the usual one. -/
def weightOf (weight : Option String) : String := Composition.orElse weight AssetLibrary.defaultWeight

/-- A font whose family or weight does not pass is refused under both of them. -/
theorem font_of_invalid (library : AssetLibrary) {family weight : Option String}
    (bad : ¬ (isValid (family.getD "") = true ∧ isValid (weightOf weight) = true)) :
    library.font family weight = .error (.invalidName "font" (family.getD "None" ++ "-" ++ weightOf weight)) := by
  rw [← Bool.and_eq_true] at bad
  exact if_neg bad

/-- A font whose family and weight pass is not refused for a name. -/
theorem font_of_valid (library : AssetLibrary) {family weight : Option String} (kind other : String)
    (good : isValid (family.getD "") = true) (heavy : isValid (weightOf weight) = true) :
    library.font family weight ≠ .error (.invalidName kind other) := by
  have looked : library.font family weight =
      (library.holds (library.fontsDir / (family.getD "" ++ "-" ++ weightOf weight ++ ".ttf"))).bind fun found =>
        if found then .ok (library.fontsDir / (family.getD "" ++ "-" ++ weightOf weight ++ ".ttf")).text
        else .error (.missingFont (family.getD "" ++ "-" ++ weightOf weight ++ ".ttf")) :=
    if_pos (Bool.and_eq_true_iff.mpr ⟨good, heavy⟩)
  rw [looked, AssetLibrary.holds]
  cases library.files.isFile (library.fontsDir / (family.getD "" ++ "-" ++ weightOf weight ++ ".ttf")) with
  | error fault =>
    intro same
    cases same
  | ok there =>
    intro same
    cases there with
    | true => cases same
    | false => cases same

/-- Of all names, the proper ones are accepted and those that are proper but for a line break behind them, and all
others are refused. A font is refused for its names exactly if its family or its weight is among these others, where
the weight is the usual one if none is asked for. -/
theorem names_accepted (library : AssetLibrary) (name kind : String) (family weight : Option String) :
    (check name kind = .ok name ↔ IsProper name ∨ IsBroken name) ∧
      (check name kind = .error (.invalidName kind name) ↔ ¬ (IsProper name ∨ IsBroken name)) ∧
      (IsProper name → ¬ IsBroken name) ∧
      ((∃ kind other, library.font family weight = .error (.invalidName kind other)) ↔
        ¬ (Passes (family.getD "") ∧ Passes (weightOf weight))) ∧
      (¬ (Passes (family.getD "") ∧ Passes (weightOf weight)) → library.font family weight =
        .error (.invalidName "font" (family.getD "None" ++ "-" ++ weightOf weight))) := by
  have checked : check name kind = if isValid name then .ok name else .error (.invalidName kind name) := rfl
  have font : ¬ (Passes (family.getD "") ∧ Passes (weightOf weight)) → library.font family weight =
      .error (.invalidName "font" (family.getD "None" ++ "-" ++ weightOf weight)) := by
    rw [← isValid_iff, ← isValid_iff]
    exact font_of_invalid library
  refine ⟨?_, ?_, IsProper.not_isBroken, ⟨?_, fun bad => ⟨_, _, font bad⟩⟩, font⟩
  · rw [checked, ← Passes, ← isValid_iff]
    split
    · next good => exact iff_of_true rfl good
    · next bad => exact iff_of_false (fun same => by cases same) bad
  · rw [checked, ← Passes, ← isValid_iff]
    split
    · next good => exact iff_of_false (fun same => by cases same) (not_not_intro good)
    · next bad => exact iff_of_true rfl bad
  · rintro ⟨kind, other, refused⟩ ⟨good, heavy⟩
    exact font_of_valid library kind other (isValid_iff.mpr good) (isValid_iff.mpr heavy) refused

/-- A line break behind a name is let through, for stickers and fonts alike. -/
theorem brokenStar_accepted : ¬ IsProper "star\n" ∧ check "star\n" "asset" = .ok "star\n" ∧
    ¬ IsProper "Inter\n" ∧ ¬ IsProper "Bold\n" ∧
    (AssetLibrary.ofSettings {} {}).font (some "Inter\n") (some "Bold\n") =
      .error (.missingFont "Inter\n-Bold\n.ttf") := by
  refine ⟨?_, ?_, ?_, ?_, ?_⟩
  all_goals decide +kernel

end Montage.AssetName
