import Montage.Proofs.Color.Name

/-! # Calls of whole numbers, and the forms that agree with them

A call of three whole numbers is named by them, each brought down to the greatest octet. Where they are octets
already and no opacity is given, the hexadecimal form of the same colour has the same name.
-/

namespace Montage.Color

/-- The opacities that are named as whole numbers: one that is left out, a full one, and none at all. -/
inductive IsWholeOpacity : Option Argument → String → Prop
  | omitted : IsWholeOpacity none "1"
  | full {alpha : Argument} {value : Rat} (fixed : IsFixed alpha.numeral value) (most : 1 ≤ value) :
      IsWholeOpacity (some alpha) "1"
  | clear {alpha : Argument} (fixed : IsFixed alpha.numeral 0) : IsWholeOpacity (some alpha) "0"

/-- A call of whole numbers with such an opacity, as it is written. -/
structure IsWhole (w : Writing) (r g b : Nat) (opacity : String) : Prop where
  red : IsDecimal w.red.numeral r
  green : IsDecimal w.green.numeral g
  blue : IsDecimal w.blue.numeral b
  alpha : IsWholeOpacity w.alpha opacity
  exact : r < 2 ^ 53 ∧ g < 2 ^ 53 ∧ b < 2 ^ 53

variable {w : Writing} {red green blue : Nat} {alpha : String}

theorem plainText_of_toRat? {x : Binary64} {n : Int} (known : x.toRat? = some (n : Rat)) :
    x.plainText = toString n := by
  have whole : x.toInt? = some n := by
    rw [Binary64.toInt?, known]
    exact if_pos (Rat.den_intCast n)
  rw [Binary64.plainText, whole]

theorem lt_overflowBound {n : Nat} (small : n < 2 ^ 53) : (n : Rat) < overflowBound := by
  have double := (representable_natCast small).abs_le
  have close := greatestDouble_lt
  rw [Nat.abs_cast] at double
  linarith

theorem plainText_opacity {value : Rat} (most : 1 ≤ value) : (opacity (.ofRat value)).plainText = "1" := by
  obtain ⟨within, known, -, -, full, -⟩ := opacity_ofRat (by linarith : 0 ≤ value)
  rw [full most] at known
  exact plainText_of_toRat? (n := 1) (by exact_mod_cast known)

theorem plainText_opacity_zero : (opacity (.ofRat 0)).plainText = "0" := by
  obtain ⟨within, known, -, -, -, clear⟩ := opacity_ofRat (le_refl 0)
  rw [clear rfl] at known
  exact plainText_of_toRat? (n := 0) (by exact_mod_cast known)

/-- An opacity that is named as a whole number, as the call has it. -/
theorem IsWholeOpacity.exists_value {last : Option Argument} (whole : IsWholeOpacity last alpha) : ∃ value : Rat,
    (∀ numeral, last.map Argument.numeral = some numeral → IsFixed numeral value) ∧
      (last.map Argument.numeral = none → value = 1) ∧ (opacity (.ofRat value)).plainText = alpha := by
  cases whole with
  | omitted => exact ⟨1, nofun, fun _ => rfl, plainText_opacity le_rfl⟩
  | @full a value fixed most =>
    refine ⟨value, ?_, nofun, plainText_opacity most⟩
    rintro _ ⟨⟩
    exact fixed
  | @clear a fixed =>
    refine ⟨0, ?_, nofun, plainText_opacity_zero⟩
    rintro _ ⟨⟩
    exact fixed

/-- Whole numbers are what such a call denotes, beside an opacity that is named as a whole number. -/
theorem IsWhole.denotes (whole : IsWhole w red green blue alpha) : ∃ value : Rat,
    w.call.Denotes ⟨red, green, blue, value⟩ ∧ (opacity (.ofRat value)).plainText = alpha := by
  obtain ⟨value, fixed, omitted, written⟩ := whole.alpha.exists_value
  exact ⟨value, ⟨.whole whole.red, .whole whole.green, .whole whole.blue, fixed, omitted⟩, written⟩

/-- Such a call is named by its numbers, brought down to the greatest octet. -/
theorem IsWhole.resolve_call (whole : IsWhole w red green blue alpha) : w.call.resolve = .ok ("0x" ++
    String.ofList (hexByte (min 255 red) ++ hexByte (min 255 green) ++ hexByte (min 255 blue)) ++ "@" ++ alpha) := by
  obtain ⟨value, denotes, written⟩ := whole.denotes
  have range : (Values.mk red green blue value).InRange :=
    ⟨lt_overflowBound whole.exact.1, lt_overflowBound whole.exact.2.1, lt_overflowBound whole.exact.2.2⟩
  obtain ⟨name, resolved, r, g, b, clampedRed, clampedGreen, clampedBlue, rfl⟩ :=
    denotes.resolve_hinges.exists_eq_ok range
  rw [resolved, clampedRed.eq_min, clampedGreen.eq_min, clampedBlue.eq_min, literal, written]

/-- Behind signs that begin no call, and whatever follows, a call of whole numbers is named by them. Where they are
octets and no opacity is given, each hexadecimal form of the same octets has the same name. -/
theorem resolveText_of_isWhole {before : List Char} (apart : ∀ c ∈ before, c ≠ 'r' ∧ c ≠ 'R')
    (whole : IsWhole w red green blue alpha) (after : List Char) :
    resolveText (some (String.ofList (before ++ (w.text ++ after)))) = .ok ("0x" ++
      String.ofList (hexByte (min 255 red) ++ hexByte (min 255 green) ++ hexByte (min 255 blue)) ++ "@" ++ alpha) ∧
    (red ≤ 255 → green ≤ 255 → blue ≤ 255 → w.alpha = none → ∀ form : HexForm,
      form.digits.map Char.toUpper = hexByte red ++ hexByte green ++ hexByte blue →
        resolveText (some (String.ofList (before ++ (w.text ++ after)))) =
          resolveText (some (String.ofList form.text))) := by
  have named : resolveText (some (String.ofList (before ++ (w.text ++ after)))) = w.call.resolve := by
    rw [resolveText, String.toList_ofList]
    exact resolve_of_isFirst (isFirst_of_writing apart w after)
  rw [named, whole.resolve_call]
  refine ⟨rfl, ?_⟩
  intro octetRed octetGreen octetBlue omitted form same
  have one : alpha = "1" := by
    have opacity := whole.alpha
    rw [omitted] at opacity
    cases opacity
    rfl
  have joined : "@1" = "@" ++ "1" := rfl
  rw [resolveText, String.toList_ofList, form.resolve_text, same, min_eq_right octetRed, min_eq_right octetGreen,
    min_eq_right octetBlue, one, joined, ← String.append_assoc]

/-- An amber with blanks in it and letters of both cases. -/
def amber : Writing where
  word := ['R', 'g', 'B']
  gap := ['\t']
  red := ⟨['\t'], ['2', '5', '5'], [], List.all_eq_true.mp rfl, List.cons_ne_nil _ _, List.all_eq_true.mp rfl⟩
  green := ⟨[' '], ['1', '7', '6'], [' '], List.all_eq_true.mp rfl, List.cons_ne_nil _ _, List.all_eq_true.mp rfl⟩
  blue := ⟨[], ['0', '0'], ['\n'], List.all_eq_true.mp rfl, List.cons_ne_nil _ _, List.all_eq_true.mp rfl⟩
  alpha := none
  spelled := .inl rfl
  blank := List.all_eq_true.mp rfl

/-- The same colour in hexadecimal digits. -/
def amberForm : HexForm where
  before := [' ']
  mark := ['#']
  digits := ['f', 'F', 'b', '0', '0', '0']
  behind := []
  blank := List.all_eq_true.mp rfl
  marked := .inr rfl
  six := rfl
  hexadecimal := List.all_eq_true.mp rfl

theorem amber_agrees : IsWhole amber 255 176 0 "1" ∧
    resolveText (some (String.ofList (['A', ':'] ++ (amber.text ++ ['!'])))) = .ok "0xFFB000@1" ∧
    resolveText (some (String.ofList (['A', ':'] ++ (amber.text ++ ['!'])))) =
      resolveText (some (String.ofList amberForm.text)) := by
  have digits : ∀ numeral ∈ [amber.red.numeral, amber.green.numeral, amber.blue.numeral],
      numeral.all Text.isDecimalDigit = true := by decide
  simp only [List.forall_mem_cons, List.all_eq_true] at digits
  obtain ⟨red, green, blue, -⟩ := digits
  have whole : IsWhole amber 255 176 0 "1" :=
    ⟨⟨by decide, red, by decide⟩, ⟨by decide, green, by decide⟩, ⟨by decide, blue, by decide⟩, .omitted, by decide⟩
  have apart : ∀ c ∈ ['A', ':'], c ≠ 'r' ∧ c ≠ 'R' := by simp
  obtain ⟨named, agrees⟩ := resolveText_of_isWhole apart whole ['!']
  refine ⟨whole, ?_, agrees (by decide) (by decide) (by decide) rfl amberForm (by decide)⟩
  rw [named]
  rfl

end Montage.Color
