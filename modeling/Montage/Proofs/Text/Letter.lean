import Montage.Text.Blank
import Montage.Text.Letter

/-! # Letters and digits

Letters and digits are those of ASCII. They are no blanks, and only they have another case.
-/

namespace Montage.Text

variable {c mark : Char}

/-- What holds of the characters of ASCII is seen one by one. -/
theorem forall_ascii {p : Char → Prop} (all : ∀ n < 128, p (Char.ofNat n)) (small : c.toNat < 128) : p c := by
  have here := all c.toNat small
  rwa [Char.ofNat_toNat] at here

/-- Only letters have another case. -/
theorem eq_of_toLower (lower : c.toLower = mark) (other : mark < 'a' ∨ 'z' < mark) : c = mark := by
  unfold Char.toLower at lower
  split at lower
  · next upper =>
    subst lower
    obtain ⟨least, most⟩ := upper
    simp only [Char.lt_def, UInt32.lt_iff_toNat_lt, UInt32.le_iff_toNat_le, ge_iff_le,
      UInt32.toNat_add] at other least most
    simp at other least most
    omega
  · exact lower

/-- Only characters of ASCII have a small form there. -/
theorem toNat_of_toLower (lower : c.toLower.toNat < 128) : c.toNat < 128 := by
  unfold Char.toLower at lower
  split at lower
  · next upper =>
    have most : c.toNat ≤ 90 := UInt32.le_iff_toNat_le.mp upper.2
    omega
  · exact lower

theorem isFormOf_iff {letter : Char} (dotless : letter ≠ 'i') : isFormOf letter c = true ↔ c.toLower = letter := by
  simp [isFormOf, dotless]

theorem toNat_of_isDigit (digit : c.isDigit = true) : 48 ≤ c.toNat ∧ c.toNat ≤ 57 := by
  obtain ⟨least, most⟩ := Bool.and_eq_true_iff.mp digit
  exact ⟨of_decide_eq_true least, of_decide_eq_true most⟩

theorem toNat_of_isAlphanum (letter : c.isAlphanum = true) :
    48 ≤ c.toNat ∧ c.toNat ≤ 57 ∨ 65 ≤ c.toNat ∧ c.toNat ≤ 90 ∨ 97 ≤ c.toNat ∧ c.toNat ≤ 122 := by
  rcases Bool.or_eq_true_iff.mp letter with alpha | digit
  · rcases Bool.or_eq_true_iff.mp alpha with upper | lower
    · obtain ⟨least, most⟩ := of_decide_eq_true upper
      exact .inr (.inl ⟨least, most⟩)
    · obtain ⟨least, most⟩ := Bool.and_eq_true_iff.mp lower
      exact .inr (.inr ⟨of_decide_eq_true least, of_decide_eq_true most⟩)
  · exact .inl (toNat_of_isDigit digit)

theorem isBlank_of_isAlphanum (letter : c.isAlphanum = true) : isBlank c = false := by
  have code := toNat_of_isAlphanum letter
  simp [isBlank]
  omega

end Montage.Text
