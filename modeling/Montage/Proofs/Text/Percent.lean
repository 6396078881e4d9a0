import Montage.Proofs.Text.Utf8
import Montage.Text.Percent

/-! # Percent-coded text is read back

The octets of a text may be written in many ways: some characters stand for themselves, and an escape may have its
digits in either case. However a text was written, its characters are decoded from it.
-/

namespace Montage.Text.Percent

open String (utf8EncodeChar)

variable {isKept : Char → Bool} {octets : List UInt8} {coded s : List Char}

/-- Octets and a way to write them: a character that is kept stands for its own octet, and any octet may be written
as an escape. -/
inductive Codes (isKept : Char → Bool) : List UInt8 → List Char → Prop
  | nil : Codes isKept [] []
  | kept {c : Char} {octets : List UInt8} {coded : List Char} (plain : isKept c = true)
      (others : Codes isKept octets coded) : Codes isKept (UInt8.ofNat c.toNat :: octets) (c :: coded)
  | escaped {octet : UInt8} {high low : Char} {octets : List UInt8} {coded : List Char}
      (first : hexValue? high = some (octet.toNat / 16)) (second : hexValue? low = some (octet.toNat % 16))
      (others : Codes isKept octets coded) : Codes isKept (octet :: octets) ('%' :: high :: low :: coded)

/-- The characters that may be kept are ASCII, without the percent sign. -/
def IsPlain (isKept : Char → Bool) : Prop := ∀ c, isKept c = true → c.toNat < 0x80 ∧ c ≠ '%'

theorem Codes.ne_nil (codes : Codes isKept octets coded) (filled : octets ≠ []) : coded ≠ [] := by
  cases codes with
  | nil => exact absurd rfl filled
  | kept | escaped => apply List.cons_ne_nil

theorem Codes.mem (codes : Codes isKept octets coded) {c : Char} (member : c ∈ coded) :
    isKept c = true ∨ c = '%' ∨ isHexDigit c = true := by
  induction codes with
  | nil => contradiction
  | kept plain _ ih =>
    rcases List.mem_cons.mp member with rfl | member
    · exact .inl plain
    · exact ih member
  | escaped first second _ ih =>
    simp only [List.mem_cons] at member
    rcases member with rfl | rfl | rfl | member
    · exact .inr (.inl rfl)
    · exact .inr (.inr (Option.isSome_iff_exists.mpr ⟨_, first⟩))
    · exact .inr (.inr (Option.isSome_iff_exists.mpr ⟨_, second⟩))
    · exact ih member

/-- What is found in octets does not depend on how they are written. -/
theorem Codes.scan_eq (plain : IsPlain isKept) (codes : Codes isKept octets coded) (pending : Option Utf8.Pending) :
    scan pending coded = (Utf8.run pending octets).1 ++ Utf8.finish (Utf8.run pending octets).2 := by
  induction codes generalizing pending with
  | nil => rfl
  | @kept c octets coded here _ ih =>
    obtain ⟨low, other⟩ := plain c here
    rw [scan.eq_def]
    simp only [if_neg other, if_pos low, ih, Utf8.run, List.append_assoc]
  | @escaped octet high low octets coded first second _ ih =>
    have whole : UInt8.ofNat (octet.toNat / 16 * 16 + octet.toNat % 16) = octet := by
      rw [Nat.div_add_mod', UInt8.ofNat_toNat]
    rw [scan, if_pos rfl]
    simp only [first, second, whole, ih, Utf8.run, List.append_assoc]

/-- A text is decoded from every way to write its octets. -/
theorem decode?_of_codes (plain : IsPlain isKept) (codes : Codes isKept (s.flatMap utf8EncodeChar) coded) :
    decode? coded = some s := by
  have found : scan none coded = s.map some := by
    rw [codes.scan_eq plain, Utf8.run_encode]
    apply List.append_nil
  rw [decode?, Utf8.refuseFaults_eq_some_iff, found]

/-- From the first character on, an octet is read with what goes on behind it, or the character stands for itself. -/
theorem scan_cons (pending : Option Utf8.Pending) (c : Char) (rest : List Char) :
    (∃ octet more, more.length ≤ rest.length ∧ scan pending (c :: rest) =
      (Utf8.step pending octet).1 ++ scan (Utf8.step pending octet).2 more) ∨
    scan pending (c :: rest) = Utf8.finish pending ++ some c :: scan none rest := by
  rw [scan.eq_def]
  dsimp only
  split
  · left
    split
    · next a b more =>
      split
      · exact ⟨_, more, Nat.le_add_right _ 2, rfl⟩
      · exact ⟨_, a :: b :: more, le_refl _, rfl⟩
    · exact ⟨_, _, le_refl _, rfl⟩
  · split
    · exact .inl ⟨_, rest, le_refl _, rfl⟩
    · exact .inr rfl

/-- No more is found in a text than it has characters. -/
theorem length_scan_le (pending : Option Utf8.Pending) (coded : List Char) :
    (scan pending coded).length ≤ coded.length + (Utf8.finish pending).length := by
  -- An escape takes three characters at once, so the induction is on the length.
  induction size : coded.length using Nat.strong_induction_on generalizing pending coded with
  | _ count shorter =>
    subst size
    cases coded with
    | nil => exact Nat.le_add_left _ _
    | cons c rest =>
      rcases scan_cons pending c rest with ⟨octet, more, fewer, read⟩ | read
      · have step := Utf8.length_step_le pending octet
        have later := shorter more.length (Nat.lt_succ_of_le fewer) (Utf8.step pending octet).2 more rfl
        rw [read, List.length_append, List.length_cons]
        omega
      · have later := shorter rest.length (Nat.lt_succ_self _) none rest rfl
        have empty : (Utf8.finish none).length = 0 := rfl
        rw [read, List.length_append, List.length_cons, List.length_cons]
        omega

/-- A decoded text is no longer than it was. -/
theorem length_decode?_le (decoded : decode? coded = some s) : s.length ≤ coded.length := by
  unfold decode? at decoded
  have most := length_scan_le none coded
  rw [Utf8.refuseFaults_eq_some_iff.mp decoded, List.length_map] at most
  exact most

end Montage.Text.Percent
