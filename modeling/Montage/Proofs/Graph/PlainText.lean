import Montage.Color
import Montage.Proofs.Graph.Lexer
import Montage.Proofs.Result
import Montage.Proofs.Text.Letter

/-! # Plain texts

Numbers and colours are written without quotes, backslashes, semicolons and opening brackets. A text
of other characters only means nothing to the engine beyond itself, so it is inert wherever it stands.
-/

namespace Montage

/-- Whether a character neither quotes nor ends nor opens anything. -/
def isPlainChar (c : Char) : Bool := c ≠ '\'' && c ≠ '\\' && c ≠ ';' && c ≠ '['

/-- A text of characters that mean nothing beyond themselves. -/
def IsPlain (text : String) : Prop := ∀ c ∈ text.toList, isPlainChar c = true

instance (text : String) : Decidable (IsPlain text) :=
  decidable_of_iff (text.toList.all isPlainChar = true) List.all_eq_true

@[simp] theorem isPlain_append {first second : String} :
    IsPlain (first ++ second) ↔ IsPlain first ∧ IsPlain second := by
  simp only [IsPlain, String.toList_append, List.mem_append, or_imp, forall_and]

@[simp] theorem isPlain_ofList {s : List Char} :
    IsPlain (String.ofList s) ↔ ∀ c ∈ s, isPlainChar c = true := by
  rw [IsPlain, String.toList_ofList]

theorem IsPlain.inert {text : String} (plain : IsPlain text) : Graph.IsInert text := by
  rw [IsPlain] at plain
  rw [Graph.IsInert]
  generalize text.toList = s at plain ⊢
  induction s with
  | nil => rfl
  | cons c rest ih =>
    have here := plain c List.mem_cons_self
    simp only [isPlainChar, Bool.and_eq_true, decide_eq_true_eq] at here
    obtain ⟨⟨⟨quote, backslash⟩, semicolon⟩, bracket⟩ := here
    have goesOn : Graph.Lexer.Mode.plain.breaks c = false := by
      simp [Graph.Lexer.Mode.breaks, semicolon, bracket]
    have stays : Graph.Lexer.Mode.plain.next c = .plain := by
      simp [Graph.Lexer.Mode.next, quote, backslash, bracket]
    rw [Graph.Lexer.Mode.through, goesOn, if_neg Bool.false_ne_true, stays]
    exact ih fun other member => plain other (List.mem_cons_of_mem _ member)

/-! ## Numbers -/

theorem isPlainChar_of_isDigit {c : Char} (digit : c.isDigit = true) : isPlainChar c = true := by
  simp only [isPlainChar, Bool.and_eq_true, decide_eq_true_eq]
  refine ⟨⟨⟨?_, ?_⟩, ?_⟩, ?_⟩ <;> rintro rfl <;> contradiction

theorem isPlainChar_of_mem_digits {n : Nat} {c : Char} (member : c ∈ decimalDigits n) :
    isPlainChar c = true :=
  isPlainChar_of_isDigit (Nat.isDigit_of_mem_toDigits (by decide) (by decide) member)

@[simp] theorem isPlain_nat (n : Nat) : IsPlain (toString n) := by
  intro c member
  rw [Nat.toString_eq_repr, Nat.toList_repr] at member
  exact isPlainChar_of_mem_digits member

@[simp] theorem isPlain_int (n : Int) : IsPlain (toString n) := by
  cases n with
  | ofNat n => exact isPlain_nat n
  | negSucc n => exact isPlain_append.mpr ⟨by decide, isPlain_nat (n + 1)⟩

namespace DecimalLayout

theorem isPlain_exponentText (x : Int) : IsPlain (exponentText x) := by
  have sign : IsPlain (if x < 0 then "e-" else "e+") := by split <;> decide
  simp only [exponentText, isPlain_append, isPlain_ofList]
  refine ⟨sign, ?_⟩
  split
  · intro c member
    rcases List.mem_cons.mp member with rfl | member
    · decide
    · exact isPlainChar_of_mem_digits member
  · exact fun c member => isPlainChar_of_mem_digits member

/-- Wherever the point falls, a decimal is written in digits, zeros, points and exponents. -/
theorem isPlain_write (layout : DecimalLayout) (d : Decimal) : IsPlain (layout.write d) := by
  have digits : ∀ c ∈ decimalDigits d.digits, isPlainChar c = true :=
    fun c member => isPlainChar_of_mem_digits member
  have zeros (count : Nat) : ∀ c ∈ List.replicate count '0', isPlainChar c = true := by
    intro c member
    obtain rfl := List.eq_of_mem_replicate member
    decide
  have some (count : Nat) : ∀ c ∈ (decimalDigits d.digits).take count, isPlainChar c = true :=
    fun c member => digits c (List.mem_of_mem_take member)
  have others (count : Nat) : ∀ c ∈ (decimalDigits d.digits).drop count, isPlainChar c = true :=
    fun c member => digits c (List.mem_of_mem_drop member)
  have point : IsPlain "." ∧ IsPlain ".0" ∧ IsPlain "0." ∧ IsPlain "" := by decide
  simp only [write]
  split
  · split
    · simp only [isPlain_append, isPlain_ofList, List.forall_mem_append]
      exact ⟨⟨digits, zeros _⟩, by split <;> simp only [point]⟩
    · split
      · simp only [isPlain_append, isPlain_ofList]
        exact ⟨⟨some _, point.1⟩, others _⟩
      · simp only [isPlain_append, isPlain_ofList, List.forall_mem_append]
        exact ⟨point.2.2.1, zeros _, digits⟩
  · simp only [isPlain_append, isPlain_ofList]
    refine ⟨⟨some 1, ?_⟩, isPlain_exponentText _⟩
    split
    · exact point.2.2.2
    · exact isPlain_append.mpr ⟨point.1, isPlain_ofList.mpr (others 1)⟩

end DecimalLayout

theorem Binary64.isPlain_text (x : Binary64) : IsPlain x.text := by
  cases x with
  | nan => decide
  | negZero => decide
  | infinite negative => cases negative <;> decide
  | finite value _ =>
    simp only [text, writeWith]
    split
    · decide
    · split
      · exact isPlain_append.mpr ⟨by decide, DecimalLayout.isPlain_write _ _⟩
      · exact DecimalLayout.isPlain_write _ _

@[simp] theorem Binary64.isPlain_plainText (x : Binary64) : IsPlain x.plainText := by
  rw [plainText]
  split
  · exact isPlain_int _
  · exact x.isPlain_text

theorem isPlain_fixedText (r : Rat) (places : Nat) (tie : TieRule) :
    IsPlain (fixedText r places tie) := by
  have sign : IsPlain (if r < 0 then "-" else "") := by split <;> decide
  simp only [fixedText, isPlain_append]
  refine ⟨⟨sign, isPlain_nat _⟩, ?_⟩
  split
  · decide
  · refine isPlain_append.mpr ⟨by decide, isPlain_ofList.mpr (List.forall_mem_append.mpr ⟨?_, ?_⟩)⟩
    · intro c member
      obtain rfl := List.eq_of_mem_replicate member
      decide
    · exact fun c member => isPlainChar_of_mem_digits member

theorem isPlain_placeText {r : Rat} {text : String} (placed : placeText r = .ok text) :
    IsPlain text := by
  unfold placeText at placed
  split at placed
  · contradiction
  · obtain rfl := Except.ok.inj placed
    rw [coordinateText]
    split
    · exact isPlain_int _
    · exact isPlain_fixedText _ _ _

/-! ## Colours -/

namespace Color

theorem isPlainChar_of_mem_hexByte {n : Nat} (octet : n ≤ 255) {c : Char} (member : c ∈ hexByte n) :
    isPlainChar c = true := by
  have digit : ∀ value < 16, isPlainChar (Text.hexCapital value) = true := by decide
  simp only [hexByte, List.mem_cons, List.not_mem_nil, or_false] at member
  rcases member with rfl | rfl <;> exact digit _ (by omega)

theorem channel_le {x : Binary64} {n : Nat} (read : channel x = .ok n) : n ≤ 255 := by
  rw [channel] at read
  cases rounded : roundHalfUp x with
  | error fault => simp [rounded, Except.map] at read
  | ok value =>
    simp only [rounded, Except.map, Except.ok.injEq] at read
    omega

theorem isPlain_literal {red green blue : Nat} (octets : red ≤ 255 ∧ green ≤ 255 ∧ blue ≤ 255)
    (alpha : Binary64) : IsPlain (literal red green blue alpha) := by
  simp only [literal, isPlain_append, isPlain_ofList, List.forall_mem_append]
  refine ⟨⟨⟨by decide, ⟨?_, ?_⟩, ?_⟩, by decide⟩, alpha.isPlain_plainText⟩
  · exact fun c member => isPlainChar_of_mem_hexByte octets.1 member
  · exact fun c member => isPlainChar_of_mem_hexByte octets.2.1 member
  · exact fun c member => isPlainChar_of_mem_hexByte octets.2.2 member

theorem Call.isPlain_resolve {call : Call} {text : String} (resolved : call.resolve = .ok text) :
    IsPlain text := by
  simp only [resolve] at resolved
  split at resolved
  · simp only [bind_eq_ok, pure_eq_ok] at resolved
    obtain ⟨red, hred, green, hgreen, blue, hblue, rfl⟩ := resolved
    exact isPlain_literal ⟨channel_le hred, channel_le hgreen, channel_le hblue⟩ _
  · obtain rfl := Except.ok.inj resolved
    decide

theorem toNat_of_isHexDigit {c : Char} (digit : Text.isHexDigit c = true) : c.toNat < 128 := by
  simp only [Text.isHexDigit, Text.hexValue?] at digit
  split at digit
  · next decimal =>
    have range := Text.toNat_of_isDigit decimal
    omega
  · split at digit
    · next small =>
      have below : c.toNat ≤ 102 := small.2
      omega
    · split at digit
      · next capital =>
        have below : c.toNat ≤ 70 := capital.2
        omega
      · contradiction

theorem isPlainChar_toUpper {c : Char} (digit : Text.isHexDigit c = true) :
    isPlainChar c.toUpper = true := by
  have small := toNat_of_isHexDigit digit
  revert digit
  exact Text.forall_ascii (p := fun c => Text.isHexDigit c = true → isPlainChar c.toUpper = true) (by decide) small

theorem isHexDigit_of_hexForm {s digits : List Char} (form : hexForm? s = some digits) :
    ∀ c ∈ digits, Text.isHexDigit c = true := by
  simp only [hexForm?, Option.ite_none_right_eq_some, Option.some.injEq] at form
  obtain ⟨⟨_, all⟩, rfl⟩ := form
  exact List.all_eq_true.mp all

/-- Whatever a colour is asked for by, the engine's name for it is plain. -/
theorem isPlain_resolveText {asked : Option String} {name : String}
    (resolved : resolveText asked = .ok name) : IsPlain name := by
  cases asked with
  | none =>
    obtain rfl := Except.ok.inj resolved
    decide
  | some s =>
    simp only [resolveText, resolve] at resolved
    split at resolved
    · exact Call.isPlain_resolve resolved
    · split at resolved
      · next digits form =>
        obtain rfl := Except.ok.inj resolved
        simp only [isPlain_append, isPlain_ofList, List.forall_mem_map]
        exact ⟨⟨by decide, fun c member => isPlainChar_toUpper (isHexDigit_of_hexForm form c member)⟩,
          by decide⟩
      · obtain rfl := Except.ok.inj resolved
        decide

end Color

end Montage
