import Montage.Graph.Program
import Montage.Proofs.Numeral

/-! # Streams of the engine's inputs

The selector of an input's video stream is the number of the input, a colon and a letter. It is read
back as that number. A pad whose name starts with a letter is never taken for a stream.
-/

namespace Montage.Graph

/-- The selector of the video stream of an input. -/
def videoStream (input : Nat) : String := s!"{input}:v"

theorem videoStream_toList (input : Nat) :
    (videoStream input).toList = Nat.toDigits 10 input ++ [':', 'v'] := by
  simp only [videoStream, String.toList_append, Nat.toString_eq_repr, Nat.toList_repr]
  rfl

private theorem isDigit_ne_colon {c : Char} (digit : c.isDigit = true) : (c != ':') = true := by
  rw [bne_iff_ne]
  rintro rfl
  contradiction

/-- Digits before the first colon of a selector are its number. -/
theorem splitSelector_of_digits {pad : String} {digits rest : List Char}
    (form : pad.toList = digits ++ ':' :: rest) (plain : ∀ c ∈ digits, c.isDigit = true) :
    splitSelector pad = (digits, rest) := by
  have head : (digits ++ ':' :: rest).takeWhile (· != ':') = digits := by
    rw [List.takeWhile_append_of_pos fun c member => isDigit_ne_colon (plain c member)]
    simp
  simp only [splitSelector, form, head, List.drop_left, List.drop_succ_cons, List.drop_zero]

/-- Digits, a colon and a letter for video are a selector. -/
theorem isSelector_of_digits {pad : String} {digits : List Char}
    (form : pad.toList = digits ++ [':', 'v']) (nonempty : digits ≠ [])
    (plain : ∀ c ∈ digits, c.isDigit = true) : isSelector pad = true := by
  have run : digits.all Text.isDigitForm = true :=
    List.all_eq_true.mpr fun c member => Text.isDigitForm_of_isDigit (plain c member)
  simp [isSelector, splitSelector_of_digits form plain, Text.isDigitRun, run, nonempty]

private theorem isDigit_of_mem {n : Nat} : ∀ c ∈ Nat.toDigits 10 n, c.isDigit = true :=
  fun _ member => Nat.isDigit_of_mem_toDigits (by decide) (by decide) member

theorem splitSelector_videoStream (input : Nat) :
    splitSelector (videoStream input) = (Nat.toDigits 10 input, ['v']) :=
  splitSelector_of_digits (videoStream_toList input) isDigit_of_mem

theorem isSelector_videoStream (input : Nat) : isSelector (videoStream input) = true :=
  isSelector_of_digits (videoStream_toList input) Nat.toDigits_ne_nil isDigit_of_mem

/-- The number of an input is read back from its selector, unless it is too long for an integer. -/
theorem readInteger_videoStream (input : Nat) :
    readInteger (splitSelector (videoStream input)).1 =
      if integerDigitLimit < (Nat.toDigits 10 input).length then
        .error (.tooLong (Nat.toDigits 10 input).length)
      else .ok input := by
  rw [splitSelector_videoStream, readInteger_toDigits]

theorem videoStream_injective : Function.Injective videoStream := by
  intro a b same
  have digits : Nat.toDigits 10 a = Nat.toDigits 10 b := by
    simpa [splitSelector_videoStream] using congrArg (fun pad => (splitSelector pad).1) same
  exact toDigits_injective digits

/-- A name that starts neither with a digit in any form nor with a colon is no selector. -/
theorem isSelector_of_head {pad : String} {c : Char} {rest : List Char}
    (starts : pad.toList = c :: rest) (colon : c ≠ ':') (plain : Text.isDigitForm c = false) :
    isSelector pad = false := by
  simp [isSelector, splitSelector, starts, Text.isDigitRun, colon, plain]

end Montage.Graph
