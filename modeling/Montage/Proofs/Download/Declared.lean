import Montage.Proofs.Download.Stage
import Montage.Proofs.Number.Range
import Montage.Proofs.Numeral

/-! # Declared sizes

A response that declares too large a size is refused with the coded fault of downloads, whose message names the size.
Digits that are no number, and a size beyond every double, are refused with other faults.
-/

namespace Montage.Download

variable {store : Store} {response : Response}

/-- A size is declared in digits that cannot be read, or it is above the limit and cannot be told. -/
def IsUnsayable (store : Store) (response : Response) : Prop :=
  ∃ text, response.header? "content-length" = some text ∧ Text.isDigitRun text.toList = true ∧
    ((∃ c ∈ text.toList, Text.isDecimalDigit c = false) ∨ integerDigitLimit < text.toList.length ∨
      ∃ size, IsDecimal text.toList size ∧ store.limit < size ∧ overflowBound ≤ size)

theorem ofInt?_isError_iff {size : Nat} : (∃ fault, Binary64.ofInt? size = .error fault) ↔ overflowBound ≤ size := by
  have finite : (Binary64.ofInt size).isFinite = true ↔ ¬ overflowBound ≤ size := by
    have whole : ((size : Int) : Rat) = size := by norm_cast
    rw [Binary64.ofInt, Binary64.ofRat, Binary64.isFinite_round, whole, Nat.abs_cast, Nat.cast_lt, Nat.not_le]
  have number : Binary64.ofInt size ≠ .nan := Binary64.round_ne_nan
  unfold Binary64.ofInt?
  cases value : Binary64.ofInt size with
  | infinite negative =>
    rw [value] at finite
    apply iff_of_true ⟨_, rfl⟩
    by_contra below
    exact absurd (finite.mpr below) Bool.false_ne_true
  | nan => exact absurd value number
  | finite | negZero =>
    rw [value] at finite
    apply iff_of_false
    · rintro ⟨fault, beyond⟩
      cases beyond
    · exact finite.mp rfl

/-- A size cannot be told exactly if it is beyond every double. -/
theorem sizeText_isError_iff {size : Nat} : (∃ fault, sizeText size = .error fault) ↔ overflowBound ≤ size := by
  unfold sizeText
  split
  · next none =>
    have above := greatestDouble_add_one_lt
    apply iff_of_false
    · rintro ⟨fault, beyond⟩
      cases beyond
    · omega
  · rw [← ofInt?_isError_iff]
    constructor
    · rintro ⟨fault, refused⟩
      rcases bind_eq_error.mp refused with beyond | ⟨value, -, told⟩
      · exact ⟨fault, beyond⟩
      · cases told
    · rintro ⟨fault, beyond⟩
      exact ⟨fault, bind_eq_error.mpr (.inl beyond)⟩

/-- What the check of a declared size comes to: nothing, the coded fault of downloads, or another fault. -/
inductive Checks (store : Store) (response : Response) : Work Unit → Prop
  | fits (sayable : ¬ IsUnsayable store response) : Checks store response (.done ())
  | refused {fault : JobFault} (coded : IsDownloadFault fault) (sayable : ¬ IsUnsayable store response) :
      Checks store response (.failed fault)
  | strays {fault : JobFault} (other : ¬ IsDownloadFault fault) (unsayable : IsUnsayable store response) :
      Checks store response (.failed fault)

theorem ne_nil_of_isDigitRun {s : List Char} (run : Text.isDigitRun s = true) : s ≠ [] := by
  rintro rfl
  cases run

theorem checks_checkDeclared (store : Store) (response : Response) :
    Checks store response (checkDeclared store response) := by
  unfold checkDeclared declaredSize
  split
  · next text declared =>
    split
    · next run =>
      cases read : readInteger text.toList with
      | error fault =>
        refine .strays (not_isDownloadFault_plain .value fault.message) ⟨text, declared, run, ?_⟩
        by_contra readable
        obtain ⟨decimal, readable⟩ := not_or.mp readable
        obtain ⟨short, -⟩ := not_or.mp readable
        have digits : ∀ c ∈ text.toList, Text.isDecimalDigit c = true := by
          intro c member
          by_contra other
          exact decimal ⟨c, member, Bool.eq_false_iff.mpr other⟩
        have known := readInteger_eq_ok_iff.mpr ⟨⟨ne_nil_of_isDigitRun run, digits, rfl⟩, Nat.not_lt.mp short⟩
        cases read.symm.trans known
      | ok size =>
        obtain ⟨decimal, short⟩ := readInteger_eq_ok_iff.mp read
        have unsayable : IsUnsayable store response ↔ store.limit < size ∧ overflowBound ≤ size := by
          constructor
          · rintro ⟨found, same, -, ⟨c, member, other⟩ | long | ⟨number, value, large, beyond⟩⟩
            · obtain rfl := Option.some.inj (declared.symm.trans same)
              rw [decimal.decimal c member] at other
              cases other
            · obtain rfl := Option.some.inj (declared.symm.trans same)
              omega
            · obtain rfl := Option.some.inj (declared.symm.trans same)
              obtain rfl := decimal.value.symm.trans value.value
              exact ⟨large, beyond⟩
          · rintro ⟨large, beyond⟩
            exact ⟨text, declared, run, .inr (.inr ⟨size, decimal, large, beyond⟩)⟩
        change Checks store response (if store.limit < size then
          (Work.ofExcept RangeFault.toJob (sizeText size)).bind fun text =>
            fail ("Media too large: " ++ text ++ " exceeds " ++ store.limitText) else .done ())
        split
        · next large =>
          cases told : sizeText size with
          | error fault =>
            have beyond := sizeText_isError_iff.mp ⟨fault, told⟩
            refine .strays ?_ (unsayable.mpr ⟨large, beyond⟩)
            cases fault with
            | _ => exact not_isDownloadFault_plain _ _
          | ok text =>
            refine .refused ⟨_, rfl⟩ fun both => ?_
            obtain ⟨fault, refused⟩ := sizeText_isError_iff.mpr (unsayable.mp both).2
            cases told.symm.trans refused
        · next small => exact .fits fun both => small (unsayable.mp both).1
    · next other =>
      refine .fits ?_
      rintro ⟨found, same, run, -⟩
      obtain rfl := Option.some.inj (declared.symm.trans same)
      exact other run
  · next none =>
    refine .fits ?_
    rintro ⟨found, same, -⟩
    cases none.symm.trans same

theorem strays_of_isUnsayable (unsayable : IsUnsayable store response) :
    ∃ fault, checkDeclared store response = .failed fault ∧ ¬ IsDownloadFault fault := by
  have checks := checks_checkDeclared store response
  generalize checkDeclared store response = work at checks
  cases checks with
  | fits sayable => exact absurd unsayable sayable
  | refused _ sayable => exact absurd unsayable sayable
  | strays other _ => exact ⟨_, rfl, other⟩

end Montage.Download
