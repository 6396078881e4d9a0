import Montage.Proofs.Color.Writing
import Montage.Proofs.Geometry

/-! # Which colours have a name

The numerals of a colour call are digits and points, so they are never read as no number, but a long one
may be read as an infinity. A colour is refused exactly if it is a call all of whose numerals can be
read and one of whose channels is infinite.
-/

namespace Montage

namespace Numeral

theorem isPlain_plainDigit {c : Char} (numeral : Color.isNumeralChar c = true) :
    IsPlain (plainDigit c) := by
  unfold plainDigit
  cases value : Text.digitValue? c with
  | some value =>
    refine .inr (isDigit_ofNat ?_)
    obtain ⟨first, found, rfl⟩ := Option.map_eq_some_iff.mp value
    have range := List.find?_some found
    simp only [Bool.and_eq_true, decide_eq_true_eq] at range
    omega
  | none =>
    refine .inl ?_
    simpa [Color.isNumeralChar, Text.isDecimalDigit, value] using numeral

theorem finiteValue_ne_nan (negative : Bool) (digits fraction : List Char) (exponent : Int) :
    finiteValue negative digits fraction exponent ≠ .nan := by
  unfold finiteValue
  dsimp only
  split
  · split <;> nofun
  · exact Binary64.round_ne_nan

/-- Only a text with letters is read as no number. -/
theorem readPlain_ne_nan {s : List Char} (plain : ∀ c ∈ s, IsPlain c) :
    readPlain s ≠ some .nan := by
  unfold readPlain
  dsimp only
  split
  · nofun
  · split
    · next word =>
      have letters : (splitSign s).2.map Char.toLower = ['n', 'a', 'n'] := by
        rw [← String.toList_ofList (l := (splitSign s).2.map Char.toLower), word]
        rfl
      have first : 'n' ∈ (splitSign s).2.map Char.toLower := by simp [letters]
      obtain ⟨c, member, lower⟩ := List.mem_map.mp first
      have character := plain c (mem_of_splitSign c member)
      rw [toLower_of_isPlain character] at lower
      subst lower
      exact absurd character (by simp [IsPlain, Char.isDigit])
    · intro nan
      simp only [Option.ite_none_left_eq_some, Option.map_eq_some_iff] at nan
      obtain ⟨-, exponent, -, value⟩ := nan
      exact finiteValue_ne_nan _ _ _ _ value

end Numeral

namespace Color

/-- The numerals of the channels of a call. -/
def Call.channels (call : Call) : List (List Char) := [call.red, call.green, call.blue]

/-- All numerals of a call. -/
def Call.numerals (call : Call) : List (List Char) := call.channels ++ call.alpha.toList

/-- The numerals of a call consist of digits and points. -/
theorem isNumeralChar_of_findCall? {s : List Char} {call : Call} (found : findCall? s = some call) :
    ∀ numeral ∈ call.numerals, ∀ c ∈ numeral, isNumeralChar c = true := by
  have first := findCall?_eq_some_iff.mp found
  clear found
  induction first with
  | here starts =>
    obtain ⟨w, after, -, rfl⟩ := starts
    intro numeral member
    rcases List.mem_append.mp member with channel | last
    · simp only [Call.channels, Writing.call, List.mem_cons, List.not_mem_nil, or_false] at channel
      rcases channel with rfl | rfl | rfl
      · exact w.red.plain
      · exact w.green.plain
      · exact w.blue.plain
    · obtain ⟨alpha, -, rfl⟩ := Option.map_eq_some_iff.mp (Option.mem_toList.mp last)
      exact alpha.plain
  | later _ _ ih => exact ih

/-- A text that starts with a call has it for its first one. -/
theorem findCall?_of_callAt? {s : List Char} {call : Call} (found : callAt? s = some call) :
    findCall? s = some call := by
  cases s with
  | nil => contradiction
  | cons c rest => rw [findCall?, found]

theorem readNumeral?_ne_nan {numeral : List Char}
    (plain : ∀ c ∈ numeral, isNumeralChar c = true) : readNumeral? numeral ≠ some .nan := by
  intro nan
  obtain ⟨kept, dropped, read⟩ := Option.bind_eq_some_iff.mp nan
  refine Numeral.readPlain_ne_nan (fun c member => ?_) read
  obtain ⟨written, present, rfl⟩ := List.mem_map.mp (Numeral.mem_of_dropUnderscores dropped c member)
  exact Numeral.isPlain_plainDigit (plain written present)

/-- A call stands for a colour if all its numerals can be read, and for opaque white otherwise. -/
def Call.IsReadable (call : Call) : Prop :=
  ∀ numeral ∈ call.numerals, (readNumeral? numeral).isSome = true

/-- No channel of a call that stands for a colour is infinite. -/
def Call.FitsRange (call : Call) : Prop :=
  call.IsReadable → ∀ numeral ∈ call.channels, ∀ x, readNumeral? numeral = some x →
    x.isFinite = true

/-- The colour that a text asks for has no infinite channel. -/
def FitsRange (text : String) : Prop :=
  ∀ call, findCall? text.toList = some call → call.FitsRange

theorem channel_hinges {x : Binary64} (number : x ≠ .nan) :
    Hinges RangeFault.integerOfInfinity (x.isFinite = true) (fun _ => True) (channel x) := by
  have rounded := roundHalfUp_hinges number
  unfold channel
  cases result : roundHalfUp x with
  | ok n => rw [result] at rounded; exact ⟨rounded.1, trivial⟩
  | error fault => rw [result] at rounded; exact rounded

/-- The value of the fourth numeral of a call, which may be left out. -/
def Call.alphaValue? (call : Call) : Option Binary64 :=
  match call.alpha with
  | some numeral => readNumeral? numeral
  | none => some 1

/-- A call can be read exactly if its three channels and its opacity have values. -/
theorem Call.isReadable_iff {call : Call} :
    call.IsReadable ↔ ∃ red green blue alpha, readNumeral? call.red = some red ∧
      readNumeral? call.green = some green ∧ readNumeral? call.blue = some blue ∧
      call.alphaValue? = some alpha := by
  obtain ⟨red, green, blue, alpha⟩ := call
  cases alpha <;>
    simp [Call.IsReadable, Call.numerals, Call.channels, Call.alphaValue?, Option.isSome_iff_exists]

/-- A call that cannot be read stands for opaque white. -/
theorem Call.resolve_of_unreadable {call : Call} (unreadable : ¬call.IsReadable) :
    call.resolve = .ok fallback := by
  rw [Call.isReadable_iff] at unreadable
  rcases call with ⟨red, green, blue, _ | alpha⟩ <;>
  · unfold Call.resolve
    dsimp only
    split
    · next hred hgreen hblue halpha => exact absurd ⟨_, _, _, _, hred, hgreen, hblue, halpha⟩ unreadable
    · rfl

theorem Call.resolve_of_readable {call : Call} {red green blue alpha : Binary64}
    (hred : readNumeral? call.red = some red) (hgreen : readNumeral? call.green = some green)
    (hblue : readNumeral? call.blue = some blue) (halpha : call.alphaValue? = some alpha) :
    call.resolve = (do
      let red ← channel red
      let green ← channel green
      let blue ← channel blue
      return literal red green blue (opacity alpha)) := by
  rcases call with ⟨_, _, _, _ | _⟩ <;>
    simp only [Call.alphaValue?] at hred hgreen hblue halpha <;>
    simp only [Call.resolve, hred, hgreen, hblue, halpha]

/-- The colour of a call has a name exactly if it is in range. -/
theorem call_hinges {call : Call}
    (plain : ∀ numeral ∈ call.numerals, ∀ c ∈ numeral, isNumeralChar c = true) :
    Hinges RangeFault.integerOfInfinity call.FitsRange (fun _ => True) call.resolve := by
  by_cases readable : call.IsReadable
  · obtain ⟨red, green, blue, alpha, hred, hgreen, hblue, halpha⟩ := Call.isReadable_iff.mp readable
    have number {numeral : List Char} {x : Binary64} (channel : numeral ∈ call.channels)
        (value : readNumeral? numeral = some x) : x ≠ .nan := by
      rintro rfl
      exact readNumeral?_ne_nan (plain numeral (List.mem_append_left _ channel)) value
    have first := number (by simp [Call.channels]) hred
    have second := number (by simp [Call.channels]) hgreen
    have third := number (by simp [Call.channels]) hblue
    rw [Call.resolve_of_readable hred hgreen hblue halpha]
    refine ((channel_hinges first).bind fun _ _ => (channel_hinges second).bind fun _ _ =>
      (channel_hinges third).bind fun _ _ => .of_eq_ok rfl trivial).of_iff ?_
    simp [Call.FitsRange, readable, Call.channels, hred, hgreen, hblue]
  · exact (Hinges.of_eq_ok (Call.resolve_of_unreadable readable) trivial).of_iff
      (by simp [Call.FitsRange, readable])

/-- The background of a scene that asks for no other one is in range. -/
theorem fitsRange_black : FitsRange "#000000" := by
  intro call found
  have none : findCall? "#000000".toList = none := by decide +kernel
  rw [none] at found
  contradiction

/-- A colour has a name exactly if it is in range. -/
theorem resolve_hinges (text : String) :
    Hinges RangeFault.integerOfInfinity (FitsRange text) (fun _ => True)
      (resolve text.toList) := by
  unfold resolve
  cases found : findCall? text.toList with
  | some call =>
    exact (call_hinges (isNumeralChar_of_findCall? found)).of_iff (by simp [FitsRange, found])
  | none =>
    have fits : FitsRange text := fun call some => by simp [found] at some
    dsimp only
    split <;> exact ⟨fits, trivial⟩

end Color

end Montage
