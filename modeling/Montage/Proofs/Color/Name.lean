import Montage.Proofs.Color.Reading
import Montage.Proofs.Graph.PlainText
import Montage.Proofs.Text.Blank

/-! # How colours are named

A colour is named by six capital hexadecimal digits and an opacity between zero and one. The first call in a text is
named by its channels and its opacity, each moved into its range; a text without a call by the hexadecimal form that it
is. Everything else is named opaque white. The one text without a name is that of a call with a channel that is rounded
to an infinity, since it is rounded before it is moved into its range.
-/

namespace Montage.Color

/-! ## Hexadecimal forms -/

/-- Six hexadecimal digits after an optional number sign, with blanks around them. -/
structure HexForm where
  before : List Char
  mark : List Char
  digits : List Char
  behind : List Char
  blank : ∀ c ∈ before ++ behind, Text.isBlank c = true
  marked : mark = [] ∨ mark = ['#']
  six : digits.length = 6
  hexadecimal : ∀ c ∈ digits, Text.isHexDigit c = true

/-- A hexadecimal form as it is written. -/
def HexForm.text (form : HexForm) : List Char := form.before ++ (form.mark ++ form.digits ++ form.behind)

variable {s digits : List Char} {c : Char} {n : Nat}

theorem isBlank_of_isHexDigit (digit : Text.isHexDigit c = true) : Text.isBlank c = false := by
  have small := toNat_of_isHexDigit digit
  revert digit
  exact Text.forall_ascii (p := fun c => Text.isHexDigit c = true → Text.isBlank c = false) (by decide) small

theorem hexForm?_append {mark : List Char} (marked : mark = [] ∨ mark = ['#']) (six : digits.length = 6)
    (hexadecimal : ∀ c ∈ digits, Text.isHexDigit c = true) : hexForm? (mark ++ digits) = some digits := by
  have all : digits.all Text.isHexDigit = true := List.all_eq_true.mpr hexadecimal
  unfold hexForm?
  dsimp only
  rcases marked with rfl | rfl
  · split
    · next rest whole =>
      obtain rfl : digits = '#' :: rest := whole
      exact absurd (hexadecimal '#' List.mem_cons_self) (by decide)
    · exact if_pos ⟨six, all⟩
  · exact if_pos ⟨six, all⟩

/-- The digits of a form are read off what trimming leaves of it. -/
theorem hexForm?_strip_eq_some_iff :
    hexForm? (Text.strip s) = some digits ↔ ∃ form : HexForm, form.text = s ∧ form.digits = digits := by
  constructor
  · intro found
    obtain ⟨before, behind, blank, whole⟩ := Text.exists_of_strip s
    have marked : ∃ mark, (mark = [] ∨ mark = ['#']) ∧ Text.strip s = mark ++ digits ∧ digits.length = 6 ∧
        ∀ c ∈ digits, Text.isHexDigit c = true := by
      unfold hexForm? at found
      dsimp only at found
      split at found
      · next rest tail =>
        rw [Option.ite_none_right_eq_some, Option.some.injEq] at found
        obtain ⟨⟨six, all⟩, rfl⟩ := found
        exact ⟨['#'], .inr rfl, tail, six, List.all_eq_true.mp all⟩
      · rw [Option.ite_none_right_eq_some, Option.some.injEq] at found
        obtain ⟨⟨six, all⟩, rfl⟩ := found
        exact ⟨[], .inl rfl, rfl, six, List.all_eq_true.mp all⟩
    obtain ⟨mark, sign, inner, six, hexadecimal⟩ := marked
    refine ⟨⟨before, mark, digits, behind, blank, sign, six, hexadecimal⟩, ?_, rfl⟩
    rw [HexForm.text, ← inner]
    exact whole.symm
  · rintro ⟨form, rfl, rfl⟩
    obtain ⟨front, back⟩ := List.forall_mem_append.mp form.blank
    have solid : ∀ c ∈ form.mark ++ form.digits, Text.isBlank c = false := by
      rw [List.forall_mem_append]
      refine ⟨?_, fun c member => isBlank_of_isHexDigit (form.hexadecimal c member)⟩
      rcases form.marked with none | sign
      · rw [none]
        nofun
      · rw [sign, List.forall_mem_singleton]
        rfl
    have inner : Text.strip form.text = form.mark ++ form.digits := Text.stripWhere_append front back solid
    rw [inner]
    exact hexForm?_append form.marked form.six form.hexadecimal

/-- No call stands in a hexadecimal form. -/
theorem HexForm.not_isIn (form : HexForm) (call : Call) : ¬IsIn call form.text := by
  apply not_isIn_of_not_mem
  rw [text, List.mem_append, List.mem_append, List.mem_append]
  rintro (before | (mark | digit) | behind)
  · exact absurd (form.blank _ (List.mem_append_left _ before)) (by decide)
  · rcases form.marked with none | sign
    · rw [none] at mark
      cases mark
    · rw [sign] at mark
      exact absurd mark (by decide)
  · exact absurd (form.hexadecimal _ digit) (by decide)
  · exact absurd (form.blank _ (List.mem_append_right _ behind)) (by decide)

/-- A hexadecimal form is named by its digits in capitals. -/
theorem HexForm.resolve_text (form : HexForm) :
    resolve form.text = .ok ("0x" ++ String.ofList (form.digits.map Char.toUpper) ++ "@1") := by
  rw [resolve, findCall?_eq_none_iff.mpr form.not_isIn, hexForm?_strip_eq_some_iff.mpr ⟨form, rfl, rfl⟩]

/-! ## Calls -/

/-- The numbers that the numerals of a call denote. -/
structure Values where
  red : Rat
  green : Rat
  blue : Rat
  alpha : Rat

/-- The numerals of a call denote numbers; an opacity that is left out is full. -/
structure Call.Denotes (call : Call) (values : Values) : Prop where
  red : IsFixed call.red values.red
  green : IsFixed call.green values.green
  blue : IsFixed call.blue values.blue
  alpha : ∀ numeral, call.alpha = some numeral → IsFixed numeral values.alpha
  omitted : call.alpha = none → values.alpha = 1

/-- None of the channels is rounded to an infinity. -/
structure Values.InRange (values : Values) : Prop where
  red : values.red < overflowBound
  green : values.green < overflowBound
  blue : values.blue < overflowBound

/-- The name of a colour of channels and an opacity that have been moved into their ranges. -/
def Values.IsNamed (values : Values) (name : String) : Prop :=
  ∃ red green blue, Clamps values.red red ∧ Clamps values.green green ∧ Clamps values.blue blue ∧
    name = literal red green blue (opacity (.ofRat values.alpha))

variable {call : Call} {values : Values}

theorem Call.Denotes.alpha_nonneg (denotes : call.Denotes values) : 0 ≤ values.alpha := by
  cases given : call.alpha with
  | some numeral => exact (denotes.alpha numeral given).nonneg
  | none =>
    rw [denotes.omitted given]
    norm_num

theorem Call.Denotes.alphaValue? (denotes : call.Denotes values) :
    call.alphaValue? = some (.ofRat values.alpha) := by
  rw [Call.alphaValue?]
  cases given : call.alpha with
  | some numeral => exact readNumeral?_of_isFixed (denotes.alpha numeral given)
  | none =>
    rw [denotes.omitted given]
    rfl

/-- The numerals of a call are read if they denote numbers, and not otherwise. -/
theorem Call.isReadable_iff_denotes (plain : ∀ numeral ∈ call.numerals, ∀ c ∈ numeral, isNumeralChar c = true) :
    call.IsReadable ↔ ∃ values, call.Denotes values := by
  rw [Call.isReadable_iff]
  constructor
  · rintro ⟨red, green, blue, alpha, hred, hgreen, hblue, halpha⟩
    obtain ⟨r, fixedRed, -⟩ := exists_isFixed_of_readNumeral? (plain call.red (by simp [numerals, channels])) hred
    obtain ⟨g, fixedGreen, -⟩ := exists_isFixed_of_readNumeral? (plain call.green (by simp [numerals, channels])) hgreen
    obtain ⟨b, fixedBlue, -⟩ := exists_isFixed_of_readNumeral? (plain call.blue (by simp [numerals, channels])) hblue
    cases given : call.alpha with
    | none => exact ⟨⟨r, g, b, 1⟩, fixedRed, fixedGreen, fixedBlue, by simp [given], fun _ => rfl⟩
    | some numeral =>
      rw [Call.alphaValue?, given] at halpha
      obtain ⟨a, fixedAlpha, -⟩ := exists_isFixed_of_readNumeral? (plain numeral (by simp [numerals, given])) halpha
      refine ⟨⟨r, g, b, a⟩, fixedRed, fixedGreen, fixedBlue, ?_, by simp [given]⟩
      intro other same
      obtain rfl := Option.some.inj (given.symm.trans same)
      exact fixedAlpha
  · rintro ⟨values, denotes⟩
    exact ⟨_, _, _, _, readNumeral?_of_isFixed denotes.red, readNumeral?_of_isFixed denotes.green,
      readNumeral?_of_isFixed denotes.blue, denotes.alphaValue?⟩

/-- A call whose numerals denote numbers is named after them if its channels are in range. -/
theorem Call.Denotes.resolve_hinges (denotes : call.Denotes values) :
    Hinges RangeFault.integerOfInfinity values.InRange values.IsNamed call.resolve := by
  have red := channel_ofRat denotes.red.nonneg
  have green := channel_ofRat denotes.green.nonneg
  have blue := channel_ofRat denotes.blue.nonneg
  rw [Call.resolve_of_readable (readNumeral?_of_isFixed denotes.red) (readNumeral?_of_isFixed denotes.green)
    (readNumeral?_of_isFixed denotes.blue) denotes.alphaValue?]
  refine (red.bind fun r clampedRed => green.bind fun g clampedGreen => blue.bind fun b clampedBlue =>
    .of_eq_ok rfl ⟨r, g, b, clampedRed, clampedGreen, clampedBlue, rfl⟩).of_iff ?_
  constructor
  · rintro ⟨red, green, blue, -⟩
    exact ⟨red, green, blue⟩
  · rintro ⟨red, green, blue⟩
    exact ⟨red, green, blue, trivial⟩

/-! ## Names -/

/-- Whether a character is a digit or one of the capitals that stand for the values above nine. -/
def isCapitalHex (c : Char) : Bool := c.isDigit || ('A' ≤ c && c ≤ 'F')

/-- The form of a name: six capital hexadecimal digits, and an opacity between zero and one as a plain number. -/
def IsName (name : String) : Prop :=
  ∃ (digits : List Char) (alpha : Binary64) (within : Rat), digits.length = 6 ∧ (∀ c ∈ digits, isCapitalHex c = true) ∧
    alpha.toRat? = some within ∧ 0 ≤ within ∧ within ≤ 1 ∧
      name = "0x" ++ String.ofList digits ++ "@" ++ alpha.plainText

theorem isCapitalHex_toUpper (digit : Text.isHexDigit c = true) : isCapitalHex c.toUpper = true := by
  have small := toNat_of_isHexDigit digit
  revert digit
  exact Text.forall_ascii (p := fun c => Text.isHexDigit c = true → isCapitalHex c.toUpper = true) (by decide) small

theorem isCapitalHex_of_mem_hexByte (octet : n ≤ 255) (member : c ∈ hexByte n) : isCapitalHex c = true := by
  have digit : ∀ value < 16, isCapitalHex (Text.hexCapital value) = true := by decide
  simp only [hexByte, List.mem_cons, List.not_mem_nil, or_false] at member
  rcases member with rfl | rfl
  · exact digit _ (by omega)
  · exact digit _ (by omega)

/-- A full opacity stands behind digits that come from no call. -/
theorem isName_of_digits (six : digits.length = 6) (capital : ∀ c ∈ digits, isCapitalHex c = true) :
    IsName ("0x" ++ String.ofList digits ++ "@1") := by
  have one : (1 : Binary64).toRat? = some 1 := by decide +kernel
  refine ⟨digits, 1, 1, six, capital, one, by norm_num, le_rfl, ?_⟩
  have written : (1 : Binary64).plainText = "1" := by decide +kernel
  have joined : "@1" = "@" ++ "1" := rfl
  rw [written, joined, ← String.append_assoc]

theorem isName_fallback : IsName fallback := by
  have white : ∀ c ∈ ['F', 'F', 'F', 'F', 'F', 'F'], isCapitalHex c = true := List.all_eq_true.mp rfl
  exact isName_of_digits rfl white

theorem HexForm.isName (form : HexForm) : IsName ("0x" ++ String.ofList (form.digits.map Char.toUpper) ++ "@1") := by
  apply isName_of_digits
  · rw [List.length_map]
    exact form.six
  · rw [List.forall_mem_map]
    exact fun c member => isCapitalHex_toUpper (form.hexadecimal c member)

theorem Values.IsNamed.isName {name : String} (nonneg : 0 ≤ values.alpha) (named : values.IsNamed name) :
    IsName name := by
  obtain ⟨red, green, blue, clampedRed, clampedGreen, clampedBlue, rfl⟩ := named
  obtain ⟨within, known, least, most, -⟩ := opacity_ofRat nonneg
  refine ⟨hexByte red ++ hexByte green ++ hexByte blue, _, within, rfl, ?_, known, least, most, rfl⟩
  simp only [List.forall_mem_append]
  exact ⟨⟨fun c => isCapitalHex_of_mem_hexByte clampedRed.most, fun c => isCapitalHex_of_mem_hexByte clampedGreen.most⟩,
    fun c => isCapitalHex_of_mem_hexByte clampedBlue.most⟩

/-- What the name of a colour is for a text. -/
structure Names (s : List Char) (name : String) : Prop where
  wellFormed : IsName name
  /-- The first call in a text is named by the numbers that its numerals denote. -/
  call : ∀ call values, IsFirst call s → call.Denotes values → values.IsNamed name
  /-- If one of them denotes no number, it is named opaque white, whatever else is in the text. -/
  unread : ∀ call, IsFirst call s → (¬∃ values, call.Denotes values) → name = fallback
  /-- A hexadecimal form is named by its digits in capitals. -/
  form : ∀ form : HexForm, form.text = s → name = "0x" ++ String.ofList (form.digits.map Char.toUpper) ++ "@1"
  /-- A text with neither a call nor a form is named opaque white. -/
  other : (∀ call, ¬IsIn call s) → (¬∃ form : HexForm, form.text = s) → name = fallback

theorem IsFirst.unique {other : Call} (one : IsFirst call s) (two : IsFirst other s) : call = other := by
  rw [← findCall?_eq_some_iff] at one two
  exact Option.some.inj (one.symm.trans two)

theorem resolve_of_isFirst (first : IsFirst call s) : resolve s = call.resolve := by
  rw [resolve, findCall?_eq_some_iff.mpr first]

/-- What is named after the first call of a text is its name: no form has a call. -/
theorem Names.of_isFirst {name : String} (first : IsFirst call s) (wellFormed : IsName name)
    (named : ∀ values, call.Denotes values → values.IsNamed name)
    (unread : (¬∃ values, call.Denotes values) → name = fallback) : Names s name := by
  have called : ∃ call, IsIn call s := exists_isFirst_iff.mp ⟨call, first⟩
  refine ⟨wellFormed, ?_, ?_, ?_, ?_⟩
  · intro other values begun denotes
    obtain rfl := begun.unique first
    exact named values denotes
  · intro other begun silent
    obtain rfl := begun.unique first
    exact unread silent
  · rintro form rfl
    obtain ⟨other, inside⟩ := called
    exact absurd inside (form.not_isIn other)
  · intro none
    exact absurd called (not_exists.mpr none)

/-- A text with a call has a name exactly if no channel of the first one is rounded to an infinity. -/
theorem resolve_hinges_of_isFirst (first : IsFirst call s) : Hinges RangeFault.integerOfInfinity
    (∀ values, call.Denotes values → values.InRange) (Names s) (resolve s) := by
  have plain := isNumeralChar_of_findCall? (findCall?_eq_some_iff.mpr first)
  rw [resolve_of_isFirst first]
  by_cases denoted : ∃ values, call.Denotes values
  · have hinges (values : Values) (denotes : call.Denotes values) := denotes.resolve_hinges
    obtain ⟨values, denotes⟩ := denoted
    cases result : call.resolve with
    | ok name =>
      rw [result] at hinges
      have form : IsName name := (hinges values denotes).2.isName denotes.alpha_nonneg
      refine ⟨fun others also => (hinges others also).1, ?_⟩
      exact .of_isFirst first form (fun others also => (hinges others also).2) fun none => absurd ⟨values, denotes⟩ none
    | error fault =>
      rw [result] at hinges
      obtain ⟨beyond, refused⟩ := hinges values denotes
      exact ⟨fun all => beyond (all values denotes), refused⟩
  · have unread : ¬call.IsReadable := mt (Call.isReadable_iff_denotes plain).mp denoted
    rw [Call.resolve_of_unreadable unread]
    refine ⟨fun values denotes => absurd ⟨values, denotes⟩ denoted, ?_⟩
    exact .of_isFirst first isName_fallback (fun values denotes => absurd ⟨values, denotes⟩ denoted) fun _ => rfl

/-- What is named after the form of a text without a call, or opaque white without one, is its name. -/
theorem Names.of_not_isIn {name : String} (uncalled : ∀ call, ¬IsIn call s) (wellFormed : IsName name)
    (formed : ∀ form : HexForm, form.text = s → name = "0x" ++ String.ofList (form.digits.map Char.toUpper) ++ "@1")
    (other : (¬∃ form : HexForm, form.text = s) → name = fallback) : Names s name := by
  have unfirst (call : Call) : ¬IsFirst call s := fun first =>
    absurd (exists_isFirst_iff.mp ⟨call, first⟩) (not_exists.mpr uncalled)
  constructor
  · exact wellFormed
  · exact fun call values first => absurd first (unfirst call)
  · exact fun call first => absurd first (unfirst call)
  · exact formed
  · exact fun _ => other

/-- A text without a call always has a name. -/
theorem names_of_not_isIn (uncalled : ∀ call, ¬IsIn call s) : ∃ name, resolve s = .ok name ∧ Names s name := by
  by_cases formed : ∃ form : HexForm, form.text = s
  · obtain ⟨form, rfl⟩ := formed
    refine ⟨_, form.resolve_text, .of_not_isIn uncalled form.isName ?_ fun none => absurd ⟨form, rfl⟩ none⟩
    -- A text is a form in one way only, as far as its digits go.
    intro other same
    have named := other.resolve_text
    rw [same, form.resolve_text] at named
    exact Except.ok.inj named
  · have unformed : hexForm? (Text.strip s) = none := by
      rw [Option.eq_none_iff_forall_ne_some]
      intro digits found
      obtain ⟨form, same, -⟩ := hexForm?_strip_eq_some_iff.mp found
      exact formed ⟨form, same⟩
    refine ⟨fallback, ?_, .of_not_isIn uncalled isName_fallback ?_ fun _ => rfl⟩
    · rw [resolve, findCall?_eq_none_iff.mpr uncalled, unformed]
    · exact fun form same => absurd ⟨form, same⟩ formed

/-- Every text, and the lack of one, has its name, unless the numerals of its first call denote numbers one of which is
a channel that is rounded to an infinity. Such a text is refused. -/
theorem resolveText_names (text : Option String) : Hinges RangeFault.integerOfInfinity
    (∀ call values, IsFirst call (text.getD "").toList → call.Denotes values → values.InRange)
    (Names (text.getD "").toList) (resolveText text) := by
  have same : resolveText text = resolve (text.getD "").toList := by
    cases text with
    | none => rfl
    | some text => rfl
  rw [same]
  by_cases called : ∃ call, IsFirst call (text.getD "").toList
  · obtain ⟨call, first⟩ := called
    apply (resolve_hinges_of_isFirst first).of_iff
    constructor
    · intro all other values begun
      obtain rfl := begun.unique first
      exact all values
    · exact fun all values => all call values first
  · have uncalled : ∀ call, ¬IsIn call (text.getD "").toList := by
      rw [← not_exists, ← exists_isFirst_iff]
      exact called
    obtain ⟨name, named, names⟩ := names_of_not_isIn uncalled
    rw [named]
    exact ⟨fun call values first => absurd ⟨call, first⟩ called, names⟩

/-- A red of so many nines that no double is near to it. -/
def nines : List Char := ['r', 'g', 'b', '('] ++ List.replicate 400 '9' ++ [',', '0', ',', '0', ')']

/-- A channel beyond every double is not moved down to the greatest octet, but refused. -/
theorem nines_refused : IsFirst ⟨List.replicate 400 '9', ['0'], ['0'], none⟩ nines ∧
    resolveText (some (String.ofList nines)) = .error .integerOfInfinity := by
  constructor
  · rw [← findCall?_eq_some_iff]
    decide +kernel
  · rw [resolveText, String.toList_ofList]
    decide +kernel

end Montage.Color
