import Montage.Color
import Montage.Proofs.Numeral
import Montage.Proofs.Text.Letter

/-! # How calls are written

A call is a word in either case and a parenthesis with three or four numerals between commas. Blanks may stand before
the parenthesis and around every numeral. A text asks for the colour of the first call in it: what is read at a place
is a call exactly if one is written there, and what is found is the first one of them.
-/

namespace Montage

namespace Text

variable {c : Char}

/-- A word without an `i` is found where its letters stand in either case. -/
theorem afterWord?_iff_toLower {word s rest : List Char} (dotless : 'i' ∉ word) :
    afterWord? word s = some rest ↔ ∃ form, form.map Char.toLower = word ∧ s = form ++ rest := by
  constructor
  · intro found
    obtain ⟨form, rfl, forms⟩ := afterWord?_eq_some_iff.mp found
    refine ⟨form, ?_, rfl⟩
    clear found
    induction forms with
    | nil => rfl
    | cons first _ ih =>
      rw [List.mem_cons, not_or] at dotless
      rw [List.map_cons, (isFormOf_iff (Ne.symm dotless.1)).mp first, ih dotless.2]
  · rintro ⟨form, written, rfl⟩
    exact afterWord?_of_toLower written rest

theorem eq_of_toLower_r (lower : c.toLower = 'r') : c = 'r' ∨ c = 'R' := by
  have small := toNat_of_toLower (by rw [lower]; decide)
  revert lower
  exact forall_ascii (p := fun c => c.toLower = 'r' → c = 'r' ∨ c = 'R') (by decide) small

theorem isBlank_of_isFormOf_a (form : isFormOf 'a' c = true) : isBlank c = false := by
  have lower := (isFormOf_iff (by decide)).mp form
  have small := toNat_of_toLower (by rw [lower]; decide)
  revert lower
  exact forall_ascii (p := fun c => c.toLower = 'a' → isBlank c = false) (by decide) small

end Text

namespace Color

/-- A numeral with blanks around it. -/
structure Argument where
  before : List Char
  numeral : List Char
  behind : List Char
  blank : ∀ c ∈ before ++ behind, Text.isBlank c = true
  filled : numeral ≠ []
  plain : ∀ c ∈ numeral, isNumeralChar c = true

/-- A numeral as it is written. -/
def Argument.text (a : Argument) : List Char := a.before ++ (a.numeral ++ a.behind)

/-- A call with all that is written of it. -/
structure Writing where
  word : List Char
  gap : List Char
  red : Argument
  green : Argument
  blue : Argument
  alpha : Option Argument
  spelled : word.map Char.toLower = ['r', 'g', 'b'] ∨ word.map Char.toLower = ['r', 'g', 'b', 'a']
  blank : ∀ c ∈ gap, Text.isBlank c = true

/-- What is written behind the third numeral. -/
def ending : Option Argument → List Char
  | none => [')']
  | some alpha => ',' :: (alpha.text ++ [')'])

/-- A call as it is written. -/
def Writing.text (w : Writing) : List Char :=
  w.word ++ (w.gap ++ '(' :: (w.red.text ++ ',' :: (w.green.text ++ ',' :: (w.blue.text ++ ending w.alpha))))

/-- The numerals of a call that is written. -/
def Writing.call (w : Writing) : Call :=
  ⟨w.red.numeral, w.green.numeral, w.blue.numeral, w.alpha.map Argument.numeral⟩

/-- A call begins with its first letter. -/
theorem Writing.text_eq_cons (w : Writing) : ∃ c rest, w.text = c :: rest ∧ (c = 'r' ∨ c = 'R') := by
  have begun : ∃ c word, w.word = c :: word ∧ c.toLower = 'r' := by
    rcases w.spelled with three | four
    · obtain ⟨c, word, split, first, -⟩ := List.map_eq_cons_iff.mp three
      exact ⟨c, word, split, first⟩
    · obtain ⟨c, word, split, first, -⟩ := List.map_eq_cons_iff.mp four
      exact ⟨c, word, split, first⟩
  obtain ⟨c, word, split, first⟩ := begun
  rw [Writing.text, split]
  exact ⟨c, _, rfl, Text.eq_of_toLower_r first⟩

/-- A text starts with a call. -/
def StartsWith (call : Call) (s : List Char) : Prop :=
  ∃ (w : Writing) (after : List Char), s = w.text ++ after ∧ w.call = call

/-- The first call in a text: none starts before it. -/
inductive IsFirst (call : Call) : List Char → Prop
  | here {s : List Char} (starts : StartsWith call s) : IsFirst call s
  | later {c : Char} {s : List Char} (none : ∀ other, ¬StartsWith other (c :: s)) (next : IsFirst call s) :
      IsFirst call (c :: s)

/-- A call stands somewhere in a text. -/
def IsIn (call : Call) (s : List Char) : Prop := ∃ rest, rest <:+ s ∧ StartsWith call rest

variable {s rest gap numeral : List Char} {c : Char} {call : Call}

/-! ## The pieces of a call -/

theorem isBlank_of_isNumeralChar (numeral : isNumeralChar c = true) : Text.isBlank c = false := by
  rw [isNumeralChar, Bool.or_eq_true, decide_eq_true_eq] at numeral
  rcases numeral with rfl | digit
  · rfl
  · exact Text.isBlank_of_isDecimalDigit digit

theorem afterBlanks?_eq_some_iff {mark : Char} (solid : Text.isBlank mark = false) : afterBlanks? mark s = some rest ↔
    ∃ gap, (∀ c ∈ gap, Text.isBlank c = true) ∧ s = gap ++ mark :: rest := by
  unfold afterBlanks?
  constructor
  · intro found
    have whole := List.takeWhile_append_dropWhile (p := Text.isBlank) (l := s)
    split at found
    · next c later tail =>
      rw [Option.ite_none_right_eq_some, Option.some.injEq] at found
      obtain ⟨rfl, rfl⟩ := found
      refine ⟨s.takeWhile Text.isBlank, fun c member => List.mem_takeWhile_imp member, ?_⟩
      rw [← tail]
      exact whole.symm
    · cases found
  · rintro ⟨gap, blank, rfl⟩
    rw [Text.dropBlank_append blank (Text.stopsAt_cons.mpr solid)]
    exact if_pos rfl

theorem numeralRun?_eq_some_iff : numeralRun? s = some (numeral, rest) ↔
    numeral ≠ [] ∧ (∀ c ∈ numeral, isNumeralChar c = true) ∧ Text.StopsAt isNumeralChar rest ∧ s = numeral ++ rest := by
  unfold numeralRun?
  constructor
  · intro found
    have whole := List.takeWhile_append_dropWhile (p := isNumeralChar) (l := s)
    split at found
    · cases found
    · next filled =>
      obtain ⟨rfl, rfl⟩ := Prod.mk.inj (Option.some.inj found)
      refine ⟨filled, fun c member => List.mem_takeWhile_imp member, ?_, whole.symm⟩
      intro c first
      have stopped := List.head?_dropWhile_not isNumeralChar s
      rw [Option.mem_def.mp first] at stopped
      exact stopped
  · rintro ⟨filled, plain, stops, rfl⟩
    rw [Text.takeWhile_append plain stops, Text.dropWhile_append plain stops]
    split
    · contradiction
    · rfl

theorem argument?_eq_some_iff : argument? s = some (numeral, rest) ↔
    numeral ≠ [] ∧ (∀ c ∈ numeral, isNumeralChar c = true) ∧ Text.StopsAt isNumeralChar rest ∧
      ∃ gap, (∀ c ∈ gap, Text.isBlank c = true) ∧ s = gap ++ (numeral ++ rest) := by
  rw [argument?, numeralRun?_eq_some_iff]
  refine and_congr_right fun filled => and_congr_right fun plain => and_congr_right fun _ => ?_
  constructor
  · intro tail
    refine ⟨s.takeWhile Text.isBlank, fun c member => List.mem_takeWhile_imp member, ?_⟩
    rw [← tail]
    exact List.takeWhile_append_dropWhile.symm
  · rintro ⟨gap, blank, rfl⟩
    apply Text.dropBlank_append blank
    intro c first
    rw [List.head?_append_of_ne_nil _ filled] at first
    exact isBlank_of_isNumeralChar (plain c (List.mem_of_mem_head? first))

theorem stopsAt_gap {mark : Char} (blank : ∀ c ∈ gap, Text.isBlank c = true) (other : isNumeralChar mark = false) :
    Text.StopsAt isNumeralChar (gap ++ mark :: rest) := by
  cases gap with
  | nil => exact Text.stopsAt_cons.mpr other
  | cons c gap =>
    apply Text.stopsAt_cons.mpr
    rw [Bool.eq_false_iff]
    intro numeral
    exact Bool.false_ne_true ((isBlank_of_isNumeralChar numeral).symm.trans (blank c List.mem_cons_self))

/-- A numeral in front of a sign that is neither blank nor part of a numeral, with the blanks around it. -/
theorem argument_iff (mark : Char) (solid : Text.isBlank mark = false) (other : isNumeralChar mark = false) :
    (∃ later, argument? s = some (numeral, later) ∧ afterBlanks? mark later = some rest) ↔
      ∃ a : Argument, a.numeral = numeral ∧ s = a.text ++ mark :: rest := by
  constructor
  · rintro ⟨later, read, marked⟩
    obtain ⟨filled, plain, -, before, front, rfl⟩ := argument?_eq_some_iff.mp read
    obtain ⟨behind, back, rfl⟩ := (afterBlanks?_eq_some_iff solid).mp marked
    refine ⟨⟨before, numeral, behind, List.forall_mem_append.mpr ⟨front, back⟩, filled, plain⟩, rfl, ?_⟩
    simp [Argument.text]
  · rintro ⟨a, rfl, rfl⟩
    obtain ⟨front, back⟩ := List.forall_mem_append.mp a.blank
    have whole : a.text ++ mark :: rest = a.before ++ (a.numeral ++ (a.behind ++ mark :: rest)) := by
      simp [Argument.text]
    refine ⟨a.behind ++ mark :: rest, ?_, (afterBlanks?_eq_some_iff solid).mpr ⟨a.behind, back, rfl⟩⟩
    exact argument?_eq_some_iff.mpr ⟨a.filled, a.plain, stopsAt_gap back other, a.before, front, whole⟩

/-- The fourth numeral of a call is read up to the closing parenthesis. -/
theorem alphaAndClose?_eq_some_iff : alphaAndClose? s = some numeral ↔
    ∃ (a : Argument) (after : List Char), a.numeral = numeral ∧ afterBlanks? ',' s = some (a.text ++ ')' :: after) := by
  simp only [alphaAndClose?, Option.bind_eq_bind, Option.bind_eq_some_iff, Prod.exists, Option.pure_def,
    Option.some.injEq]
  constructor
  · rintro ⟨rest, comma, alpha, later, read, after, close, rfl⟩
    obtain ⟨a, same, rfl⟩ := (argument_iff ')' rfl rfl).mp ⟨later, read, close⟩
    exact ⟨a, after, same, comma⟩
  · rintro ⟨a, after, rfl, comma⟩
    obtain ⟨later, read, close⟩ := (argument_iff ')' rfl rfl).mpr ⟨a, rfl, rfl⟩
    exact ⟨_, comma, a.numeral, later, read, after, close, rfl⟩

/-- The word of a call and its opening parenthesis. A blank or a parenthesis is not taken for the fourth letter. -/
theorem opening_iff :
    (∃ later, Text.afterWord? ['r', 'g', 'b'] s = some later ∧
      afterBlanks? '(' ((Text.afterWord? ['a'] later).getD later) = some rest) ↔
    ∃ word gap, (word.map Char.toLower = ['r', 'g', 'b'] ∨ word.map Char.toLower = ['r', 'g', 'b', 'a']) ∧
      (∀ c ∈ gap, Text.isBlank c = true) ∧ s = word ++ (gap ++ '(' :: rest) := by
  constructor
  · rintro ⟨later, begun, opened⟩
    obtain ⟨word, spelled, rfl⟩ := (Text.afterWord?_iff_toLower (by decide)).mp begun
    cases fourth : Text.afterWord? ['a'] later with
    | none =>
      rw [fourth, Option.getD_none] at opened
      obtain ⟨gap, blank, rfl⟩ := (afterBlanks?_eq_some_iff rfl).mp opened
      exact ⟨word, gap, .inl spelled, blank, rfl⟩
    | some behind =>
      rw [fourth, Option.getD_some] at opened
      obtain ⟨gap, blank, rfl⟩ := (afterBlanks?_eq_some_iff rfl).mp opened
      obtain ⟨letter, small, rfl⟩ := (Text.afterWord?_iff_toLower (by decide)).mp fourth
      refine ⟨word ++ letter, gap, .inr ?_, blank, (List.append_assoc _ _ _).symm⟩
      rw [List.map_append, spelled, small]
      rfl
  · rintro ⟨word, gap, spelled, blank, rfl⟩
    have opened : afterBlanks? '(' (gap ++ '(' :: rest) = some rest :=
      (afterBlanks?_eq_some_iff rfl).mpr ⟨gap, blank, rfl⟩
    rcases spelled with three | four
    · refine ⟨gap ++ '(' :: rest, Text.afterWord?_of_toLower three _, ?_⟩
      have other : Text.afterWord? ['a'] (gap ++ '(' :: rest) = none := by
        cases gap with
        | nil => exact if_neg (by decide)
        | cons c gap =>
          apply if_neg
          intro form
          exact Bool.false_ne_true ((Text.isBlank_of_isFormOf_a form).symm.trans (blank c List.mem_cons_self))
      rw [other]
      exact opened
    · obtain ⟨front, letter, rfl, three, small⟩ := List.map_eq_append_iff.mp
        (show word.map Char.toLower = ['r', 'g', 'b'] ++ ['a'] from four)
      rw [List.append_assoc]
      refine ⟨_, Text.afterWord?_of_toLower three _, ?_⟩
      rw [Text.afterWord?_of_toLower small]
      exact opened

/-- The three numerals of a call up to the third one. -/
theorem channels_iff {red green : List Char} :
    (∃ first second third, argument? s = some (red, first) ∧ afterBlanks? ',' first = some second ∧
      argument? second = some (green, third) ∧ afterBlanks? ',' third = some rest) ↔
      ∃ a b : Argument, a.numeral = red ∧ b.numeral = green ∧ s = a.text ++ ',' :: (b.text ++ ',' :: rest) := by
  constructor
  · rintro ⟨first, second, third, hred, one, hgreen, two⟩
    obtain ⟨a, sameRed, rfl⟩ := (argument_iff ',' rfl rfl).mp ⟨first, hred, one⟩
    obtain ⟨b, sameGreen, rfl⟩ := (argument_iff ',' rfl rfl).mp ⟨third, hgreen, two⟩
    exact ⟨a, b, sameRed, sameGreen, rfl⟩
  · rintro ⟨a, b, rfl, rfl, rfl⟩
    obtain ⟨first, hred, one⟩ := (argument_iff ',' rfl rfl).mpr ⟨a, rfl, rfl⟩
    obtain ⟨third, hgreen, two⟩ := (argument_iff ',' rfl rfl).mpr ⟨b, rfl, rfl⟩
    exact ⟨first, _, third, hred, one, hgreen, two⟩

/-- What is read behind the third numeral of a call. -/
inductive Closes (s : List Char) : Option (List Char) → Prop
  | four {alpha : List Char} (close : alphaAndClose? s = some alpha) : Closes s (some alpha)
  | three {after : List Char} (apart : alphaAndClose? s = none) (close : afterBlanks? ')' s = some after) :
      Closes s none

theorem eq_of_afterBlanks? {mark other : Char} {behind : List Char} (one : afterBlanks? mark s = some rest)
    (two : afterBlanks? other s = some behind) : mark = other := by
  unfold afterBlanks? at one two
  split at one
  · next c later tail =>
    rw [tail] at two
    rw [Option.ite_none_right_eq_some] at one two
    exact one.1.symm.trans two.1
  · cases one

/-- The third numeral of a call, and the fourth one if it has one. -/
theorem closing_iff {blue : List Char} {alpha : Option (List Char)} :
    (∃ later, argument? s = some (blue, later) ∧ Closes later alpha) ↔
      ∃ (a : Argument) (last : Option Argument) (after : List Char), a.numeral = blue ∧
        last.map Argument.numeral = alpha ∧ s = a.text ++ (ending last ++ after) := by
  constructor
  · rintro ⟨later, read, closes⟩
    cases closes with
    | four close =>
      obtain ⟨d, after, rfl, comma⟩ := alphaAndClose?_eq_some_iff.mp close
      obtain ⟨a, same, rfl⟩ := (argument_iff ',' rfl rfl).mp ⟨later, read, comma⟩
      refine ⟨a, some d, after, same, rfl, ?_⟩
      simp [ending]
    | @three after apart close =>
      obtain ⟨a, same, rfl⟩ := (argument_iff ')' rfl rfl).mp ⟨later, read, close⟩
      exact ⟨a, none, after, same, rfl, rfl⟩
  · rintro ⟨a, last, after, rfl, rfl, rfl⟩
    cases last with
    | none =>
      obtain ⟨later, read, close⟩ := (argument_iff ')' rfl rfl).mpr ⟨a, rfl, rfl⟩
      refine ⟨later, read, .three ?_ close⟩
      -- Behind the blanks there is the parenthesis, and not the comma of a fourth numeral.
      rw [Option.eq_none_iff_forall_ne_some]
      intro alpha fourth
      obtain ⟨_, _, _, comma⟩ := alphaAndClose?_eq_some_iff.mp fourth
      exact absurd (eq_of_afterBlanks? close comma) (by decide)
    | some d =>
      have whole : ending (some d) ++ after = ',' :: (d.text ++ ')' :: after) := by simp [ending]
      rw [whole]
      obtain ⟨later, read, comma⟩ := (argument_iff ',' rfl rfl).mpr ⟨a, rfl, rfl⟩
      exact ⟨later, read, .four (alphaAndClose?_eq_some_iff.mpr ⟨d, after, rfl, comma⟩)⟩

/-- A call is read where one is written. -/
theorem callAt?_eq_some_iff : callAt? s = some call ↔ StartsWith call s := by
  simp only [callAt?, Option.bind_eq_bind, Option.bind_eq_some_iff, Prod.exists, Option.pure_def]
  constructor
  · rintro ⟨begun, hbegun, opened, hopened, red, first, hred, second, one, green, third, hgreen, fourth, two, blue,
      later, hblue, found⟩
    have closes : Closes later call.alpha ∧ call = ⟨red, green, blue, call.alpha⟩ := by
      split at found
      · next alpha close =>
        obtain rfl := Option.some.inj found
        exact ⟨.four close, rfl⟩
      · next apart =>
        obtain ⟨after, close, found⟩ := Option.bind_eq_some_iff.mp found
        obtain rfl := Option.some.inj found
        exact ⟨.three apart close, rfl⟩
    obtain ⟨word, gap, spelled, blank, rfl⟩ := opening_iff.mp ⟨begun, hbegun, hopened⟩
    obtain ⟨a, b, rfl, rfl, rfl⟩ := channels_iff.mp ⟨first, second, third, hred, one, hgreen, two⟩
    obtain ⟨c, d, after, rfl, last, rfl⟩ := closing_iff.mp ⟨later, hblue, closes.1⟩
    refine ⟨⟨word, gap, a, b, c, d, spelled, blank⟩, after, ?_, ?_⟩
    · simp [Writing.text]
    · rw [closes.2, ← last]
      rfl
  · rintro ⟨w, after, rfl, rfl⟩
    have whole : w.text ++ after = w.word ++ (w.gap ++ '(' :: (w.red.text ++ ',' :: (w.green.text ++ ',' ::
        (w.blue.text ++ (ending w.alpha ++ after))))) := by
      simp [Writing.text]
    rw [whole]
    obtain ⟨begun, hbegun, hopened⟩ := opening_iff.mpr ⟨w.word, w.gap, w.spelled, w.blank, rfl⟩
    obtain ⟨first, second, third, hred, one, hgreen, two⟩ := channels_iff.mpr ⟨w.red, w.green, rfl, rfl, rfl⟩
    obtain ⟨later, hblue, closes⟩ := closing_iff.mpr ⟨w.blue, w.alpha, after, rfl, rfl, rfl⟩
    refine ⟨begun, hbegun, _, hopened, _, first, hred, second, one, _, third, hgreen, _, two, _, later, hblue, ?_⟩
    rw [Writing.call]
    generalize w.alpha.map Argument.numeral = alpha at closes ⊢
    cases closes with
    | four close => rw [close]
    | three apart close => rw [apart, close, Option.bind_some]

/-! ## The first call in a text -/

theorem callAt?_eq_none_iff : callAt? s = none ↔ ∀ other, ¬StartsWith other s := by
  rw [Option.eq_none_iff_forall_ne_some]
  exact forall_congr' fun other => not_congr callAt?_eq_some_iff

theorem StartsWith.ne_nil (starts : StartsWith call s) : s ≠ [] := by
  obtain ⟨w, after, rfl, -⟩ := starts
  obtain ⟨c, rest, split, -⟩ := w.text_eq_cons
  rw [split]
  exact List.cons_ne_nil c _

/-- The first call that is found is the first one that is written. -/
theorem findCall?_eq_some_iff : findCall? s = some call ↔ IsFirst call s := by
  induction s with
  | nil =>
    refine iff_of_false nofun fun first => ?_
    cases first with
    | here starts => exact starts.ne_nil rfl
  | cons c s ih =>
    rw [findCall?]
    split
    · next other found =>
      rw [callAt?_eq_some_iff] at found
      rw [Option.some.injEq]
      constructor
      · rintro rfl
        exact .here found
      · intro first
        cases first with
        | here starts =>
          rw [← callAt?_eq_some_iff] at starts found
          exact Option.some.inj (found.symm.trans starts)
        | later none next => exact absurd found (none other)
    · next apart =>
      rw [callAt?_eq_none_iff] at apart
      rw [ih]
      constructor
      · exact .later apart
      · intro first
        cases first with
        | here starts => exact absurd starts (apart call)
        | later none next => exact next

/-- A text has a first call if it has a call at all. -/
theorem exists_isFirst_iff : (∃ call, IsFirst call s) ↔ ∃ call, IsIn call s := by
  constructor
  · rintro ⟨call, first⟩
    refine ⟨call, ?_⟩
    induction first with
    | here starts => exact ⟨_, List.suffix_rfl, starts⟩
    | later none next ih =>
      obtain ⟨rest, behind, starts⟩ := ih
      exact ⟨rest, behind.trans (List.suffix_cons _ _), starts⟩
  · rintro ⟨call, rest, behind, starts⟩
    induction s with
    | nil => exact absurd (List.suffix_nil.mp behind) starts.ne_nil
    | cons c s ih =>
      by_cases here : ∃ other, StartsWith other (c :: s)
      · obtain ⟨other, first⟩ := here
        exact ⟨other, .here first⟩
      · rcases List.suffix_cons_iff.mp behind with rfl | later
        · exact absurd ⟨call, starts⟩ here
        · obtain ⟨other, first⟩ := ih later
          exact ⟨other, .later (not_exists.mp here) first⟩

theorem findCall?_eq_none_iff : findCall? s = none ↔ ∀ call, ¬IsIn call s := by
  rw [← not_exists, ← exists_isFirst_iff, Option.eq_none_iff_forall_ne_some, not_exists]
  exact forall_congr' fun call => not_congr findCall?_eq_some_iff

/-- A text without an opening parenthesis has no call. -/
theorem not_isIn_of_not_mem (unopened : '(' ∉ s) : ¬IsIn call s := by
  rintro ⟨rest, behind, w, after, rfl, -⟩
  apply unopened
  apply behind.subset
  simp [Writing.text]

/-- What is written behind signs that no call begins with is the first call. -/
theorem isFirst_of_writing {before : List Char} (apart : ∀ c ∈ before, c ≠ 'r' ∧ c ≠ 'R') (w : Writing)
    (after : List Char) : IsFirst w.call (before ++ (w.text ++ after)) := by
  induction before with
  | nil => exact .here ⟨w, after, rfl, rfl⟩
  | cons c before ih =>
    obtain ⟨here, later⟩ := List.forall_mem_cons.mp apart
    refine .later ?_ (ih later)
    rintro other ⟨x, behind, whole, -⟩
    obtain ⟨d, rest, split, letter⟩ := x.text_eq_cons
    rw [split] at whole
    obtain ⟨rfl, -⟩ := List.cons.inj whole
    rcases letter with rfl | rfl
    · exact here.1 rfl
    · exact here.2 rfl

end Color

end Montage
