import Montage.Proofs.Caption.Quoting
import Montage.Proofs.Text.Letter
import Montage.Proofs.Text.Search

/-! # Lines of a caption

A token that breaks a line has an opening bracket at its front and nowhere else. A text in front of a token therefore
holds the same tokens as it does alone, however it ends, and the texts on either side of the token are prepared apart:
what is drawn of them is joined by a line break, and their lines add up.
-/

namespace Montage.Caption

/-- A token that breaks a line, with all that is written of it. -/
structure BreakToken where
  word : List Char
  gap : List Char
  slash : Bool
  spelled : word.map Char.toLower = ['b', 'r']
  blank : ∀ c ∈ gap, Text.isBlank c = true

namespace BreakToken

/-- What a token ends with. -/
def ending (token : BreakToken) : List Char := if token.slash then ['/', '>'] else ['>']

/-- A token behind its opening bracket. -/
def inside (token : BreakToken) : List Char := token.word ++ (token.gap ++ token.ending)

/-- A token as it is written. -/
def text (token : BreakToken) : List Char := '<' :: token.inside

/-- No token opens inside another one. -/
theorem bracket_notMem_inside (token : BreakToken) : '<' ∉ token.inside := by
  have word : '<' ∉ token.word := by
    intro member
    have lower := List.mem_map_of_mem (f := Char.toLower) member
    rw [token.spelled] at lower
    revert lower
    decide
  have gap : '<' ∉ token.gap := fun member => absurd (token.blank _ member) (by decide)
  have ending : '<' ∉ token.ending := by
    unfold BreakToken.ending
    split <;> decide
  simp [inside, word, gap, ending]

theorem breakLength?_text (token : BreakToken) (rest : List Char) :
    breakLength? (token.text ++ rest) = some token.text.length := by
  obtain ⟨word, gap, slash, spelled, blank⟩ := token
  obtain ⟨b, _, rfl, lowerB, last⟩ := List.map_eq_cons_iff.mp spelled
  obtain ⟨r, _, rfl, lowerR, last⟩ := List.map_eq_cons_iff.mp last
  obtain rfl := List.map_eq_nil_iff.mp last
  have letters : (Text.isFormOf 'b' b && Text.isFormOf 'r' r) = true :=
    Bool.and_eq_true_iff.mpr
      ⟨(Text.isFormOf_iff (by decide)).mpr lowerB, (Text.isFormOf_iff (by decide)).mpr lowerR⟩
  cases slash with
  | false =>
    have blanks : (gap ++ '>' :: rest).takeWhile Text.isBlank = gap :=
      Text.takeWhile_append blank (Text.stopsAt_cons.mpr (by decide))
    simp [text, inside, ending, breakLength?, letters, blanks]
  | true =>
    have blanks : (gap ++ '/' :: '>' :: rest).takeWhile Text.isBlank = gap :=
      Text.takeWhile_append blank (Text.stopsAt_cons.mpr (by decide))
    simp [text, inside, ending, breakLength?, letters, blanks]

end BreakToken

/-- A text starts with a token. -/
def StartsWithBreak (s : List Char) : Prop := ∃ (token : BreakToken) (rest : List Char), s = token.text ++ rest

theorem startsWithBreak_of_breakLength? {s : List Char} {length : Nat} (found : breakLength? s = some length) :
    StartsWithBreak s := by
  unfold breakLength? at found
  split at found
  · next b r rest =>
    split at found
    · next letters =>
      obtain ⟨formB, formR⟩ := Bool.and_eq_true_iff.mp letters
      have spelled : [b, r].map Char.toLower = ['b', 'r'] := by
        rw [List.map_cons, List.map_cons, (Text.isFormOf_iff (by decide)).mp formB,
          (Text.isFormOf_iff (by decide)).mp formR]
        rfl
      have blank : ∀ c ∈ rest.takeWhile Text.isBlank, Text.isBlank c = true :=
        fun c member => List.mem_takeWhile_imp member
      have whole : rest = rest.takeWhile Text.isBlank ++ rest.drop (rest.takeWhile Text.isBlank).length :=
        List.prefix_iff_eq_append.mp (List.takeWhile_prefix Text.isBlank) |>.symm
      dsimp only at found
      split at found
      · next after closed =>
        rw [closed] at whole
        refine ⟨⟨[b, r], _, false, spelled, blank⟩, after, ?_⟩
        simp [BreakToken.text, BreakToken.inside, BreakToken.ending, ← whole]
      · next after closed =>
        rw [closed] at whole
        refine ⟨⟨[b, r], _, true, spelled, blank⟩, after, ?_⟩
        simp [BreakToken.text, BreakToken.inside, BreakToken.ending, ← whole]
      · cases found
    · cases found
  · cases found

/-- A text starts with a token already in front of an opening bracket, or not at all. -/
theorem startsWithBreak_of_append {c : Char} {s rest : List Char}
    (starts : StartsWithBreak (c :: s ++ '<' :: rest)) : StartsWithBreak (c :: s) := by
  obtain ⟨token, after, whole⟩ := starts
  rcases List.append_eq_append_iff.mp whole with ⟨more, longer, bracket⟩ | ⟨more, shorter, -⟩
  · cases more with
    | nil => exact ⟨token, [], by rw [longer, List.append_nil, List.append_nil]⟩
    | cons d more =>
      obtain ⟨rfl, -⟩ := List.cons.inj bracket
      obtain ⟨-, inside⟩ := List.cons.inj longer
      exact absurd (inside ▸ List.mem_append_right s List.mem_cons_self) token.bracket_notMem_inside
  · exact ⟨token, more, shorter⟩

/-! ## Breaking -/

theorem breakLinesAfter_eq (skip : Nat) (s : List Char) : breakLinesAfter skip s = breakLines (s.drop skip) := by
  induction s generalizing skip with
  | nil => simp [breakLines, breakLinesAfter]
  | cons c rest ih =>
    cases skip with
    | zero => rfl
    | succ skip => rw [breakLinesAfter, ih, List.drop_succ_cons]

theorem breakLines_token (token : BreakToken) (rest : List Char) :
    breakLines (token.text ++ rest) = '\n' :: breakLines rest := by
  have found := token.breakLength?_text rest
  rw [BreakToken.text, List.cons_append] at found ⊢
  rw [breakLines, breakLinesAfter, found]
  simp only [breakLinesAfter_eq, List.length_cons, Nat.add_sub_cancel, List.drop_left]

theorem breakLines_cons {c : Char} {rest : List Char} (other : ¬StartsWithBreak (c :: rest)) :
    breakLines (c :: rest) = c :: breakLines rest := by
  rw [breakLines, breakLinesAfter]
  split
  · next found => exact absurd (startsWithBreak_of_breakLength? found) other
  · rfl

/-- The texts on either side of a token are broken apart. -/
theorem breakLines_append_token (front : List Char) (token : BreakToken) (rest : List Char) :
    breakLines (front ++ (token.text ++ rest)) = breakLines front ++ '\n' :: breakLines rest := by
  -- A token at the beginning is taken as a whole, so the induction is on the length.
  induction size : front.length using Nat.strong_induction_on generalizing front with
  | _ size ih =>
    subst size
    cases front with
    | nil => exact breakLines_token token rest
    | cons c front =>
      by_cases starts : StartsWithBreak (c :: front)
      · obtain ⟨first, others, split⟩ := starts
        have shorter : others.length < (c :: front).length := by
          rw [split, List.length_append, BreakToken.text, List.length_cons]
          omega
        rw [split, List.append_assoc, breakLines_token, breakLines_token, ih _ shorter others rfl]
        rfl
      · have alone : ¬StartsWithBreak (c :: (front ++ (token.text ++ rest))) := by
          rw [BreakToken.text, List.cons_append]
          exact fun longer => starts (startsWithBreak_of_append longer)
        rw [List.cons_append, breakLines_cons alone, breakLines_cons starts,
          ih _ (Nat.lt_succ_self front.length) front rfl]
        rfl

/-! ## Counting -/

theorem count_escapeChar (c : Char) : (escapeChar c).count '\n' = [c].count '\n' := by
  unfold escapeChar
  split_ifs with backslash percent colon quote
  all_goals simp_all

/-- Escaping adds no line and takes none away. -/
theorem count_escapeText (s : List Char) : (escapeText s).count '\n' = s.count '\n' := by
  induction s with
  | nil => rfl
  | cons c rest ih =>
    rw [← List.singleton_append, escapeText_append, List.count_append, List.count_append, ih, escapeText,
      List.flatMap_singleton, count_escapeChar]

/-- A caption is prepared on either side of a token apart: the texts that are drawn are joined by a line break, and the
numbers of lines add up. The lines that are counted are those that are drawn. -/
theorem prepare_breaks :
    (∀ (first second : String) (token : BreakToken),
      (prepare (first ++ String.ofList token.text ++ second)).escaped =
        (prepare first).escaped ++ "\n" ++ (prepare second).escaped ∧
      (prepare (first ++ String.ofList token.text ++ second)).lines =
        (prepare first).lines + (prepare second).lines) ∧
    ∀ raw, (prepare raw).lines = 1 + (prepare raw).escaped.toList.count '\n' := by
  refine ⟨fun first second token => ?_, fun raw => ?_⟩
  · have broken : breakLines (first ++ String.ofList token.text ++ second).toList =
        breakLines first.toList ++ '\n' :: breakLines second.toList := by
      rw [String.toList_append, String.toList_append, String.toList_ofList, List.append_assoc,
        breakLines_append_token]
    have newline : escapeText ('\n' :: breakLines second.toList) = '\n' :: escapeText (breakLines second.toList) :=
      rfl
    simp only [prepare, broken]
    constructor
    · rw [escapeText_append, newline, List.append_cons, String.ofList_append, String.ofList_append]
    · rw [List.count_append, List.count_cons_self]
      omega
  · simp only [prepare, String.toList_ofList, count_escapeText]
    omega

/-- A bracket that is left open in front of a token, and a slash and a bracket behind it, are drawn as they are. -/
example : prepare "1<br<BR\t />/>2<br>" = ⟨"1<br\n/>2\n", 3⟩ := by decide

end Montage.Caption
