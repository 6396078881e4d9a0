import Montage.Proofs.Download.Disposition
import Montage.Proofs.Text.Blank

/-! # Quoted names in headers

A plain name is mostly written between quotes, which are taken away from it. They keep nothing together, though: a
value ends at the first semicolon, be it between quotes or not, and a coded name is looked for between them as well.
So a name is read as it stands between its quotes exactly if there is neither of them in it.
-/

namespace Montage.Download.Disposition

open Text (StopsAt isBlank isFormOf strip stripWhere)

variable {name after skipped rest header s : List Char}

/-- The header of an attachment with a name between quotes, and what comes after it. -/
def quoting (name after : List Char) : List Char := "attachment; filename=\"".toList ++ (name ++ '"' :: after)

/-- No parameter with a star is in a text, in either case. -/
def IsUnstarred (s : List Char) : Prop := ∀ front form back, s = front ++ (form ++ back) →
  ¬ List.Forall₂ (fun letter c => isFormOf letter c = true) "filename*".toList form

/-! ## Where a word is found -/

/-- No word begins in a text without its first letter. -/
theorem valueAfter?_skip {word : String} (letter : Char) (starts : word.toList.head? = some letter)
    (free : skipped.all (fun c => !isFormOf letter c) = true) :
    valueAfter? word (skipped ++ rest) = valueAfter? word rest := by
  apply Text.findFirst?_append
  intro before here split some
  obtain ⟨c, here, rfl⟩ := List.exists_cons_of_ne_nil some
  obtain ⟨letters, whole⟩ := List.head?_eq_some_iff.mp starts
  have other := List.all_eq_true.mp free c (split ▸ List.mem_append_right before List.mem_cons_self)
  rw [Bool.not_eq_true'] at other
  rw [whole, List.cons_append, Text.afterWord?, other, if_neg Bool.false_ne_true, Option.bind_none]

/-- The value of a plain name goes from its first quote to the first semicolon. -/
theorem valueAfter?_plain (name after : List Char) : valueAfter? "filename=" (quoting name after) =
    some ('"' :: (name ++ '"' :: after).takeWhile (· != ';')) := by
  have parts : quoting name after =
      "attachment; ".toList ++ ("filename=".toList ++ ('"' :: (name ++ '"' :: after))) := rfl
  rw [parts, valueAfter?_skip 'f' rfl (by decide)]
  apply Text.findFirst?_of_eq_some
  rw [Text.afterWord?_of_toLower (by decide), Option.bind_some]
  exact Text.run?_cons rfl _

/-- A coded name is looked for from between the quotes on. -/
theorem valueAfter?_coded (name after : List Char) : valueAfter? "filename*=utf-8''" (quoting name after) =
    valueAfter? "filename*=utf-8''" (name ++ '"' :: after) := by
  have parts : quoting name after =
      "attachment; ".toList ++ ('f' :: ("ilename=\"".toList ++ (name ++ '"' :: after))) := rfl
  -- The plain parameter itself is no coded one, since it has no star.
  have here : valueAfter? "filename*=utf-8''" ('f' :: ("ilename=\"".toList ++ (name ++ '"' :: after))) =
      valueAfter? "filename*=utf-8''" ("ilename=\"".toList ++ (name ++ '"' :: after)) := rfl
  rw [parts, valueAfter?_skip 'f' rfl (by decide), here,
    valueAfter?_skip 'f' rfl (by decide)]

theorem valueAfter?_of_isUnstarred (unstarred : IsUnstarred s) : valueAfter? "filename*=utf-8''" s = none := by
  rw [← Option.not_isSome_iff_eq_none]
  intro found
  obtain ⟨value, finds⟩ := Option.isSome_iff_exists.mp found
  obtain ⟨rest, ⟨front, split⟩, read⟩ := Text.exists_of_findFirst? finds
  obtain ⟨back, begun, -⟩ := Option.bind_eq_some_iff.mp read
  obtain ⟨form, rfl, forms⟩ := Text.afterWord?_eq_some_iff.mp begun
  have start := List.forall₂_take 9 forms
  apply unstarred front (form.take 9) (form.drop 9 ++ back) _ start
  rw [← List.append_assoc (form.take 9), List.take_append_drop, split]

/-- A text without a star has no parameter with one. -/
theorem isUnstarred_of_free (free : '*' ∉ s) : IsUnstarred s := by
  rintro front form back rfl forms
  have found : Text.afterWord? "filename*".toList (form ++ back) = some back :=
    Text.afterWord?_eq_some_iff.mpr ⟨form, rfl, forms⟩
  have ninth : "filename*".toList[8]? = some '*' := by decide
  obtain ⟨c, there, star⟩ := Text.getElem?_of_afterWord? found ninth
  obtain rfl : c = '*' := Text.eq_of_toLower (by simpa [isFormOf] using star) (.inl (by decide))
  exact free (List.mem_append_right front (List.mem_of_getElem? there))

/-- A coded name that begins between the quotes is there with its closing quote, whatever comes after it. -/
theorem valueAfter?_inside (unstarred : IsUnstarred after) (stops : StopsAt (· != ';') after) :
    valueAfter? "filename*=utf-8''" (name ++ '"' :: after) = valueAfter? "filename*=utf-8''" (name ++ ['"']) := by
  have foreign : "filename*=utf-8''".toList.all (fun letter => !isFormOf letter '"') = true := by decide
  rw [← List.singleton_append, ← List.append_assoc]
  apply Text.findFirst?_append_front
  · intro before here split some
    obtain ⟨front, last, rfl⟩ := (List.eq_nil_or_concat here).resolve_left some
    rw [List.concat_eq_append, ← List.append_assoc] at split
    obtain ⟨-, quote⟩ := List.append_inj' split rfl
    obtain rfl := List.singleton_inj.mp quote
    rw [List.concat_eq_append, List.append_assoc, List.singleton_append,
      Text.afterWord?_append_stop fun letter member => by simpa using List.all_eq_true.mp foreign letter member]
    cases Text.afterWord? "filename*=utf-8''".toList (front ++ ['"']) with
    | none => rfl
    | some value => exact Text.run?_append_of_stopsAt stops value
  · exact valueAfter?_of_isUnstarred unstarred

/-- A word and the value behind it have room in the text. -/
theorem length_valueAfter?_le {word : String} {value : List Char} (found : valueAfter? word header = some value) :
    word.toList.length + value.length ≤ header.length := by
  obtain ⟨rest, behind, read⟩ := Text.exists_of_findFirst? found
  obtain ⟨back, begun, runs⟩ := Option.bind_eq_some_iff.mp read
  obtain ⟨form, rfl, forms⟩ := Text.afterWord?_eq_some_iff.mp begun
  have whole := behind.length_le
  have front := (Text.prefix_of_run? runs).length_le
  rw [List.length_append, ← forms.length_eq] at whole
  omega

/-! ## What is read -/

theorem trimmed_quote (solid : ∀ c ∈ s.getLast?, isBlank c = false) : Text.IsTrimmed ('"' :: s) := by
  constructor
  · intro c first
    obtain rfl := Option.some.inj first
    rfl
  · intro c last
    cases s with
    | nil =>
      obtain rfl := Option.some.inj last
      rfl
    | cons d s =>
      rw [List.getLast?_cons_cons] at last
      exact solid c last

/-- A quote that is not closed is taken away as well. -/
theorem unquote_opened (unquoted : '"' ∉ s) : strip (stripWhere (· == '"') (strip ('"' :: s))) = strip s := by
  have whole := List.rdropWhile_append_rtakeWhile (p := isBlank) (l := s)
  have blank : ∀ c ∈ s.rtakeWhile isBlank, isBlank c = true := fun c member => List.mem_rtakeWhile_imp member
  have last := List.rdropWhile_last_not isBlank s
  generalize s.rdropWhile isBlank = kept at whole last
  generalize s.rtakeWhile isBlank = back at whole blank
  subst whole
  have solid : ∀ c ∈ kept.getLast?, isBlank c = false := by
    intro c member
    obtain ⟨some, rfl⟩ := List.mem_getLast?_eq_getLast member
    simpa using last some
  have bare : stripWhere (· == '"') (['"'] ++ (kept ++ [])) = kept :=
    Text.stripWhere_append (List.forall_mem_singleton.mpr rfl) (List.forall_mem_nil _) fun c member =>
      beq_false_of_ne (ne_of_mem_of_not_mem (List.mem_append_left back member) unquoted)
  rw [List.append_nil, List.singleton_append] at bare
  rw [← List.cons_append, Text.strip_append_blank blank, (trimmed_quote solid).strip_eq, bare,
    Text.strip_append_blank blank]

theorem unquote_closed (unquoted : '"' ∉ s) :
    strip (stripWhere (· == '"') (strip ('"' :: (s ++ ['"'])))) = strip s := by
  have solid : ∀ c ∈ (s ++ ['"']).getLast?, isBlank c = false := by
    intro c last
    rw [List.getLast?_concat] at last
    obtain rfl := Option.some.inj last
    rfl
  have quote : ∀ c ∈ ['"'], (c == '"') = true := List.forall_mem_singleton.mpr rfl
  have bare : stripWhere (· == '"') (['"'] ++ (s ++ ['"'])) = s :=
    Text.stripWhere_append quote quote fun c member => beq_false_of_ne (ne_of_mem_of_not_mem member unquoted)
  rw [List.singleton_append] at bare
  rw [(trimmed_quote solid).strip_eq, bare]

theorem takeWhile_whole (whole : ';' ∉ s) : ∀ c ∈ s, (c != ';') = true :=
  fun _ member => bne_iff_ne.mpr (ne_of_mem_of_not_mem member whole)

/-- Of a plain name between quotes, what stands before its first semicolon is read. -/
theorem plainName?_quoting (unquoted : '"' ∉ name) (stops : StopsAt (· != ';') after) :
    plainName? (quoting name after) = some (strip (name.takeWhile (· != ';'))) := by
  rw [plainName?, valueAfter?_plain, Option.map_some]
  by_cases inside : ';' ∈ name
  · obtain ⟨front, back, rfl, first⟩ := List.eq_append_cons_of_mem inside
    have ends (more : List Char) : StopsAt (· != ';') (';' :: more) := Text.stopsAt_cons.mpr rfl
    rw [List.append_assoc, List.cons_append, Text.takeWhile_append (takeWhile_whole first) (ends _),
      Text.takeWhile_append (takeWhile_whole first) (ends _), unquote_opened]
    exact fun member => unquoted (List.mem_append_left _ member)
  · have whole := takeWhile_whole inside
    have closed : ∀ c ∈ name ++ ['"'], (c != ';') = true :=
      List.forall_mem_append.mpr ⟨whole, List.forall_mem_singleton.mpr rfl⟩
    rw [List.append_cons, Text.takeWhile_append closed stops, List.takeWhile_eq_self_iff.mpr whole,
      unquote_closed unquoted]

theorem length_codedName?_le (coded : codedName? header = some s) : s.length + 17 ≤ header.length := by
  obtain ⟨value, found, decoded⟩ := Option.bind_eq_some_iff.mp coded
  have room : 17 + value.length ≤ header.length := length_valueAfter?_le found
  have most := Text.Percent.length_decode?_le decoded
  omega

/-- A name between quotes is cut at its first semicolon, and gives way to a coded name wherever there is one. Where
no parameter with a star comes after it, it is read as it is exactly if it has no semicolon and no coded name in it. -/
theorem quotedName_isRead (unquoted : '"' ∉ name) (trimmed : Text.IsTrimmed name)
    (ends : after = [] ∨ ∃ more, after = ';' :: more) :
    name? (quoting name after) =
        some ((codedName? (quoting name after)).getD (strip (name.takeWhile (· != ';')))) ∧
      (IsUnstarred after →
        (name? (quoting name after) = some name ↔ ';' ∉ name ∧ codedName? (name ++ ['"']) = none)) := by
  have stops : StopsAt (· != ';') after := by
    rcases ends with rfl | ⟨more, rfl⟩
    · exact Text.stopsAt_nil
    · exact Text.stopsAt_cons.mpr rfl
  have read : name? (quoting name after) =
      some ((codedName? (quoting name after)).getD (strip (name.takeWhile (· != ';')))) := by
    rw [name?, plainName?_quoting unquoted stops]
    cases codedName? (quoting name after) with
    | some coded => rfl
    | none => rfl
  refine ⟨read, fun unstarred => ?_⟩
  have same : codedName? (quoting name after) = codedName? (name ++ ['"']) := by
    rw [codedName?, valueAfter?_coded, valueAfter?_inside unstarred stops, ← codedName?]
  rw [read, same, Option.some.injEq]
  cases coded : codedName? (name ++ ['"']) with
  | some other =>
    apply iff_of_false
    · intro kept
      have room := length_codedName?_le coded
      rw [Option.getD_some] at kept
      rw [kept, List.length_append, List.length_singleton] at room
      omega
    · exact fun both => absurd both.2 (Option.some_ne_none _)
  | none =>
    rw [Option.getD_none, and_iff_left rfl]
    constructor
    · intro kept inside
      have member : ';' ∈ name.takeWhile (· != ';') := (Text.strip_infix _).subset (kept.symm ▸ inside)
      exact absurd (List.mem_takeWhile_imp member) (by decide)
    · intro whole
      rw [List.takeWhile_eq_self_iff.mpr (takeWhile_whole whole), trimmed.strip_eq]

/-- A name with stars and percent signs in it, between other parameters that have quotes and names too. -/
theorem starredName_isRead : '"' ∉ "50% *new*.mp4".toList ∧ Text.IsTrimmed "50% *new*.mp4".toList ∧
    IsUnstarred "; title=\"a; filename=b.mp4\"".toList ∧
    name? (quoting "50% *new*.mp4".toList "; title=\"a; filename=b.mp4\"".toList) = some "50% *new*.mp4".toList := by
  have unquoted : '"' ∉ "50% *new*.mp4".toList := by decide
  have trimmed : Text.IsTrimmed "50% *new*.mp4".toList := by decide +kernel
  have unstarred : IsUnstarred "; title=\"a; filename=b.mp4\"".toList := isUnstarred_of_free (by decide)
  have ends : "; title=\"a; filename=b.mp4\"".toList = [] ∨
      ∃ more, "; title=\"a; filename=b.mp4\"".toList = ';' :: more := .inr ⟨_, rfl⟩
  have read := quotedName_isRead unquoted trimmed ends
  exact ⟨unquoted, trimmed, unstarred, (read.2 unstarred).mpr ⟨by decide, by decide +kernel⟩⟩

/-- A semicolon between the quotes cuts the name, and what looks like a coded name between them is taken for one. -/
theorem semicolonName_cut :
    (∀ name ∈ ["a;b.mp4".toList, "filename*=UTF-8''b".toList],
      Text.IsTrimmed name ∧ name.all (fun c => 0x20 ≤ c.toNat && c.toNat < 0x7F && c != '"' && c != '\\') = true ∧
        name? (quoting name []) ≠ some name) ∧
      name? (quoting "a;b.mp4".toList []) = some "a".toList ∧
      name? (quoting "filename*=UTF-8''b".toList []) = some "b\"".toList := by
  have cut : name? (quoting "a;b.mp4".toList []) = some "a".toList := by decide +kernel
  have coded : name? (quoting "filename*=UTF-8''b".toList []) = some "b\"".toList := by decide +kernel
  refine ⟨List.forall_mem_cons.mpr ⟨⟨by decide +kernel, by decide +kernel, ?_⟩, List.forall_mem_singleton.mpr
    ⟨by decide +kernel, by decide +kernel, ?_⟩⟩, cut, coded⟩
  · rw [cut]
    decide
  · rw [coded]
    decide

end Montage.Download.Disposition
