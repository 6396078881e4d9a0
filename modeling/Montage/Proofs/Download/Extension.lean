import Montage.Proofs.Download.FileName

/-! # Stored names and their extensions

The extension of a media type is put to a name before the name is made fit for a file. What is dropped and cut then is
not looked at again: with nothing but points in front of it the extension loses its own point, and behind a long name
it loses its end.
-/

namespace Montage.Download

open Text (isBlank strip dropBlank)
open MediaType (IsExtension)

variable {extension header url : String} {disposition : Option String} {front ending : List Char}

/-- A name ends with an extension, and something stands before it. -/
def EndsWith (name extension : String) : Prop := ∃ stem, stem ≠ "" ∧ name = stem ++ extension

/-- What is left of a name behind its leading points. -/
def afterPoints (name : List Char) : List Char := name.dropWhile (· == '.')

theorem endsWith_iff {name extension : String} :
    EndsWith name extension ↔ extension.toList <:+ name.toList ∧ name.toList ≠ extension.toList := by
  constructor
  · rintro ⟨stem, filled, rfl⟩
    rw [String.toList_append]
    refine ⟨List.suffix_append _ _, fun same => filled ?_⟩
    rw [List.append_left_eq_self] at same
    exact String.toList_eq_nil_iff.mp same
  · rintro ⟨⟨stem, whole⟩, other⟩
    refine ⟨String.ofList stem, fun empty => other ?_, ?_⟩
    · rw [String.ofList_eq_empty_iff] at empty
      rw [← whole, empty, List.nil_append]
    · rw [← String.toList_inj, String.toList_append, String.toList_ofList, whole]

/-- An extension is read off a name that ends with it. -/
theorem EndsWith.extension_eq {name : String} (ends : EndsWith name extension) (shape : IsExtension extension.toList) :
    FileName.extension name = extension := by
  obtain ⟨stem, filled, rfl⟩ := ends
  have letters := List.cons_head?_tail shape.pointed
  have last : '.' ∉ extension.toList.tail := fun member => absurd (shape.plain '.' member) (by decide)
  have whole : (stem ++ extension).toList = stem.toList ++ '.' :: extension.toList.tail := by
    rw [letters, String.toList_append]
  rw [FileName.extension, FileName.split_eq whole (mt String.toList_eq_nil_iff.mp filled) shape.filled last]
  rw [letters]
  exact String.ofList_toList

theorem completed_eq_append (name extension : List Char) : ∃ front, completed name extension = front ++ extension := by
  unfold completed
  split
  · next ends =>
    obtain ⟨front, whole⟩ := ends
    exact ⟨front, whole.symm⟩
  · exact ⟨name, rfl⟩

theorem isBlank_of_isExtension (shape : IsExtension ending) : ∀ c ∈ ending, isBlank c = false := by
  intro c member
  rw [← List.cons_head?_tail shape.pointed] at member
  rcases List.mem_cons.mp member with rfl | letter
  · rfl
  · exact Text.isBlank_of_isAlphanum (shape.plain c letter)

/-- Behind nothing but points, an extension loses its point with them. -/
theorem sanitize_of_points (shape : IsExtension ending) (points : ∀ c ∈ front, c = '.') :
    sanitize (front ++ ending) = ending.tail := by
  have letters := List.cons_head?_tail shape.pointed
  have solid : ∀ c ∈ ending.tail, isBlank c = false := fun c member => Text.isBlank_of_isAlphanum (shape.plain c member)
  have stops : Text.StopsAt (· == '.') ending.tail := by
    intro c first
    have letter := shape.plain c (List.mem_of_head? first)
    rw [beq_eq_false_iff_ne]
    rintro rfl
    exact absurd letter (by decide)
  have all : ∀ c ∈ front ++ ['.'], (c == '.') = true := by
    intro c member
    rcases List.mem_append.mp member with early | last
    · exact beq_iff_eq.mpr (points c early)
    · exact beq_iff_eq.mpr (List.mem_singleton.mp last)
  have short : ending.tail.length ≤ maxNameLength := by
    have most := shape.short
    rw [List.length_tail, maxNameLength]
    omega
  have left : cut (front ++ ending) = ending.tail := by
    rw [cut, List.map_append, map_written_of_points points, map_written_of_kept (isRefused_of_isExtension shape)]
    nth_rewrite 1 [← letters]
    rw [← List.singleton_append, ← List.append_assoc, Text.dropWhile_append all stops, List.take_of_length_le short]
  rw [sanitize_eq, left]
  have whole := Text.strip_append shape.filled solid []
  rwa [List.nil_append] at whole

/-- What a name is cut to of which something stands behind the points. -/
theorem cut_append (shape : IsExtension ending) (other : ∃ c ∈ front, c ≠ '.') :
    cut (front ++ ending) = ((afterPoints front).map written ++ ending).take maxNameLength := by
  have same : ((· == '.') ∘ written) = (· == '.') := by
    funext c
    rw [Function.comp_apply, Bool.eq_iff_iff, beq_iff_eq, beq_iff_eq, written_eq_point]
  have left : afterPoints front ≠ [] := by
    obtain ⟨c, member, plain⟩ := other
    intro none
    exact plain (beq_iff_eq.mp (List.dropWhile_eq_nil_iff.mp none c member))
  rw [cut, List.map_append, map_written_of_kept (isRefused_of_isExtension shape), List.dropWhile_append,
    List.dropWhile_map, same]
  rw [if_neg]
  · rfl
  · simpa [afterPoints] using left

/-- Where nothing has to be cut, the extension stays, and the blanks before the rest of the name go. -/
theorem sanitize_append (shape : IsExtension ending) (other : ∃ c ∈ front, c ≠ '.')
    (short : (afterPoints front).length + ending.length ≤ maxNameLength) :
    sanitize (front ++ ending) = dropBlank ((afterPoints front).map written) ++ ending := by
  have filled : ending ≠ [] := by
    rintro rfl
    exact shape.filled rfl
  rw [sanitize_eq, cut_append shape other, List.take_of_length_le (by rwa [List.length_append, List.length_map])]
  exact Text.strip_append filled (isBlank_of_isExtension shape) _

/-- The extension is kept if something else than points stands before it, and nothing has to be cut behind the points,
or what is left of the name falls back to it or happens to end with it. -/
def Keeps (front : List Char) (extension : String) : Prop :=
  (∃ c ∈ front, c ≠ '.') ∧
    ((afterPoints front).length + extension.toList.length ≤ maxNameLength ∨
      FallsBack (front ++ extension.toList) extension ∨ extension.toList <:+ sanitize (front ++ extension.toList))

theorem endsWith_storedName {given : String} (shape : IsExtension extension.toList)
    (whole : completed given.toList extension.toList = front ++ extension.toList) :
    EndsWith (storedName given extension) extension ↔ Keeps front extension := by
  have letters := toList_storedName given extension
  rw [whole] at letters
  rw [endsWith_iff, letters]
  by_cases other : ∃ c ∈ front, c ≠ '.'
  · by_cases back : FallsBack (front ++ extension.toList) extension
    · have longer : defaultName.toList ++ extension.toList ≠ extension.toList := by
        rw [ne_eq, List.append_left_eq_self]
        decide
      rw [if_pos back]
      exact iff_of_true ⟨List.suffix_append _ _, longer⟩ ⟨other, .inr (.inl back)⟩
    · rw [if_neg back]
      constructor
      · rintro ⟨ends, -⟩
        exact ⟨other, .inr (.inr ends)⟩
      · rintro ⟨-, short | fallen | ends⟩
        · refine ⟨?_, fun same => back (.inr same)⟩
          rw [sanitize_append shape other short]
          exact List.suffix_append _ _
        · exact absurd fallen back
        · exact ⟨ends, fun same => back (.inr same)⟩
  · -- The extension has lost its point, and is too short to end with itself.
    have points : ∀ c ∈ front, c = '.' := by
      intro c member
      by_contra plain
      exact other ⟨c, member, plain⟩
    have left := sanitize_of_points shape points
    have size : extension.toList.tail.length < extension.toList.length := by
      rw [← List.cons_head?_tail shape.pointed, List.tail_cons, List.length_cons]
      omega
    have apart : ¬ extension.toList <:+ extension.toList.tail := by
      intro ends
      have most := ends.length_le
      omega
    have standing : ¬ FallsBack (front ++ extension.toList) extension := by
      rintro (none | same)
      · exact shape.filled (left ▸ none)
      · rw [left] at same
        rw [same] at size
        exact lt_irrefl _ size
    rw [if_neg standing, left]
    constructor
    · rintro ⟨ends, -⟩
      exact absurd ends apart
    · rintro ⟨some, -⟩
      exact absurd some other

/-- Where the table has an extension for the media type of a response, the name of the file has something before it and
ends with it exactly if it is kept. The extension is then what is read off the name. -/
theorem resolveName_endsWith (url : String)
    (known : MediaType.extension? (MediaType.ofHeader header) = some extension)
    (readable : headerName? disposition = none → ∃ path, Address.path url.toList = .ok path) :
    ∃ given front name, givenName url disposition = .ok given ∧
      completed given.toList extension.toList = front ++ extension.toList ∧
      resolveName url (some header) disposition = .ok name ∧ (EndsWith name extension ↔ Keeps front extension) ∧
      (EndsWith name extension → FileName.extension name = extension) := by
  have shape := MediaType.isExtension_of_extension? known
  obtain ⟨given, named⟩ := isOk_givenName_iff.mpr readable
  obtain ⟨front, whole⟩ := completed_eq_append given.toList extension.toList
  have chosen : extensionFor (some header) given = extension := by
    unfold extensionFor
    rw [Option.bind_some, known]
  refine ⟨given, front, storedName given extension, named, whole, ?_, endsWith_storedName shape whole, ?_⟩
  · rw [resolveName_eq, named, ← chosen]
    rfl
  · intro ends
    exact ends.extension_eq shape

/-- Points, a blank and a point again before the name. -/
theorem blankedClip_endsWith :
    MediaType.extension? (MediaType.ofHeader "VIDEO/mp4; codecs=avc1") = some ".mp4" ∧
      resolveName "https://a.example/b" (some "VIDEO/mp4; codecs=avc1")
        (some "attachment; filename*=UTF-8''..%20.clip") = .ok ".clip.mp4" ∧
      EndsWith ".clip.mp4" ".mp4" ∧ FileName.extension ".clip.mp4" = ".mp4" := by
  have known : MediaType.extension? (MediaType.ofHeader "VIDEO/mp4; codecs=avc1") = some ".mp4" := by decide +kernel
  have named : headerName? (some "attachment; filename*=UTF-8''..%20.clip") = some ".. .clip" := by decide +kernel
  have stored : resolveName "https://a.example/b" (some "VIDEO/mp4; codecs=avc1")
      (some "attachment; filename*=UTF-8''..%20.clip") = .ok ".clip.mp4" := by decide +kernel
  obtain ⟨given, front, name, same, whole, answer, ends, kept⟩ := resolveName_endsWith "https://a.example/b" known
    fun unnamed => absurd (named.symm.trans unnamed) (Option.some_ne_none _)
  obtain rfl := Except.ok.inj (stored.symm.trans answer)
  unfold givenName at same
  rw [named] at same
  obtain rfl := Except.ok.inj same
  obtain rfl : ".. .clip".toList = front := List.append_cancel_right (whole : ".. .clip".toList ++ ".mp4".toList = _)
  have ends := ends.mpr ⟨⟨'c', by decide, by decide⟩, .inl (by decide)⟩
  exact ⟨known, stored, ends, kept ends⟩

/-- A name that is nothing but the extension. -/
theorem bareExtension_falls :
    MediaType.extension? (MediaType.ofHeader "video/mp4") = some ".mp4" ∧
      resolveName "https://a.example/b" (some "video/mp4") (some "attachment; filename=\".mp4\"") = .ok "mp4" ∧
      ¬ EndsWith "mp4" ".mp4" := by
  refine ⟨by decide +kernel, by decide +kernel, ?_⟩
  rw [endsWith_iff]
  decide

end Montage.Download
