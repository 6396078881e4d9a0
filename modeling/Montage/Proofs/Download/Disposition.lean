import Montage.Download.Disposition
import Montage.Proofs.Text.Letter
import Montage.Proofs.Text.Percent
import Montage.Proofs.Text.Search

/-! # File names are read back from headers

A name that is written as RFC 5987 has it, in octets of UTF-8 of which all but a few characters of ASCII are escaped,
is read from a header as it was. It does not matter which other parameters stand before it or after it, as long as no
star comes first: only a parameter with a star can be taken for it.
-/

namespace Montage.Download.Disposition

open String (utf8EncodeChar)
open Text (StopsAt)

variable {before form value after coded s : List Char}

/-- The characters that stand for themselves in the value of an extended parameter. -/
def isAttributeChar (c : Char) : Bool := c.isAlphanum || "!#$&+-.^_\x60|~".toList.contains c

theorem isAttributeChar_isPlain : Text.Percent.IsPlain isAttributeChar := by
  intro c kept
  rcases Bool.or_eq_true_iff.mp kept with letter | mark
  · constructor
    · have code := Text.toNat_of_isAlphanum letter
      omega
    · rintro rfl
      exact absurd letter (by decide)
  · have known : "!#$&+-.^_\x60|~".toList.all (fun mark => mark.toNat < 0x80 && mark != '%') = true := by decide
    have plain := List.all_eq_true.mp known c (List.contains_iff_mem.mp mark)
    simpa using plain

/-- What can be in the value of an extended parameter is no semicolon. -/
theorem semicolon_notMem {octets : List UInt8} (codes : Text.Percent.Codes isAttributeChar octets coded) :
    ';' ∉ coded := by
  intro member
  exact absurd (codes.mem member) (by decide)

/-- The extended parameter is found where the first star is. -/
theorem valueAfter?_star (free : '*' ∉ before) (word : form.map Char.toLower = "filename*=utf-8''".toList)
    (filled : value ≠ []) (whole : ';' ∉ value) (stops : StopsAt (· != ';') after) :
    valueAfter? "filename*=utf-8''" (before ++ (form ++ (value ++ after))) = some value := by
  have parts : form.map Char.toLower = "filename".toList ++ "*=utf-8''".toList := word
  obtain ⟨name, mark, rfl, small, -⟩ := List.map_eq_append_iff.mp parts
  have length : name.length = 8 := by simpa using congrArg List.length small
  have unstarred : '*' ∉ name := by
    intro member
    have lower := List.mem_map_of_mem (f := Char.toLower) member
    rw [small] at lower
    exact absurd lower (by decide)
  rw [valueAfter?, Text.findFirst?_append]
  · apply Text.findFirst?_of_eq_some
    rw [Text.afterWord?_of_toLower word, Option.bind_some]
    refine Text.run?_append filled (fun c member => ?_) stops
    rw [bne_iff_ne]
    exact ne_of_mem_of_not_mem member whole
  · -- Where the word begins earlier, its star would have to stand before the first one.
    intro front here split some
    rw [Option.bind_eq_none_iff]
    intro rest found
    have ninth : "filename*=utf-8''".toList[8]? = .some '*' := by decide
    obtain ⟨c, there, star⟩ := Text.getElem?_of_afterWord? found ninth
    obtain rfl : c = '*' := Text.eq_of_toLower (by simpa [Text.isFormOf] using star) (.inl (by decide))
    have inside : 8 < (here ++ name).length := by
      have := List.length_pos_iff.mpr some
      rw [List.length_append]
      omega
    rw [List.append_assoc name, ← List.append_assoc here, List.getElem?_append_left inside] at there
    rcases List.mem_append.mp (List.mem_of_getElem? there) with member | member
    · exact absurd (split ▸ List.mem_append_right front member) free
    · exact absurd member unstarred

/-- A name that is written in an extended parameter is read as it was, whatever stands before the parameter without
a star and whatever parameters come after it. -/
theorem extendedName_isRead (filled : s ≠ []) (codes : Text.Percent.Codes isAttributeChar (s.flatMap utf8EncodeChar) coded)
    (free : '*' ∉ before) (word : form.map Char.toLower = "filename*=utf-8''".toList)
    (ends : after = [] ∨ ∃ more, after = ';' :: more) : name? (before ++ form ++ coded ++ after) = some s := by
  have octets : s.flatMap utf8EncodeChar ≠ [] := by
    rw [ne_eq, List.flatMap_eq_nil_iff]
    intro empty
    obtain ⟨c, member⟩ := List.exists_mem_of_ne_nil s filled
    exact String.utf8EncodeChar_ne_nil (empty c member)
  have stops : StopsAt (· != ';') after := by
    rcases ends with rfl | ⟨more, rfl⟩
    · exact Text.stopsAt_nil
    · rw [Text.stopsAt_cons]
      rfl
  have found := valueAfter?_star free word (codes.ne_nil octets) (semicolon_notMem codes) stops
  rw [List.append_assoc, List.append_assoc, name?, codedName?, found, Option.bind_some,
    Text.Percent.decode?_of_codes isAttributeChar_isPlain codes]

/-- A name with a letter beyond ASCII, escaped with digits of both cases, between two plain names. -/
theorem accentedName_isRead : "é;.mp4".toList ≠ [] ∧
    Text.Percent.Codes isAttributeChar ("é;.mp4".toList.flatMap utf8EncodeChar) "%c3%A9%3b.mp4".toList ∧
    name? ("attachment; filename=\"a.mp4\"; ".toList ++ "FileName*=utf-8''".toList ++ "%c3%A9%3b.mp4".toList ++
      "; filename=b.mp4".toList) = some "é;.mp4".toList := by
  have codes : Text.Percent.Codes isAttributeChar ("é;.mp4".toList.flatMap utf8EncodeChar) "%c3%A9%3b.mp4".toList :=
    .escaped rfl rfl (.escaped rfl rfl (.escaped rfl rfl (.kept (c := '.') rfl (.kept (c := 'm') rfl
      (.kept (c := 'p') rfl (.kept (c := '4') rfl .nil))))))
  exact ⟨by decide, codes, extendedName_isRead (by decide) codes (by decide) (by decide) (.inr ⟨_, rfl⟩)⟩

end Montage.Download.Disposition
