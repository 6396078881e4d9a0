import Montage.Files.Path
import Montage.Proofs.Text.Search

/-! # Extensions of file names

A name has an extension if something stands before its last point and something behind it.
-/

namespace Montage.FileName

variable {name : String} {stem letters : List Char}

theorem split_eq (whole : name.toList = stem ++ '.' :: letters) (some : stem ≠ []) (filled : letters ≠ [])
    (last : '.' ∉ letters) : split name = (String.ofList stem, String.ofList ('.' :: letters)) := by
  have reversed : name.toList.reverse = letters.reverse ++ '.' :: stem.reverse := by
    rw [whole, List.reverse_append, List.reverse_cons, List.append_assoc, List.singleton_append]
  have run : (letters.reverse ++ '.' :: stem.reverse).takeWhile (· != '.') = letters.reverse := by
    apply Text.takeWhile_append _ (Text.stopsAt_cons.mpr rfl)
    intro c member
    rw [bne_iff_ne]
    rintro rfl
    exact last (List.mem_reverse.mp member)
  unfold split
  simp only [reversed, run, List.drop_left, List.drop_one, List.tail_cons, List.reverse_reverse]
  apply if_neg
  simp [some, filled]

/-- A name is cut before an extension that has no other point. -/
theorem split_append {front extension : String} (some : front ≠ "") (point : extension.toList = '.' :: letters)
    (filled : letters ≠ []) (last : '.' ∉ letters) : split (front ++ extension) = (front, extension) := by
  have whole : (front ++ extension).toList = front.toList ++ '.' :: letters := by rw [String.toList_append, point]
  rw [split_eq whole (mt String.toList_eq_nil_iff.mp some) filled last, String.ofList_toList, ← point,
    String.ofList_toList]

/-- A name is cut before its last point, or not at all. -/
theorem split_cases (name : String) : split name = (name, "") ∨ ∃ stem letters, stem ≠ [] ∧ letters ≠ [] ∧
    '.' ∉ letters ∧ name.toList = stem ++ '.' :: letters ∧
      split name = (String.ofList stem, String.ofList ('.' :: letters)) := by
  have whole := List.takeWhile_append_dropWhile (p := (· != '.')) (l := name.toList.reverse)
  generalize run : name.toList.reverse.takeWhile (· != '.') = letters at whole
  have later : name.toList.reverse.drop letters.length = name.toList.reverse.dropWhile (· != '.') := by
    rw [← whole, List.drop_left, whole]
  have first := List.head?_dropWhile_not (· != '.') name.toList.reverse
  cases rest : name.toList.reverse.dropWhile (· != '.') with
  | nil =>
    left
    unfold split
    simp only [run, later, rest, List.drop_nil, or_true, if_true]
  | cons c stem =>
    rw [rest] at whole later first
    obtain rfl : c = '.' := by simpa using first
    by_cases filled : letters = [] ∨ stem = []
    · left
      unfold split
      simp only [run, later, List.drop_one, List.tail_cons]
      rw [if_pos filled]
    · right
      obtain ⟨filled, some⟩ := not_or.mp filled
      have last : '.' ∉ letters.reverse := by
        intro member
        have other := List.mem_takeWhile_imp (p := (· != '.')) (run ▸ List.mem_reverse.mp member)
        exact absurd other (by decide)
      have forth : name.toList = stem.reverse ++ '.' :: letters.reverse := by
        rw [← List.reverse_inj, ← whole]
        simp
      exact ⟨stem.reverse, letters.reverse, by simpa using some, by simpa using filled, last, forth,
        split_eq forth (by simpa using some) (by simpa using filled) last⟩

/-- The extension of a name is what it ends with, or there is none. -/
theorem extension_cases (name : String) : extension name = "" ∨ ∃ stem letters, stem ≠ [] ∧ letters ≠ [] ∧
    '.' ∉ letters ∧ name.toList = stem ++ '.' :: letters ∧ extension name = String.ofList ('.' :: letters) := by
  rcases split_cases name with bare | ⟨stem, letters, some, filled, last, whole, cut⟩
  · exact .inl (congrArg Prod.snd bare)
  · exact .inr ⟨stem, letters, some, filled, last, whole, congrArg Prod.snd cut⟩

/-- A name is its stem with its extension behind it. -/
theorem stem_append_extension (name : String) : FileName.stem name ++ extension name = name := by
  unfold FileName.stem extension
  rcases split_cases name with bare | ⟨front, letters, -, -, -, whole, cut⟩
  · rw [bare, String.append_empty]
  · rw [cut, ← String.ofList_append, ← whole, String.ofList_toList]

theorem mem_extension {c : Char} (member : c ∈ (extension name).toList) : c ∈ name.toList := by
  rcases extension_cases name with none | ⟨stem, letters, -, -, -, whole, some⟩
  · rw [none] at member
    contradiction
  · rw [some, String.toList_ofList] at member
    exact whole ▸ List.mem_append_right _ member

end Montage.FileName
