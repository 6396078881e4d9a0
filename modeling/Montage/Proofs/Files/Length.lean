import Montage.Files.Tree
import Montage.Proofs.Files.Path

/-! # Paths that are too long

A path is followed part by part, and a part with too many octets is not followed at all: it is told neither
that a file is there nor that there is none.
-/

namespace Montage

namespace Path

/-- What is written of a path are its root, its parts, and what stands between or for them. -/
theorem mem_text {p : Path} {c : Char} (member : c ∈ p.text.toList) :
    c ∈ p.root.toList ∨ (∃ part ∈ p.parts, c ∈ part.toList) ∨ c = '/' ∨ c = '.' := by
  have between {words : List (List Char)} (member : c ∈ ['/'].intercalate words) :
      (∃ word ∈ words, c ∈ word) ∨ c = '/' := by
    induction words with
    | nil => contradiction
    | cons word others ih =>
      cases others with
      | nil => exact .inl ⟨word, List.mem_cons_self, by simpa using member⟩
      | cons next others =>
        rw [List.intercalate_cons_cons, List.mem_append, List.mem_append] at member
        rcases member with (here | slash) | later
        · exact .inl ⟨word, List.mem_cons_self, here⟩
        · exact .inr (List.mem_singleton.mp slash)
        · exact (ih later).imp_left fun ⟨word, present, there⟩ =>
            ⟨word, List.mem_cons_of_mem _ present, there⟩
  unfold text at member
  split at member
  · exact .inr (.inr (.inr (List.mem_singleton.mp member)))
  · rw [String.toList_append, String.toList_intercalate] at member
    rcases List.mem_append.mp member with root | body
    · exact .inl root
    · rcases between body with ⟨word, present, there⟩ | slash
      · obtain ⟨part, known, rfl⟩ := List.mem_map.mp present
        exact .inr (.inl ⟨part, known, there⟩)
      · exact .inr (.inr (.inl slash))

theorem mem_intercalate {words : List (List Char)} {word : List Char} {c : Char} (present : word ∈ words)
    (there : c ∈ word) : c ∈ ['/'].intercalate words := by
  induction words with
  | nil => contradiction
  | cons first others ih =>
    cases others with
    | nil =>
      obtain rfl := List.mem_singleton.mp present
      rwa [List.intercalate_singleton]
    | cons next others =>
      rw [List.intercalate_cons_cons, List.mem_append, List.mem_append]
      rcases List.mem_cons.mp present with rfl | later
      · exact .inl (.inl there)
      · exact .inr (ih later)

/-- All of the root and the parts of a path is written. -/
theorem mem_text_of_mem {p : Path} {c : Char}
    (member : c ∈ p.root.toList ∨ ∃ part ∈ p.parts, c ∈ part.toList) : c ∈ p.text.toList := by
  unfold text
  split
  · next empty =>
    rw [empty.1, empty.2] at member
    simp at member
  · rw [String.toList_append, String.toList_intercalate, List.mem_append]
    refine member.imp_right ?_
    rintro ⟨part, present, there⟩
    exact mem_intercalate (List.mem_map_of_mem present) there

/-- A single part is put below a path as it is. -/
theorem div_part {directory : Path} {name : String} (part : IsPart name) :
    directory / name = ⟨directory.root, directory.parts ++ [name]⟩ := by
  have single : (⟨"", [name]⟩ : Path).IsRead := ⟨.inl rfl, List.forall_mem_singleton.mpr part⟩
  have text : (⟨"", [name]⟩ : Path).text = name := by simp [Path.text]
  have read : ofText name = ⟨"", [name]⟩ := by
    have back := single.ofText_text
    rwa [text] at back
  change directory.join (ofText name) = _
  rw [read, join, if_pos rfl]

/-- A single dot is no step. -/
theorem div_dot (directory : Path) : directory / "." = directory := by
  change directory.join (ofText ".") = _
  rw [show ofText "." = ⟨"", []⟩ by decide, join, if_pos rfl, List.append_nil]

end Path

namespace Files

variable {files : Files} {path other : Path} {start place : Place}

/-- Only a path that is too long cannot be followed. -/
theorem isFile_eq_error {fault : FileFault} (beyond : files.isFile path = .error fault) :
    ∃ text, fault = .tooLong text := by
  unfold Files.isFile at beyond
  split at beyond
  · contradiction
  · next text _ => exact ⟨text, (Except.error.inj beyond).symm⟩
  · contradiction

/-- A path that goes on where another one has led follows its own parts from there. -/
theorem walk_append {parts : List String} (walked : files.walk path start parts = .ok place)
    (more : List String) : files.walk other start (parts ++ more) = files.walk other place more := by
  induction parts generalizing start with
  | nil =>
    obtain rfl := Except.ok.inj walked
    rfl
  | cons part rest ih =>
    unfold walk at walked
    rw [List.cons_append, walk]
    split at walked
    · contradiction
    · contradiction
    · split at walked
      · next up =>
        rw [if_pos up]
        split at walked
        · next low => rw [if_pos low]; exact ih walked
        · next top =>
          rw [if_neg top]
          split at walked
          · next relative => rw [if_pos relative]; exact ih walked
          · next rooted => rw [if_neg rooted]; exact ih walked
      · next down =>
        rw [if_neg down]
        split at walked
        · contradiction
        · next short => rw [if_neg short]; exact ih walked

end Files

end Montage
