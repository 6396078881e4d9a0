import Montage.Files.Path

/-! # Paths are read back

Outside, a path is known by its text alone: the engine writes to what it reads from its last argument. Every
path that was read from a text, or put together of such paths, is read back from its own text.
-/

namespace Montage.Path

/-- A part that is kept when a path is read: neither empty nor a single dot, and without slashes. -/
structure IsPart (part : String) : Prop where
  filled : part ≠ ""
  noDot : part ≠ "."
  whole : '/' ∉ part.toList

/-- A path that consists of what is kept when a path is read. -/
structure IsRead (p : Path) : Prop where
  root : p.root = "" ∨ p.root = "/" ∨ p.root = "//"
  parts : ∀ part ∈ p.parts, IsPart part

variable {separator : Char} {word rest : List Char} {p q : Path}

theorem splitAt_cons (rest : List Char) :
    splitAt separator (separator :: rest) = [] :: splitAt separator rest := by
  rw [splitAt, if_pos rfl]

theorem splitAt_word_append (whole : separator ∉ word) (rest : List Char) :
    splitAt separator (word ++ separator :: rest) = word :: splitAt separator rest := by
  induction word with
  | nil => exact splitAt_cons rest
  | cons c word ih =>
    obtain ⟨other, whole⟩ := not_or.mp (mt List.mem_cons.mpr whole)
    rw [List.cons_append, splitAt, if_neg (Ne.symm other), ih whole]

theorem splitAt_word (whole : separator ∉ word) : splitAt separator word = [word] := by
  induction word with
  | nil => rfl
  | cons c word ih =>
    obtain ⟨other, whole⟩ := not_or.mp (mt List.mem_cons.mpr whole)
    rw [splitAt, if_neg (Ne.symm other), ih whole]

theorem splitAt_intercalate {words : List (List Char)} (some : words ≠ [])
    (whole : ∀ word ∈ words, separator ∉ word) :
    splitAt separator ([separator].intercalate words) = words := by
  induction words with
  | nil => contradiction
  | cons word others ih =>
    obtain ⟨here, there⟩ := List.forall_mem_cons.mp whole
    cases others with
    | nil => rw [List.intercalate_singleton, splitAt_word here]
    | cons next others =>
      rw [List.intercalate_cons_cons, List.append_assoc, List.singleton_append,
        splitAt_word_append here, ih (List.cons_ne_nil _ _) there]

/-- The pieces of a text have no other characters than it. -/
theorem subset_of_mem_splitAt {text piece : List Char} (member : piece ∈ splitAt separator text) : piece ⊆ text := by
  induction text generalizing piece with
  | nil =>
    rw [List.mem_singleton.mp member]
    exact List.nil_subset _
  | cons c rest ih =>
    unfold splitAt at member
    split at member
    · rcases List.mem_cons.mp member with rfl | later
      · exact List.nil_subset _
      · exact List.subset_cons_of_subset c (ih later)
    · split at member
      · rw [List.mem_singleton.mp member]
        exact List.cons_subset_cons c (List.nil_subset _)
      · next first others split =>
        rw [split] at ih
        rcases List.mem_cons.mp member with rfl | later
        · exact List.cons_subset_cons c (ih List.mem_cons_self)
        · exact List.subset_cons_of_subset c (ih (List.mem_cons_of_mem _ later))

theorem not_mem_of_mem_splitAt {text piece : List Char} (member : piece ∈ splitAt separator text) :
    separator ∉ piece := by
  induction text generalizing piece with
  | nil => rw [List.mem_singleton.mp member]; exact List.not_mem_nil
  | cons c rest ih =>
    unfold splitAt at member
    split at member
    · rcases List.mem_cons.mp member with rfl | member
      · exact List.not_mem_nil
      · exact ih member
    · next other =>
      split at member
      · rw [List.mem_singleton.mp member]
        exact mt List.mem_singleton.mp (Ne.symm other)
      · next first others split =>
        rw [split] at ih
        rcases List.mem_cons.mp member with rfl | member
        · exact mt List.mem_cons.mp (not_or.mpr ⟨Ne.symm other, ih List.mem_cons_self⟩)
        · exact ih (List.mem_cons_of_mem _ member)

theorem rootOf_cases (text : List Char) : rootOf text = "" ∨ rootOf text = "/" ∨ rootOf text = "//" := by
  unfold rootOf
  split
  · exact .inr (.inl rfl)
  · exact .inr (.inr rfl)
  · exact .inr (.inl rfl)
  · exact .inl rfl

theorem ofText_isRead (text : String) : (ofText text).IsRead := by
  refine ⟨rootOf_cases _, fun part member => ?_⟩
  obtain ⟨piece, kept, rfl⟩ := List.mem_map.mp member
  obtain ⟨present, kept⟩ := List.mem_filter.mp kept
  obtain ⟨filled, noDot⟩ : piece ≠ [] ∧ piece ≠ ['.'] := by simpa using kept
  refine ⟨fun empty => filled ?_, fun dot => noDot ?_, ?_⟩
  · simpa using congrArg String.toList empty
  · simpa using congrArg String.toList dot
  · rw [String.toList_ofList]
    exact not_mem_of_mem_splitAt present

theorem IsRead.div (read : p.IsRead) (text : String) : (p / text).IsRead := by
  have below := ofText_isRead text
  change (p.join (ofText text)).IsRead
  unfold join
  split
  · exact ⟨read.root, List.forall_mem_append.mpr ⟨read.parts, below.parts⟩⟩
  · exact below

theorem rootOf_append {root : String} (known : root = "" ∨ root = "/" ∨ root = "//") {body : List Char}
    (start : body.head? ≠ some '/') : rootOf (root.toList ++ body) = root := by
  rcases body with _ | ⟨c, rest⟩
  · rcases known with rfl | rfl | rfl <;> rfl
  · have other : c ≠ '/' := fun same => start (congrArg some same)
    rcases known with rfl | rfl | rfl <;> simp [rootOf, other]

/-- The parts of a path with a slash between each two. -/
def body (p : Path) : List Char := ['/'].intercalate (p.parts.map String.toList)

theorem IsRead.head?_body (read : p.IsRead) : p.body.head? ≠ some '/' := by
  unfold body
  rcases parts : p.parts with _ | ⟨part, others⟩
  · exact Option.some_ne_none _ |>.symm
  · obtain ⟨filled, -, whole⟩ := read.parts part (parts ▸ List.mem_cons_self)
    rcases letters : part.toList with _ | ⟨c, rest⟩
    · exact absurd (String.toList_eq_nil_iff.mp letters) filled
    · intro slash
      rw [letters] at whole
      rcases others with _ | ⟨next, others⟩ <;>
        simp only [List.map_cons, List.map_nil, List.intercalate_singleton, List.intercalate_cons_cons,
          letters, List.cons_append, List.head?_cons, Option.some.injEq] at slash <;>
        exact whole (slash ▸ List.mem_cons_self)

theorem splitAt_root {root : String} (known : root = "" ∨ root = "/" ∨ root = "//") (body : List Char) :
    (splitAt '/' (root.toList ++ body)).filter (fun piece => piece != [] && piece != ['.']) =
      (splitAt '/' body).filter fun piece => piece != [] && piece != ['.'] := by
  rcases known with rfl | rfl | rfl
  · rfl
  · change List.filter _ (splitAt '/' ('/' :: body)) = _
    rw [splitAt_cons]
    rfl
  · change List.filter _ (splitAt '/' ('/' :: '/' :: body)) = _
    rw [splitAt_cons, splitAt_cons]
    rfl

theorem IsRead.pieces_body (read : p.IsRead) :
    ((splitAt '/' p.body).filter fun piece => piece != [] && piece != ['.']) =
      p.parts.map String.toList := by
  unfold body
  rcases parts : p.parts with _ | ⟨part, others⟩
  · rfl
  · have all : ∀ piece ∈ (part :: others).map String.toList, piece ≠ [] ∧ piece ≠ ['.'] ∧ '/' ∉ piece := by
      rw [List.forall_mem_map]
      intro part member
      obtain ⟨filled, noDot, whole⟩ := read.parts part (parts ▸ member)
      exact ⟨mt String.toList_eq_nil_iff.mp filled, fun dot => noDot (String.toList_inj.mp dot), whole⟩
    rw [splitAt_intercalate (mt List.map_eq_nil_iff.mp (List.cons_ne_nil part others))
      fun piece member => (all piece member).2.2]
    refine List.filter_eq_self.mpr fun piece member => ?_
    simp [all piece member]

/-- A path is read back from its own text. -/
theorem IsRead.ofText_text (read : p.IsRead) : ofText p.text = p := by
  unfold text
  split
  · next empty =>
    obtain ⟨root, parts⟩ := p
    obtain ⟨rfl, rfl⟩ := empty
    decide
  · have letters : (p.root ++ "/".intercalate p.parts).toList = p.root.toList ++ p.body := by
      rw [String.toList_append, String.toList_intercalate]
      rfl
    have parts : (p.parts.map String.toList).map String.ofList = p.parts := by simp
    simp only [ofText, letters, rootOf_append read.root read.head?_body, splitAt_root read.root,
      read.pieces_body, parts]

end Montage.Path
