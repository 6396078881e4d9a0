import Mathlib.Data.String.Basic
import Montage.Proofs.Assets.Listing

/-! # The order of the list of stickers

Stickers are listed in the order of their files, each one at the place of its first file. Files are compared with their
extensions, and this is the order of the names unless one name goes on from another one: then the point of the
shorter one's extension is compared with what the longer one goes on with. Of the characters that names may have, dashes
and line breaks sort before a point, and all others behind it.
-/

namespace Montage

/-! ## Texts that are compared -/

/-- A text that sorts before another one is its beginning, or sorts before it whatever is put behind the two. -/
theorem Text.lt_cases {a b : List Char} (less : a < b) :
    (∃ rest, rest ≠ [] ∧ b = a ++ rest) ∨ ∀ s t, a ++ s < b ++ t := by
  induction a generalizing b with
  | nil =>
    left
    refine ⟨b, ?_, rfl⟩
    rintro rfl
    exact absurd less (lt_irrefl _)
  | cons c a ih =>
    cases b with
    | nil => exact absurd less (List.not_lt_nil _)
    | cons d b =>
      rcases List.cons_lt_cons_iff.mp less with first | ⟨rfl, later⟩
      · right
        intro s t
        exact List.cons_lt_cons_iff.mpr (.inl first)
      · rcases ih later with ⟨rest, some, rfl⟩ | apart
        · exact .inl ⟨rest, some, rfl⟩
        · right
          intro s t
          exact List.cons_lt_cons_iff.mpr (.inr ⟨rfl, apart s t⟩)

theorem Text.append_lt_append {front s t : List Char} : front ++ s < front ++ t ↔ s < t := by
  induction front with
  | nil => exact Iff.rfl
  | cons c front ih =>
    rw [List.cons_append, List.cons_append, List.cons_lt_cons_iff, ih]
    simp

/-- Behind a common beginning texts are in the order of what they go on with. -/
theorem append_lt_append {front s t : String} : front ++ s < front ++ t ↔ s < t := by
  rw [String.lt_iff_toList_lt, String.lt_iff_toList_lt, String.toList_append, String.toList_append,
    Text.append_lt_append]

/-- Where one text sorts before another one, the other one goes on from it, or the order stays as it is whatever is put
behind the two. -/
theorem lt_cases {a b : String} (less : a < b) :
    (∃ rest, rest ≠ "" ∧ b = a ++ rest) ∨ ∀ s t, a ++ s < b ++ t := by
  rcases Text.lt_cases (String.lt_iff_toList_lt.mp less) with ⟨rest, some, whole⟩ | apart
  · left
    refine ⟨String.ofList rest, ?_, ?_⟩
    · rwa [ne_eq, String.ofList_eq_empty_iff]
    · rw [← String.toList_inj, String.toList_append, String.toList_ofList, whole]
  · right
    intro s t
    rw [String.lt_iff_toList_lt, String.toList_append, String.toList_append]
    exact apart _ _

/-- What is listed by keys that ascend ascends itself exactly if no two of its elements are in another order than their
keys. -/
theorem pairwise_lt_iff {α β : Type} [LinearOrder α] [LinearOrder β] {key : α → β} {l : List α}
    (ordered : l.Pairwise fun a b => key a < key b) :
    l.Pairwise (· < ·) ↔ ∀ a ∈ l, ∀ b ∈ l, a < b → key a < key b := by
  constructor
  · intro ascending a left b right less
    obtain ⟨i, below, rfl⟩ := List.getElem_of_mem left
    obtain ⟨j, inside, rfl⟩ := List.getElem_of_mem right
    rcases lt_trichotomy i j with before | rfl | behind
    · exact List.pairwise_iff_getElem.mp ordered i j below inside before
    · exact absurd less (lt_irrefl _)
    · exact absurd less (List.pairwise_iff_getElem.mp ascending j i inside below behind).asymm
  · intro agree
    refine ordered.imp_of_mem fun {a b} left right less => ?_
    rcases lt_trichotomy a b with before | rfl | behind
    · exact before
    · exact absurd less (lt_irrefl _)
    · exact absurd less (agree b right a left behind).asymm

/-- The names in a directory are listed in their order. -/
theorem Files.pairwise_list {files : Files} {directory : Path} {names : List String}
    (list : files.list directory = .ok names) : names.Pairwise (· ≤ ·) := by
  have chain (a b c : String) (first : nameLe a b = true) (second : nameLe b c = true) : nameLe a c = true :=
    decide_eq_true (le_trans (of_decide_eq_true first) (of_decide_eq_true second))
  have either (a b : String) : (nameLe a b || nameLe b a) = true := by
    rw [Bool.or_eq_true]
    exact (le_total a b).imp decide_eq_true decide_eq_true
  obtain ⟨place, -, found⟩ := bind_eq_ok.mp list
  split at found
  · cases found
    exact (List.pairwise_mergeSort chain either _).imp of_decide_eq_true
  · cases found
  · cases found

namespace AssetLibrary

variable {library : AssetLibrary} {files : List String} {name file : String}

/-! ## The places of the names -/

theorem distinct_concat (names : List String) (name : String) : distinct (names ++ [name]) =
    if (distinct names).contains name then distinct names else distinct names ++ [name] := by
  rw [distinct, List.foldl_append]
  rfl

/-- Each element is kept at the place where it stands first. -/
theorem pairwise_distinct {R : String → String → Prop} {names : List String}
    (first : ∀ before name after, names = before ++ name :: after → name ∉ before → ∀ other ∈ before, R other name) :
    (distinct names).Pairwise R := by
  induction names using List.reverseRecOn with
  | nil => exact .nil
  | append_singleton names name ih =>
    have kept := ih fun before other after split =>
      first before other (after ++ [name]) (by rw [split, List.append_assoc, List.cons_append])
    rw [distinct_concat]
    split
    · exact kept
    · next fresh =>
      rw [List.contains_iff_mem, mem_distinct] at fresh
      refine List.pairwise_append.mpr ⟨kept, List.pairwise_singleton _ _, ?_⟩
      intro other member last only
      obtain rfl := List.mem_singleton.mp only
      exact first names last [] rfl fresh other (mem_distinct.mp member)

/-- The sticker that a file is listed as. -/
def stickerName? (file : String) : Option String :=
  if stickerExtensions.contains (FileName.extension file) then some (FileName.stem file) else none

theorem ne_empty_of_stickerName? (listed : stickerName? file = some name) : name ≠ "" := by
  unfold stickerName? at listed
  rw [Option.ite_none_right_eq_some, Option.some.injEq] at listed
  obtain ⟨known, rfl⟩ := listed
  rcases FileName.split_cases file with bare | ⟨stem, letters, some, -, -, -, cut⟩
  · rw [FileName.extension, bare] at known
    contradiction
  · rw [FileName.stem, cut, ne_eq, String.ofList_eq_empty_iff]
    exact some

theorem eq_of_stickerName? (listed : stickerName? file = some name) :
    file = name ++ ".png" ∨ file = name ++ ".webp" := by
  apply Or.symm
  apply (split_iff (ne_empty_of_stickerName? listed)).mp
  unfold stickerName? at listed
  rwa [Option.ite_none_right_eq_some, Option.some.injEq] at listed

/-- The extension of the first file of a sticker. -/
def firstExtension (files : List String) (name : String) : String :=
  if name ++ ".png" ∈ files then ".png" else ".webp"

/-- The first file of a sticker that is listed is one of its files. -/
theorem append_firstExtension_mem (member : file ∈ files) (listed : stickerName? file = some name) :
    name ++ firstExtension files name ∈ files ∧ stickerName? (name ++ firstExtension files name) = some name := by
  have other {file : String} (stands : file = name ++ ".webp" ∨ file = name ++ ".png") :
      stickerName? file = some name := by
    obtain ⟨known, same⟩ := (split_iff (ne_empty_of_stickerName? listed)).mpr stands
    rw [stickerName?, if_pos known, same]
  unfold firstExtension
  split
  · next first => exact ⟨first, other (.inr rfl)⟩
  · next none =>
    rcases eq_of_stickerName? listed with rfl | rfl
    · exact absurd member none
    · exact ⟨member, listed⟩

/-- A sticker has its first file before all others. -/
theorem append_firstExtension_le (member : file ∈ files) (listed : stickerName? file = some name) :
    name ++ firstExtension files name ≤ file := by
  unfold firstExtension
  split
  · rcases eq_of_stickerName? listed with rfl | rfl
    · exact le_refl _
    · exact (append_lt_append.mpr (by decide)).le
  · next none =>
    rcases eq_of_stickerName? listed with rfl | rfl
    · exact absurd member none
    · exact le_refl _

/-- Stickers are listed in the order of their first files. -/
theorem pairwise_stickers (sorted : files.Pairwise (· ≤ ·)) : (distinct (files.filterMap stickerName?)).Pairwise
    fun a b => a ++ firstExtension files a < b ++ firstExtension files b := by
  apply pairwise_distinct
  intro before name after split fresh other earlier
  obtain ⟨front, rest, rfl, rfl, tail⟩ := List.filterMap_eq_append_iff.mp split
  obtain ⟨skipped, file, behind, rfl, unlisted, listed, -⟩ := List.filterMap_eq_cons_iff.mp tail
  obtain ⟨first, known, here⟩ := List.mem_filterMap.mp earlier
  have member : file ∈ front ++ (skipped ++ file :: behind) := by simp
  have ordered := List.pairwise_append.mp sorted
  obtain ⟨found, named⟩ := append_firstExtension_mem member listed
  -- The first file of the new name is the one that brings it up: no file before that one has the name.
  have place : name ++ firstExtension (front ++ (skipped ++ file :: behind)) name = file := by
    apply le_antisymm (append_firstExtension_le member listed)
    rcases List.mem_append.mp found with above | below
    · exact absurd (List.mem_filterMap.mpr ⟨_, above, named⟩) fresh
    · rcases List.mem_append.mp below with passed | below
      · rw [unlisted _ passed] at named
        cases named
      · rcases List.mem_cons.mp below with same | later
        · exact same.ge
        · exact (List.pairwise_cons.mp (List.pairwise_append.mp ordered.2.1).2.1).1 _ later
  have own := append_firstExtension_mem (List.mem_append_left (skipped ++ file :: behind) known) here
  apply lt_of_le_of_ne
  · calc other ++ firstExtension (front ++ (skipped ++ file :: behind)) other
        ≤ first := append_firstExtension_le (List.mem_append_left _ known) here
      _ ≤ file := ordered.2.2 first known file (by simp)
      _ = _ := place.symm
  · intro same
    rw [same, named] at own
    cases own.2
    exact fresh earlier

/-! ## Where the names are in order -/

theorem firstExtension_cases (files : List String) (name : String) :
    firstExtension files name = ".png" ∨ firstExtension files name = ".webp" := by
  unfold firstExtension
  split
  · exact .inl rfl
  · exact .inr rfl

/-- Only a name that goes on from another one can have its files in front of those of the other one. -/
theorem forall_first_lt_iff {names : List String} {extension : String → String} :
    (∀ a ∈ names, ∀ b ∈ names, a < b → a ++ extension a < b ++ extension b) ↔
      ∀ short ∈ names, ∀ rest, rest ≠ "" → short ++ rest ∈ names →
        extension short < rest ++ extension (short ++ rest) := by
  constructor
  · intro agree short known rest some long
    have less : short < short ++ rest := by
      obtain ⟨c, later, letters⟩ := List.exists_cons_of_ne_nil (mt String.toList_eq_nil_iff.mp some)
      have longer : short.toList ++ [] < short.toList ++ c :: later :=
        Text.append_lt_append.mpr (List.nil_lt_cons c later)
      rwa [List.append_nil, ← letters, ← String.toList_append, ← String.lt_iff_toList_lt] at longer
    have first := agree short known (short ++ rest) long less
    rwa [String.append_assoc, append_lt_append] at first
  · intro ahead a left b right less
    rcases lt_cases less with ⟨rest, some, rfl⟩ | apart
    · rw [String.append_assoc, append_lt_append]
      exact ahead a left rest some right
    · exact apart _ _

/-- A line break in a name that passes is its last character. -/
theorem eq_break_of_isValid {short rest : String} {later : List Char}
    (valid : AssetName.isValid (short ++ rest) = true) (letters : rest.toList = '\n' :: later) : rest = "\n" := by
  rw [← String.toList_inj, letters]
  rcases AssetName.isValid_iff.mp valid with proper | ⟨front, proper, whole⟩
  · apply absurd _ proper.break_notMem
    rw [String.toList_append, letters]
    exact List.mem_append_right _ List.mem_cons_self
  · rw [← String.toList_inj, String.toList_append, String.toList_append, letters] at whole
    cases later with
    | nil => rfl
    | cons c later =>
      have cut := congrArg List.dropLast whole
      rw [List.dropLast_append_of_ne_nil (List.cons_ne_nil _ _), List.dropLast_cons_cons] at cut
      apply absurd _ proper.break_notMem
      have back : front.toList = (front.toList ++ "\n".toList).dropLast := (List.dropLast_concat ..).symm
      rw [back, ← cut]
      exact List.mem_append_right _ List.mem_cons_self

/-- What a name that passes goes on with sorts behind the extension, unless it is a line break or starts with a dash. -/
theorem extension_lt_iff {short rest first last : String} (valid : AssetName.isValid (short ++ rest) = true)
    (some : rest ≠ "") (extension : first = ".png" ∨ first = ".webp") :
    first < rest ++ last ↔ rest ≠ "\n" ∧ ∀ more, rest ≠ "-" ++ more := by
  obtain ⟨c, later, letters⟩ := List.exists_cons_of_ne_nil (mt String.toList_eq_nil_iff.mp some)
  obtain ⟨point, begins⟩ : ∃ point, first.toList = '.' :: point := by
    rcases extension with rfl | rfl
    · exact ⟨_, rfl⟩
    · exact ⟨_, rfl⟩
  have compared : first < rest ++ last ↔ '.' < c ∨ '.' = c ∧ point < later ++ last.toList := by
    rw [String.lt_iff_toList_lt, String.toList_append, letters, begins, List.cons_append, List.cons_lt_cons_iff]
  have member : c ∈ (short ++ rest).toList := by
    rw [String.toList_append, letters]
    exact List.mem_append_right _ List.mem_cons_self
  rw [compared]
  -- Dashes and line breaks are the only characters of names in front of the point.
  by_cases dash : c = '-'
  · subst dash
    apply iff_of_false
    · rintro (above | ⟨same, -⟩)
      · exact absurd above (by decide)
      · exact absurd same (by decide)
    · intro both
      apply both.2 (String.ofList later)
      rw [← String.toList_inj, String.toList_append, letters]
      simp
  · rcases AssetName.mem_of_isValid valid member with good | rfl
    · have above : '.' < c := by
        rcases AssetName.isNameChar_iff.mp good with upper | lower | digit | rfl | rfl
        · exact lt_of_lt_of_le (by decide) upper.1
        · exact lt_of_lt_of_le (by decide) lower.1
        · exact lt_of_lt_of_le (by decide) digit.1
        · decide
        · contradiction
      refine iff_of_true (.inl above) ⟨?_, ?_⟩
      · rintro rfl
        cases letters
        exact absurd above (by decide)
      · rintro more rfl
        rw [String.toList_append] at letters
        exact dash (List.cons.inj letters).1.symm
    · apply iff_of_false
      · rintro (above | ⟨same, -⟩)
        · exact absurd above (by decide)
        · exact absurd same (by decide)
      · intro both
        exact both.1 (eq_break_of_isValid valid letters)

/-- In a stickers directory that is there, every name is listed at the place of its first file. The names ascend exactly
if no name goes on from another one with what sorts, with the extension of its own first file, before that of the other
name. Among names that pass they ascend exactly if none is another one with a line break or a dash behind it. -/
theorem stickers_ascend_iff (library : AssetLibrary) (there : library.files.find library.stickersDir = .ok .directory) :
    ∃ files names, library.files.list library.stickersDir = .ok files ∧ library.stickers = .ok names ∧
      (names.Pairwise (· < ·) ↔ ∀ short ∈ names, ∀ rest, rest ≠ "" → short ++ rest ∈ names →
        firstExtension files short < rest ++ firstExtension files (short ++ rest)) ∧
      ((∀ name ∈ names, AssetName.isValid name = true) → (names.Pairwise (· < ·) ↔
        ∀ short ∈ names, short ++ "\n" ∉ names ∧ ∀ rest, short ++ "-" ++ rest ∉ names)) := by
  obtain ⟨files, list, -⟩ := Files.exists_list there
  have listed : library.listed library.stickersDir = .ok files := by
    rw [AssetLibrary.listed, list]
    rfl
  have answered : library.stickers = .ok (distinct (files.filterMap stickerName?)) := by
    rw [stickers, listed]
    rfl
  have ordered := pairwise_stickers (Files.pairwise_list list)
  have ahead := (pairwise_lt_iff ordered).trans forall_first_lt_iff
  refine ⟨files, _, list, answered, ahead, fun valid => ahead.trans ?_⟩
  constructor
  · intro apart short known
    refine ⟨fun long => ?_, fun rest long => ?_⟩
    · have first := apart short known "\n" (by decide) long
      exact ((extension_lt_iff (valid _ long) (by decide) (firstExtension_cases files short)).mp first).1 rfl
    · rw [String.append_assoc] at long
      have some : "-" ++ rest ≠ "" := by simp
      have first := apart short known _ some long
      exact ((extension_lt_iff (valid _ long) some (firstExtension_cases files short)).mp first).2 rest rfl
  · intro apart short known rest some long
    apply (extension_lt_iff (valid _ long) some (firstExtension_cases files short)).mpr
    constructor
    · rintro rfl
      exact (apart short known).1 long
    · rintro more rfl
      rw [← String.append_assoc] at long
      exact (apart short known).2 more long

/-! ## Files on a shelf -/

/-- Files that stand on a shelf in their order are listed as they stand. -/
theorem list_shelf {names : List String} (sorted : names.Pairwise (· ≤ ·)) :
    (shelf names).list (ofSettings {} (shelf names)).stickersDir = .ok names := by
  apply Files.list_of_sorted (find_shelf names) _ (sorted.imp fun le => decide_eq_true le)
  rw [stickersDir_shelf, shelf, List.filterMap_cons_none rfl, List.filterMap_cons_none rfl, List.filterMap_map]
  exact List.filterMap_some

theorem stickers_shelf {names : List String} (sorted : names.Pairwise (· ≤ ·)) :
    (ofSettings {} (shelf names)).stickers = .ok (distinct (names.filterMap stickerName?)) := by
  have list : (ofSettings {} (shelf names)).files.list (ofSettings {} (shelf names)).stickersDir = .ok names :=
    list_shelf sorted
  rw [stickers, listed, list]
  rfl

/-- Two suns whose names go on with an underscore are listed in the order of their names, behind a heart in both
formats. -/
theorem suns_ascend : ∃ library : AssetLibrary,
    library = ofSettings {} (shelf ["heart.png", "heart.webp", "notes.txt", "sun.png", "sun_2.webp"]) ∧
    library.files.find library.stickersDir = .ok .directory ∧
    library.stickers = .ok ["heart", "sun", "sun_2"] ∧ ["heart", "sun", "sun_2"].Pairwise (· < ·) := by
  have shown : (ofSettings {} (shelf ["heart.png", "heart.webp", "notes.txt", "sun.png", "sun_2.webp"])).stickers =
      .ok ["heart", "sun", "sun_2"] := (stickers_shelf (by decide)).trans (by decide +kernel)
  refine ⟨_, rfl, find_shelf _, shown, ?_⟩
  obtain ⟨files, names, -, answered, -, plain⟩ := stickers_ascend_iff _
    (find_shelf ["heart.png", "heart.webp", "notes.txt", "sun.png", "sun_2.webp"])
  obtain rfl := Except.ok.inj (shown.symm.trans answered)
  apply (plain (by decide +kernel)).mpr
  intro short known
  refine ⟨?_, fun rest => ?_⟩
  · revert short
    decide
  · simp only [List.mem_cons, List.not_mem_nil, or_false] at known
    rcases known with rfl | rfl | rfl <;> simp [← String.toList_inj]

/-- A star whose name goes on with a dash is listed in front of the star itself. -/
theorem dashedStar_listed : ∃ library : AssetLibrary,
    library = ofSettings {} (shelf ["star-2.png", "star.png"]) ∧
    library.files.find library.stickersDir = .ok .directory ∧
    library.stickers = .ok ["star-2", "star"] ∧ (∀ name ∈ ["star-2", "star"], AssetName.isValid name = true) ∧
    ¬ ["star-2", "star"].Pairwise (· < ·) :=
  ⟨_, rfl, find_shelf _, (stickers_shelf (by decide)).trans (by decide +kernel), by decide +kernel, by decide⟩

end AssetLibrary

end Montage
