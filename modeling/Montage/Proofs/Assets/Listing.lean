import Montage.Proofs.Assets.Confinement
import Montage.Proofs.Files.Name

/-! # The list of stickers

A sticker is listed under the name of its file without the extension, and once even if it is there with both
extensions. In a directory that holds nothing but files, the names that pass and are listed are therefore those that
are found, up to one case: the preferred file is asked for first, and a name that leaves room for the extension of the
other one alone is listed and cannot be found.
-/

namespace Montage.AssetLibrary

variable {library : AssetLibrary} {name file text : String}

/-! ## Names without repetitions -/

theorem foldl_distinct (names seen : List String) (once : seen.Nodup) :
    (names.foldl (fun seen name => if seen.contains name then seen else seen ++ [name]) seen).Nodup ∧
      ∀ name, name ∈ names.foldl (fun seen name => if seen.contains name then seen else seen ++ [name]) seen ↔
        name ∈ seen ∨ name ∈ names := by
  induction names generalizing seen with
  | nil => exact ⟨once, fun name => by rw [List.foldl_nil, or_iff_left List.not_mem_nil]⟩
  | cons first rest ih =>
    rw [List.foldl_cons]
    by_cases known : first ∈ seen
    · rw [if_pos (List.contains_iff_mem.mpr known)]
      refine ⟨(ih seen once).1, fun name => ?_⟩
      rw [(ih seen once).2, List.mem_cons, ← or_assoc]
      refine or_congr_left (or_iff_left_of_imp ?_).symm
      rintro rfl
      exact known
    · rw [if_neg (mt List.contains_iff_mem.mp known)]
      have longer : (seen ++ [first]).Nodup :=
        (List.perm_append_singleton first seen).nodup_iff.mpr (List.nodup_cons.mpr ⟨known, once⟩)
      refine ⟨(ih _ longer).1, fun name => ?_⟩
      rw [(ih _ longer).2, List.mem_append, List.mem_singleton, List.mem_cons, or_assoc]

theorem nodup_distinct (names : List String) : (distinct names).Nodup := (foldl_distinct names [] List.nodup_nil).1

theorem mem_distinct {names : List String} : name ∈ distinct names ↔ name ∈ names := by
  rw [distinct, (foldl_distinct names [] List.nodup_nil).2, or_iff_right List.not_mem_nil]

/-! ## Names and extensions -/

/-- The files that stand for a sticker have its name and one of the extensions. -/
theorem split_iff (some : name ≠ "") :
    stickerExtensions.contains (FileName.extension file) = true ∧ FileName.stem file = name ↔
      file = name ++ ".webp" ∨ file = name ++ ".png" := by
  have cut (extension : String) {letters : List Char} (point : extension.toList = '.' :: letters)
      (filled : letters ≠ []) (last : '.' ∉ letters) :
      FileName.extension (name ++ extension) = extension ∧ FileName.stem (name ++ extension) = name := by
    rw [FileName.extension, FileName.stem, FileName.split_append some point filled last]
    exact ⟨rfl, rfl⟩
  constructor
  · rintro ⟨known, rfl⟩
    rcases List.mem_pair.mp (List.contains_iff_mem.mp known) with same | same
    · exact .inl (by rw [← same, FileName.stem_append_extension])
    · exact .inr (by rw [← same, FileName.stem_append_extension])
  · rintro (rfl | rfl)
    · obtain ⟨same, front⟩ := cut ".webp" rfl (by decide) (by decide)
      exact ⟨by rw [same]; rfl, front⟩
    · obtain ⟨same, front⟩ := cut ".png" rfl (by decide) (by decide)
      exact ⟨by rw [same]; rfl, front⟩

/-! ## What is listed and what is found -/

/-- A name that passes is listed if there is something in the directory under it and one of the extensions. -/
theorem exists_stickers (there : library.files.find library.stickersDir = .ok .directory) :
    ∃ names, library.stickers = .ok names ∧ names.Nodup ∧ ∀ name, AssetName.isValid name = true →
      (name ∈ names ↔ ∃ file ∈ (AssetRequest.sticker name).fileNames,
        (library.files.node? (library.stickersDir / file).place).isSome = true) := by
  obtain ⟨files, list, known⟩ := Files.exists_list there
  have listed : library.listed library.stickersDir = .ok files := by
    rw [AssetLibrary.listed, list]
    rfl
  refine ⟨_, by rw [stickers, listed]; rfl, nodup_distinct _, fun name valid => ?_⟩
  have some : name ≠ "" := by
    rintro rfl
    exact absurd valid (by decide)
  have named : (AssetRequest.sticker name).isNamed = true := valid
  rw [mem_distinct, List.mem_filterMap]
  refine exists_congr fun file => ?_
  rw [Option.ite_none_right_eq_some, Option.some.injEq, split_iff some, ← List.mem_pair, and_comm]
  refine and_congr_right fun candidate => ?_
  obtain ⟨part, down, -⟩ := AssetRequest.isPart_fileName named candidate
  rw [known file down, Path.place_div part down]

/-- If the path with the longer extension is not too long, that with the shorter one is not either. -/
theorem png_short {directory : Path} (webp : Path.IsPart (name ++ ".webp")) (png : Path.IsPart (name ++ ".png"))
    (short : ¬ (Files.pathLimit ≤ (directory / (name ++ ".webp")).text.utf8ByteSize ∨
      Files.nameLimit < (name ++ ".webp").utf8ByteSize)) :
    ¬ (Files.pathLimit ≤ (directory / (name ++ ".png")).text.utf8ByteSize ∨
      Files.nameLimit < (name ++ ".png").utf8ByteSize) := by
  have longer : ".webp".utf8ByteSize = ".png".utf8ByteSize + 1 := by decide
  rw [Path.div_part webp, Path.text_extend, String.utf8ByteSize_append, String.utf8ByteSize_append] at short
  rw [Path.div_part png, Path.text_extend, String.utf8ByteSize_append, String.utf8ByteSize_append]
  omega

/-- A sticker is found as the preferred file, or as the other one if it is not there as the preferred one. -/
theorem exists_sticker_iff (valid : AssetName.isValid name = true) : (∃ text, library.sticker name = .ok text) ↔
    library.files.isFile (library.stickersDir / (name ++ ".webp")) = .ok true ∨
      library.files.isFile (library.stickersDir / (name ++ ".webp")) = .ok false ∧
        library.files.isFile (library.stickersDir / (name ++ ".png")) = .ok true := by
  have named : (AssetRequest.sticker name).isNamed = true := valid
  have answers (text : String) : library.sticker name = .ok text ↔
      ∃ file, library.files.IsFirst library.stickersDir [name ++ ".webp", name ++ ".png"] file ∧
        text = (library.stickersDir / file).text := by
    change (AssetRequest.sticker name).lookup library.resolver = .ok text ↔ _
    rw [AssetRequest.lookup_eq_ok_iff, and_iff_right named]
    rfl
  constructor
  · rintro ⟨text, answered⟩
    obtain ⟨file, first, -⟩ := (answers text).mp answered
    cases first with
    | here preferred => exact .inl preferred
    | later absent next =>
      cases next with
      | here other => exact .inr ⟨absent, other⟩
      | later _ none => cases none
  · rintro (preferred | ⟨absent, other⟩)
    · exact ⟨_, (answers _).mpr ⟨_, .here preferred, rfl⟩⟩
    · exact ⟨_, (answers _).mpr ⟨_, .later absent (.here other), rfl⟩⟩

/-- In a directory without directories a sticker is found if there is something under its name and one of the
extensions, and the path with the longer extension is not too long. -/
theorem exists_sticker_iff_of_flat (there : library.files.find library.stickersDir = .ok .directory)
    (flat : library.files.IsFlatAt library.stickersDir.place) (valid : AssetName.isValid name = true) :
    (∃ text, library.sticker name = .ok text) ↔
      (∃ file ∈ (AssetRequest.sticker name).fileNames,
        (library.files.node? (library.stickersDir / file).place).isSome = true) ∧
      (name ++ ".webp").utf8ByteSize ≤ Files.nameLimit ∧
      (library.stickersDir / (name ++ ".webp")).text.utf8ByteSize < Files.pathLimit := by
  have named : (AssetRequest.sticker name).isNamed = true := valid
  obtain ⟨webp, up, plain⟩ := AssetRequest.isPart_fileName named List.mem_cons_self
  obtain ⟨png, down, bare⟩ :=
    AssetRequest.isPart_fileName named (List.mem_cons_of_mem _ List.mem_cons_self)
  rw [exists_sticker_iff valid, Files.isFile_eq there flat webp up plain, Files.isFile_eq there flat png down bare,
    AssetRequest.fileNames]
  simp only [List.mem_pair, exists_eq_or_imp, exists_eq_left]
  split
  · next long => exact iff_of_false (by simp) (by omega)
  · next short =>
    -- Where the preferred path can be followed, the other one can be as well.
    have fits : (name ++ ".webp").utf8ByteSize ≤ Files.nameLimit ∧
        (library.stickersDir / (name ++ ".webp")).text.utf8ByteSize < Files.pathLimit := by omega
    rw [if_neg (png_short webp png short), and_iff_left fits]
    cases (library.files.node? (library.stickersDir / (name ++ ".webp")).place).isSome with
    | true => simp
    | false => simp

theorem shelf_isFlat (names : List String) : (shelf names).IsFlatAt
    (ofSettings {} (shelf names)).stickersDir.place := by
  have place : Path.place ⟨"", ["assets", "stickers"]⟩ = ⟨"", ["assets", "stickers"]⟩ := by decide
  rw [stickersDir_shelf, place]
  apply Files.isFlatAt_of_entries
  intro entry member above
  rcases List.mem_cons.mp member with rfl | member
  · exact absurd above (by decide)
  · rcases List.mem_cons.mp member with rfl | member
    · exact absurd above (by decide)
    · obtain ⟨name, -, rfl⟩ := List.mem_map.mp member
      intro same
      cases same

theorem isSome_node?_shelf {names : List String} (member : file ∈ names) (part : Path.IsPart file) (down : file ≠ "..") :
    ((shelf names).node? ((ofSettings {} (shelf names)).stickersDir / file).place).isSome = true := by
  have place : Path.place ⟨"", ["assets", "stickers"]⟩ = ⟨"", ["assets", "stickers"]⟩ := by decide
  have low : Place.isTop ⟨"", ["assets", "stickers", file]⟩ = false := rfl
  rw [stickersDir_shelf, Path.place_div part down, place, List.cons_append, List.cons_append,
    List.nil_append, Files.node?_low low, List.lookup_isSome_iff]
  exact ⟨_, List.mem_cons_of_mem _ (List.mem_cons_of_mem _ (List.mem_map_of_mem member)), beq_self_eq_true _⟩

/-- In a stickers directory that holds nothing but files every name is listed once. A name that passes is listed exactly
if there is something under it and one of the extensions, and it is found exactly if it is listed and leaves room for the
preferred extension, in its file's name and in the whole path. -/
theorem listed_iff_found (library : AssetLibrary)
    (there : library.files.find library.stickersDir = .ok .directory)
    (flat : library.files.IsFlatAt library.stickersDir.place) :
    ∃ names, library.stickers = .ok names ∧ names.Nodup ∧ ∀ name kind, AssetName.check name kind = .ok name →
      (name ∈ names ↔ ∃ file ∈ (AssetRequest.sticker name).fileNames,
        (library.files.node? (library.stickersDir / file).place).isSome = true) ∧
      ((∃ text, library.sticker name = .ok text) ↔ name ∈ names ∧
        (name ++ ".webp").utf8ByteSize ≤ Files.nameLimit ∧
          (library.stickersDir / (name ++ ".webp")).text.utf8ByteSize < Files.pathLimit) := by
  obtain ⟨names, list, once, listed⟩ := exists_stickers there
  refine ⟨names, list, once, fun name kind passes => ?_⟩
  have valid : AssetName.isValid name = true := AssetName.isValid_of_check passes
  refine ⟨listed name valid, ?_⟩
  rw [exists_sticker_iff_of_flat there flat valid, listed name valid]

/-- A heart in both formats is listed once and found, and notes are neither listed nor found. -/
theorem heart_listed : ∃ library : AssetLibrary,
    library = ofSettings {} (shelf ["heart.png", "heart.webp", "notes.txt", "star.png"]) ∧
    library.files.find library.stickersDir = .ok .directory ∧ library.files.IsFlatAt library.stickersDir.place ∧
    AssetName.check "heart" "sticker" = .ok "heart" ∧ AssetName.check "notes" "sticker" = .ok "notes" ∧
    ∃ names, library.stickers = .ok names ∧ names.Nodup ∧
      "heart" ∈ names ∧ library.sticker "heart" = .ok "assets/stickers/heart.webp" ∧
      "notes" ∉ names ∧ library.sticker "notes" = .error (.missingSticker "notes") := by
  refine ⟨_, rfl, find_shelf _, shelf_isFlat _, by decide, by decide, ?_⟩
  obtain ⟨names, list, once, found⟩ := listed_iff_found _ (find_shelf _)
    (shelf_isFlat ["heart.png", "heart.webp", "notes.txt", "star.png"])
  have heart : (ofSettings {} (shelf ["heart.png", "heart.webp", "notes.txt", "star.png"])).sticker
      "heart" = .ok "assets/stickers/heart.webp" := by decide +kernel
  have notes : (ofSettings {} (shelf ["heart.png", "heart.webp", "notes.txt", "star.png"])).sticker
      "notes" = .error (.missingSticker "notes") := by decide +kernel
  have listed := ((found "heart" "sticker" (by decide)).2.mp ⟨_, heart⟩).1
  refine ⟨names, list, once, listed, heart, fun member => ?_, notes⟩
  obtain ⟨text, answered⟩ := (found "notes" "sticker" (by decide)).2.mpr ⟨member, by decide, by
    rw [stickersDir_shelf]
    decide +kernel⟩
  cases notes.symm.trans answered

/-- A sticker with a long proper name is listed for its file, and cannot be found: the path of the preferred file, which
is not there, is too long. -/
theorem longSticker_listed : ∃ name library, name = String.ofList (List.replicate 251 'a') ∧
    library = ofSettings {} (shelf [name ++ ".png"]) ∧
    library.files.find library.stickersDir = .ok .directory ∧ library.files.IsFlatAt library.stickersDir.place ∧
    AssetName.check name "sticker" = .ok name ∧
    ∃ names, library.stickers = .ok names ∧ name ∈ names ∧ ∀ text, library.sticker name ≠ .ok text := by
  obtain ⟨name, letters⟩ : ∃ name, name = String.ofList (List.replicate 251 'a') := ⟨_, rfl⟩
  have valid : AssetName.isValid name = true := by
    rw [letters]
    exact AssetName.isValid_iff.mpr (.inl (AssetName.isProper_replicate (by decide) (by decide)))
  have long : Files.nameLimit < (name ++ ".webp").utf8ByteSize := by
    rw [letters]
    exact long_replicate (by decide)
  have there := find_shelf [name ++ ".png"]
  obtain ⟨names, list, -, listed⟩ := exists_stickers there
  have refused := sticker_of_long there valid long
  refine ⟨name, _, letters, rfl, there, shelf_isFlat _, if_pos valid, names, list, ?_, ?_⟩
  · have named : (AssetRequest.sticker name).isNamed = true := valid
    have candidate : name ++ ".png" ∈ (AssetRequest.sticker name).fileNames :=
      List.mem_cons_of_mem _ List.mem_cons_self
    obtain ⟨part, down, -⟩ := AssetRequest.isPart_fileName named candidate
    exact (listed name valid).mpr ⟨_, candidate, isSome_node?_shelf List.mem_cons_self part down⟩
  · intro text answered
    cases refused.symm.trans answered

end Montage.AssetLibrary
