import Montage.Proofs.Assets.Confinement
import Montage.Proofs.Files.Name

/-! # The list of fonts

A font is listed as a family and a weight, which are read from the name of its file: they stand on the two sides of a
dash. Where one of them is missing there is a word for it, and such a font is listed and is not found under these words,
unless there is a file for them as well.
-/

namespace Montage

/-- The name of the file that stands for a font. -/
def FontName.file (font : FontName) : String := font.family ++ "-" ++ font.weight ++ ".ttf"

/-- A family and a weight with a dash between them, and no other dash. -/
structure FontName.IsWritten (font : FontName) (stem : String) : Prop where
  whole : stem = font.family ++ "-" ++ font.weight
  family : font.family ≠ "" ∧ '-' ∉ font.family.toList
  weight : font.weight ≠ "" ∧ '-' ∉ font.weight.toList

theorem Composition.orElse_eq {text other : String} (some : text ≠ "") : orElse (.some text) other = text := by
  unfold orElse
  split
  · contradiction
  · next empty => exact absurd (Option.some.inj empty) some
  · next same => exact (Option.some.inj same).symm

namespace AssetLibrary

variable {library : AssetLibrary} {names : List String} {file stem : String} {font : FontName}

/-! ## The words for a font -/

theorem fontName_eq (stem : String) : fontName stem =
    ⟨Composition.orElse ((Path.splitAt '-' stem.toList).map String.ofList)[0]? "Unknown",
      Composition.orElse ((Path.splitAt '-' stem.toList).map String.ofList)[1]? "Regular"⟩ := rfl

/-- A family and a weight are read from between which a dash stands. -/
theorem fontName_of_isWritten (written : font.IsWritten stem) : fontName stem = font := by
  obtain ⟨family, weight⟩ := font
  obtain ⟨rfl, ⟨known, one⟩, ⟨heavy, other⟩⟩ := written
  have letters : (family ++ "-" ++ weight).toList = family.toList ++ '-' :: weight.toList := by
    rw [String.toList_append, String.toList_append, List.append_assoc]
    rfl
  rw [fontName_eq, letters, Path.splitAt_word_append one, Path.splitAt_word other]
  simp only [List.map_cons, List.map_nil, String.ofList_toList, List.getElem?_cons_zero, List.getElem?_cons_succ]
  rw [Composition.orElse_eq known, Composition.orElse_eq heavy]

/-- Without a dash there is no weight. -/
theorem fontName_of_undashed (some : stem ≠ "") (plain : '-' ∉ stem.toList) : fontName stem = ⟨stem, "Regular"⟩ := by
  rw [fontName_eq, Path.splitAt_word plain]
  simp only [List.map_cons, List.map_nil, String.ofList_toList, List.getElem?_cons_zero, List.getElem?_cons_succ,
    List.getElem?_nil]
  rw [Composition.orElse_eq some]
  rfl

theorem isProper_orElse {part : Option String} {other : String} (proper : AssetName.IsProper other)
    (plain : ∀ text ∈ part, ∀ c ∈ text.toList, AssetName.isNameChar c = true) :
    AssetName.IsProper (Composition.orElse part other) := by
  unfold Composition.orElse
  split
  · exact proper
  · exact proper
  · next text filled =>
    apply AssetName.isProper_iff.mpr
    refine ⟨?_, plain text rfl⟩
    rintro rfl
    exact filled rfl

/-- The words for a font whose file has a proper name are proper names. -/
theorem isProper_fontName (proper : AssetName.IsProper stem) :
    AssetName.IsProper (fontName stem).family ∧ AssetName.IsProper (fontName stem).weight := by
  have letters := (AssetName.isProper_iff.mp proper).2
  have plain (k : Nat) : ∀ text ∈ ((Path.splitAt '-' stem.toList).map String.ofList)[k]?,
      ∀ c ∈ text.toList, AssetName.isNameChar c = true := by
    intro text found c member
    obtain ⟨piece, part, rfl⟩ := List.mem_map.mp (List.mem_of_getElem? found)
    rw [String.toList_ofList] at member
    exact letters c (Path.subset_of_mem_splitAt part member)
  rw [fontName_eq]
  exact ⟨isProper_orElse (by decide) (plain 0), isProper_orElse (by decide) (plain 1)⟩

/-! ## The fonts that are found -/

/-- Whether the path of a name among the fonts is short enough to be followed. -/
def IsFollowed (library : AssetLibrary) (file : String) : Prop :=
  file.utf8ByteSize ≤ Files.nameLimit ∧ (library.fontsDir / file).text.utf8ByteSize < Files.pathLimit

/-- The files of fonts are regular files. -/
def HasRegularFonts (library : AssetLibrary) (names : List String) : Prop :=
  ∀ file ∈ names, FileName.extension file = fontExtension →
    ∃ content, library.files.node? (library.fontsDir / file).place = some (.file content)

theorem extension_fontFile (font : FontName) : FileName.extension font.file = fontExtension := by
  have some : font.family ++ "-" ++ font.weight ≠ "" := by simp
  rw [FileName.extension, FontName.file, FileName.split_append some rfl (by decide) (by decide)]
  rfl

/-- A font with proper names is found exactly if its file is among the files and can be followed. -/
theorem font_eq_ok_iff (list : library.files.list library.fontsDir = .ok names)
    (regular : library.HasRegularFonts names) (known : AssetName.IsProper font.family)
    (heavy : AssetName.IsProper font.weight) {text : String} :
    library.font (some font.family) (some font.weight) = .ok text ↔
      font.file ∈ names ∧ library.IsFollowed font.file ∧ text = (library.fontsDir / font.file).text := by
  have there := Files.find_of_list list
  have weight : AssetRequest.weightOf font.weight = font.weight := Composition.orElse_eq heavy.filled
  have named : (AssetRequest.font font.family font.weight).isNamed = true := by
    rw [AssetRequest.isNamed, weight, AssetName.isValid_iff.mpr (.inl known), AssetName.isValid_iff.mpr (.inl heavy)]
    rfl
  have only : (AssetRequest.font font.family font.weight).fileNames = [font.file] := by
    rw [AssetRequest.fileNames, AssetRequest.fontFile, weight]
    rfl
  obtain ⟨part, down, plain⟩ := AssetRequest.isPart_fileName named (only ▸ List.mem_singleton_self font.file)
  obtain ⟨listed, same, stands⟩ := Files.exists_list there
  obtain rfl := Except.ok.inj (list.symm.trans same)
  have member : font.file ∈ names ↔ (library.files.node? (library.fontsDir / font.file).place).isSome = true := by
    rw [stands font.file down, Path.place_div part down]
  have other : library.files.node? (library.fontsDir / font.file).place ≠ some .directory := by
    intro directory
    have inside := member.mpr (by rw [directory]; rfl)
    obtain ⟨content, file⟩ := regular font.file inside (extension_fontFile font)
    cases directory.symm.trans file
  have looked := Files.isFile_div there part plain other
  have found : library.font (some font.family) (some font.weight) = .ok text ↔
      library.files.isFile (library.fontsDir / font.file) = .ok true ∧ text = (library.fontsDir / font.file).text := by
    change (AssetRequest.font font.family font.weight).lookup library.resolver = .ok text ↔ _
    rw [AssetRequest.lookup_eq_ok_iff, and_iff_right named, only]
    constructor
    · rintro ⟨file, first, rfl⟩
      cases first with
      | here there => exact ⟨there, rfl⟩
      | later _ none => cases none
    · rintro ⟨there, rfl⟩
      exact ⟨font.file, .here there, rfl⟩
  rw [found, looked, member]
  split
  · next long =>
    apply iff_of_false
    · rintro ⟨same, -⟩
      cases same
    · rintro ⟨-, ⟨short, fits⟩, -⟩
      omega
  · next short =>
    have fits : library.IsFollowed font.file := ⟨by omega, by omega⟩
    rw [Except.ok.injEq, and_iff_right fits]

/-- Of a directory that is there the font files are listed in their order. -/
theorem fonts_of_list (list : library.files.list library.fontsDir = .ok names) :
    library.fonts = .ok ((names.filter fun file => FileName.extension file = fontExtension).map fun file =>
      fontName (FileName.stem file)) := by
  have listed : library.listed library.fontsDir = .ok names := by
    rw [AssetLibrary.listed, list]
    rfl
  rw [fonts, listed, ← List.filterMap_eq_map, List.filterMap_filter]
  simp only [decide_eq_true_eq]
  rfl

/-- What holds of a font that is listed for a file. -/
structure IsListed (library : AssetLibrary) (names : List String) (file : String) : Prop where
  /-- The words for it are found exactly if they stand for a file that can be followed, and then as this file. -/
  found : ∀ text, library.font (some (fontName (FileName.stem file)).family)
      (some (fontName (FileName.stem file)).weight) = .ok text ↔
    (fontName (FileName.stem file)).file ∈ names ∧ library.IsFollowed (fontName (FileName.stem file)).file ∧
      text = (library.fontsDir / (fontName (FileName.stem file)).file).text
  /-- A family and a weight with a dash between them are its words, and are found as the file that it is listed for. -/
  written : ∀ font : FontName, font.IsWritten (FileName.stem file) → fontName (FileName.stem file) = font ∧
    (library.font (some font.family) (some font.weight) = .ok (library.fontsDir / file).text ↔
      library.IsFollowed file)
  /-- Without a dash there is no weight in the name of the file, and it is called regular. -/
  unweighted : '-' ∉ (FileName.stem file).toList → fontName (FileName.stem file) = ⟨FileName.stem file, "Regular"⟩

/-- In a directory whose font files are regular files with proper names, each of these files is listed, and the words
for it are found exactly if there is a file for them. This is the file itself where its name has a family and a weight
with one dash between them. -/
theorem fonts_found (library : AssetLibrary) (list : library.files.list library.fontsDir = .ok names)
    (regular : library.HasRegularFonts names)
    (proper : ∀ file ∈ names, FileName.extension file = fontExtension → AssetName.IsProper (FileName.stem file)) :
    library.fonts = .ok ((names.filter fun file => FileName.extension file = fontExtension).map fun file =>
        fontName (FileName.stem file)) ∧
      ∀ file ∈ names, FileName.extension file = fontExtension → library.IsListed names file := by
  refine ⟨fonts_of_list list, ?_⟩
  intro file member extension
  have own := proper file member extension
  obtain ⟨known, heavy⟩ := isProper_fontName own
  constructor
  · intro text
    exact font_eq_ok_iff list regular known heavy
  · intro font written
    obtain rfl := fontName_of_isWritten written
    have same : (fontName (FileName.stem file)).file = file := by
      calc (fontName (FileName.stem file)).file = FileName.stem file ++ ".ttf" := by
            rw [FontName.file, ← written.whole]
        _ = FileName.stem file ++ FileName.extension file := by rw [extension]; rfl
        _ = file := FileName.stem_append_extension file
    rw [font_eq_ok_iff list regular known heavy, same, and_iff_right member, and_iff_left rfl]
    exact ⟨rfl, Iff.rfl⟩
  · intro plain
    exact fontName_of_undashed own.filled plain

/-! ## Fonts in a case -/

/-- A fonts directory in which files of some names stand. -/
def typeCase (names : List String) : Files where
  entries := (⟨"", ["assets"]⟩, .directory) :: (⟨"", ["assets", "fonts"]⟩, .directory) ::
    names.map fun name => (⟨"", ["assets", "fonts", name]⟩, .file ByteArray.empty)

theorem fontsDir_typeCase (names : List String) :
    (ofSettings {} (typeCase names)).fontsDir = ⟨"", ["assets", "fonts"]⟩ := by
  have read : Settings.fontsDir {} = ⟨"", ["assets", "fonts"]⟩ := by decide
  exact read

theorem list_typeCase (names : List String) (sorted : names.Pairwise (· ≤ ·)) :
    (typeCase names).list (ofSettings {} (typeCase names)).fontsDir = .ok names := by
  rw [fontsDir_typeCase]
  apply Files.list_of_sorted rfl _ (sorted.imp fun le => decide_eq_true le)
  rw [typeCase, List.filterMap_cons_none rfl, List.filterMap_cons_none rfl, List.filterMap_map]
  exact List.filterMap_some

/-- Of two fonts with their weights and one without, the first two are found and the last one is listed as regular. -/
theorem poppins_found : ∃ library : AssetLibrary,
    library = ofSettings {} (typeCase ["Inter.ttf", "Poppins-Bold.ttf", "Poppins-Medium.ttf"]) ∧
    library.files.list library.fontsDir = .ok ["Inter.ttf", "Poppins-Bold.ttf", "Poppins-Medium.ttf"] ∧
    library.HasRegularFonts ["Inter.ttf", "Poppins-Bold.ttf", "Poppins-Medium.ttf"] ∧
    library.fonts = .ok [⟨"Inter", "Regular"⟩, ⟨"Poppins", "Bold"⟩, ⟨"Poppins", "Medium"⟩] ∧
    library.font (some "Poppins") (some "Bold") = .ok "assets/fonts/Poppins-Bold.ttf" := by
  have list := list_typeCase ["Inter.ttf", "Poppins-Bold.ttf", "Poppins-Medium.ttf"] (by decide)
  have regular : (ofSettings {} (typeCase ["Inter.ttf", "Poppins-Bold.ttf", "Poppins-Medium.ttf"])).HasRegularFonts
      ["Inter.ttf", "Poppins-Bold.ttf", "Poppins-Medium.ttf"] := by
    rintro file member -
    rw [fontsDir_typeCase]
    simp only [List.mem_cons, List.not_mem_nil, or_false] at member
    rcases member with rfl | rfl | rfl
    · exact ⟨_, rfl⟩
    · exact ⟨_, rfl⟩
    · exact ⟨_, rfl⟩
  have proper : ∀ file ∈ ["Inter.ttf", "Poppins-Bold.ttf", "Poppins-Medium.ttf"],
      FileName.extension file = fontExtension → AssetName.IsProper (FileName.stem file) := by decide +kernel
  obtain ⟨fonts, each⟩ := fonts_found _ list regular proper
  have bold := each "Poppins-Bold.ttf" (by decide) (by decide +kernel)
  have written : FontName.IsWritten ⟨"Poppins", "Bold"⟩ (FileName.stem "Poppins-Bold.ttf") :=
    ⟨by decide +kernel, by decide, by decide⟩
  have path : ((ofSettings {} (typeCase ["Inter.ttf", "Poppins-Bold.ttf", "Poppins-Medium.ttf"])).fontsDir /
      "Poppins-Bold.ttf").text = "assets/fonts/Poppins-Bold.ttf" := by decide +kernel
  refine ⟨_, rfl, list, regular, fonts.trans (by decide +kernel), ?_⟩
  rw [← path]
  apply (bold.written _ written).2.mpr
  constructor
  · decide
  · rw [path]
    decide

/-- A font whose file has no weight in its name is listed as regular, and is not found as such. -/
theorem plainInter_missing : ∃ library : AssetLibrary, library = ofSettings {} (typeCase ["Inter.ttf"]) ∧
    library.files.list library.fontsDir = .ok ["Inter.ttf"] ∧ library.HasRegularFonts ["Inter.ttf"] ∧
    AssetName.IsProper (FileName.stem "Inter.ttf") ∧ library.fonts = .ok [⟨"Inter", "Regular"⟩] ∧
    library.font (some "Inter") (some "Regular") = .error (.missingFont "Inter-Regular.ttf") := by
  have list := list_typeCase ["Inter.ttf"] (by decide)
  refine ⟨_, rfl, list, ?_, by decide +kernel, (fonts_of_list list).trans (by decide +kernel), by decide +kernel⟩
  rintro file member -
  obtain rfl := List.mem_singleton.mp member
  rw [fontsDir_typeCase]
  exact ⟨_, rfl⟩

end AssetLibrary

end Montage
