import Montage.Proofs.Assets
import Montage.Proofs.Files.Child

/-! # Assets stay in their directory

Names that pass hold no slash, no null character and no point of their own, so a file that is looked for under them is
one component below the directory of its kind, whatever the names are. The preferred file is returned if it is there,
and the next one only if it is not. Where none is, the asset is missing, unless the name of a file that is asked for
is too long: then nothing can be told about it.
-/

namespace Montage

/-- The first of some names in a directory under which a file is there. -/
inductive Files.IsFirst (files : Files) (directory : Path) : List String → String → Prop
  | here {file : String} {rest : List String} (there : files.isFile (directory / file) = .ok true) :
      IsFirst files directory (file :: rest) file
  | later {other file : String} {rest : List String} (absent : files.isFile (directory / other) = .ok false)
      (next : IsFirst files directory rest file) : IsFirst files directory (other :: rest) file

namespace AssetRequest

variable {library : AssetLibrary} {request : AssetRequest} {file text : String}

/-- The directory in which a request looks for its file. -/
def directory (library : AssetLibrary) : AssetRequest → Path
  | .sticker _ => library.stickersDir
  | .font _ _ => library.fontsDir

/-- The names of the files that can stand behind a request, the preferred one first. -/
def fileNames : AssetRequest → List String
  | .sticker name => [name ++ ".webp", name ++ ".png"]
  | .font family weight => [fontFile family weight]

/-- What holds of every answer to a request. -/
structure IsConfined (library : AssetLibrary) (request : AssetRequest) : Prop where
  /-- The path of the first file that is there is returned, and no other one. -/
  found : ∀ text, request.lookup library.resolver = .ok text ↔ request.isNamed = true ∧
    ∃ file, library.files.IsFirst (request.directory library) request.fileNames file ∧
      text = (request.directory library / file).text
  /-- What is returned is one component in the directory of the request, and leads to what is there under it. -/
  inside : ∀ text, request.lookup library.resolver = .ok text → ∃ file ∈ request.fileNames,
    Path.ofText text =
        ⟨(request.directory library).root, (request.directory library).parts ++ [file]⟩ ∧
      (Path.ofText text).place =
        { (request.directory library).place with parts := (request.directory library).place.parts ++ [file] }
  /-- Names that do not pass are refused. -/
  misnamed : request.isNamed = false → request.lookup library.resolver = .error request.misnamed
  /-- Without a file the asset is missing, exactly if all its paths can be followed. -/
  missing : request.isNamed = true →
    (∀ file ∈ request.fileNames, library.files.isFile (request.directory library / file) ≠ .ok true) →
    (request.lookup library.resolver = .error request.missing ↔
      ∀ file ∈ request.fileNames, ∃ there, library.files.isFile (request.directory library / file) = .ok there)
  /-- In a directory that is there a path can be followed exactly if it is not too long. -/
  followed : request.isNamed = true → library.files.find (request.directory library) = .ok .directory →
    ∀ file ∈ request.fileNames,
      ((∃ there, library.files.isFile (request.directory library / file) = .ok there) ↔
        file.utf8ByteSize ≤ Files.nameLimit ∧
          (request.directory library / file).text.utf8ByteSize < Files.pathLimit)

theorem paths_eq (library : AssetLibrary) (request : AssetRequest) :
    request.paths library = request.fileNames.map fun file => request.directory library / file := by
  cases request <;> rfl

/-! ## Names of files -/

/-- The characters in the names of files: those of names, the line break that may end a name, and a point. -/
def isFileChar (c : Char) : Bool := AssetName.isNameChar c || c = '\n' || c = '.'

theorem all_isFileChar_of_isValid {name : String} (valid : AssetName.isValid name = true) :
    name.toList.all isFileChar = true := by
  rw [List.all_eq_true]
  intro c member
  rcases AssetName.mem_of_isValid valid member with good | rfl
  · rw [isFileChar, good, Bool.true_or, Bool.true_or]
  · rfl

theorem all_isFileChar (named : request.isNamed = true) (candidate : file ∈ request.fileNames) :
    file.toList.all isFileChar = true := by
  cases request with
  | sticker name =>
    have letters := all_isFileChar_of_isValid named
    rcases List.mem_pair.mp candidate with rfl | rfl
    · rw [String.toList_append, List.all_append, letters]
      rfl
    · rw [String.toList_append, List.all_append, letters]
      rfl
  | font family weight =>
    obtain ⟨known, heavy⟩ := Bool.and_eq_true_iff.mp named
    obtain rfl := List.mem_singleton.mp candidate
    rw [fontFile, String.toList_append, String.toList_append, String.toList_append, List.all_append, List.all_append,
      List.all_append, all_isFileChar_of_isValid known, all_isFileChar_of_isValid heavy]
    rfl

/-- Every name of a file ends with an extension. -/
theorem le_length_fileName (candidate : file ∈ request.fileNames) : 4 ≤ file.utf8ByteSize := by
  have extended (front : String) {extension : String} (long : 4 ≤ extension.utf8ByteSize) :
      4 ≤ (front ++ extension).utf8ByteSize := by
    rw [String.utf8ByteSize_append]
    omega
  cases request with
  | sticker name =>
    rcases List.mem_pair.mp candidate with rfl | rfl
    · exact extended _ (by decide)
    · exact extended _ (by decide)
  | font family weight =>
    obtain rfl := List.mem_singleton.mp candidate
    exact extended _ (by decide)

/-- The name of a file is one component of a path, and no step upwards. -/
theorem isPart_fileName (named : request.isNamed = true) (candidate : file ∈ request.fileNames) :
    Path.IsPart file ∧ file ≠ ".." ∧ '\x00' ∉ file.toList := by
  have long := le_length_fileName candidate
  have letters := List.all_eq_true.mp (all_isFileChar named candidate)
  have apart {c : Char} (other : isFileChar c = false) : c ∉ file.toList := fun member =>
    Bool.false_ne_true (other.symm.trans (letters c member))
  have unlike {step : String} (short : step.utf8ByteSize < 4) : file ≠ step := by
    rintro rfl
    omega
  exact ⟨⟨unlike (by decide), unlike (by decide), apart rfl⟩, unlike (by decide), apart rfl⟩

/-! ## The search among the paths -/

theorem holds_eq_ok {path : Path} {there : Bool} :
    library.holds path = .ok there ↔ library.files.isFile path = .ok there := mapError_eq_ok

theorem findM?_eq_some_iff {directory path : Path} {names : List String} :
    (names.map fun file => directory / file).findM? library.holds = .ok (some path) ↔
      ∃ file, library.files.IsFirst directory names file ∧ path = directory / file := by
  induction names with
  | nil =>
    apply iff_of_false
    · intro same
      cases same
    · rintro ⟨file, first, -⟩
      cases first
  | cons other rest ih =>
    rw [List.map_cons, List.findM?, bind_eq_ok]
    constructor
    · rintro ⟨there, looked, found⟩
      rw [holds_eq_ok] at looked
      cases there with
      | true =>
        cases found
        exact ⟨other, .here looked, rfl⟩
      | false =>
        obtain ⟨file, first, same⟩ := ih.mp found
        exact ⟨file, .later looked first, same⟩
    · rintro ⟨file, first, rfl⟩
      cases first with
      | here there => exact ⟨true, holds_eq_ok.mpr there, rfl⟩
      | later absent next => exact ⟨false, holds_eq_ok.mpr absent, ih.mpr ⟨file, next, rfl⟩⟩

theorem findM?_eq_none_iff {paths : List Path} : paths.findM? library.holds = .ok none ↔
    ∀ path ∈ paths, library.files.isFile path = .ok false := by
  induction paths with
  | nil => exact iff_of_true rfl (List.forall_mem_nil _)
  | cons path rest ih =>
    rw [List.findM?, bind_eq_ok, List.forall_mem_cons, ← ih]
    constructor
    · rintro ⟨there, looked, nothing⟩
      cases there with
      | true => cases nothing
      | false => exact ⟨holds_eq_ok.mp looked, nothing⟩
    · rintro ⟨absent, nothing⟩
      exact ⟨false, holds_eq_ok.mpr absent, nothing⟩

end AssetRequest

theorem Files.IsFirst.mem {files : Files} {directory : Path} {names : List String} {file : String}
    (first : files.IsFirst directory names file) : file ∈ names := by
  induction first with
  | here there => exact List.mem_cons_self
  | later absent next ih => exact List.mem_cons_of_mem _ ih

namespace AssetRequest

variable {library : AssetLibrary} {request : AssetRequest} {file text : String}

/-- A path is the answer if it is that of the first file that is there. -/
theorem lookup_eq_ok_iff : request.lookup library.resolver = .ok text ↔ request.isNamed = true ∧
    ∃ file, library.files.IsFirst (request.directory library) request.fileNames file ∧
      text = (request.directory library / file).text := by
  rw [lookup_eq, paths_eq]
  cases request.isNamed with
  | false =>
    apply iff_of_false
    · intro same
      cases same
    · intro both
      exact Bool.false_ne_true both.1
  | true =>
    rw [if_pos rfl, and_iff_right rfl]
    refine bind_eq_ok.trans ⟨?_, ?_⟩
    · rintro ⟨found, searched, answered⟩
      cases found with
      | none => cases answered
      | some path =>
        cases answered
        obtain ⟨file, first, rfl⟩ := findM?_eq_some_iff.mp searched
        exact ⟨file, first, rfl⟩
    · rintro ⟨file, first, rfl⟩
      exact ⟨some _, findM?_eq_some_iff.mpr ⟨file, first, rfl⟩, rfl⟩

/-- Nothing is missing but what is looked for in vain everywhere. -/
theorem lookup_eq_missing_iff (named : request.isNamed = true) :
    request.lookup library.resolver = .error request.missing ↔
      ∀ path ∈ request.paths library, library.files.isFile path = .ok false := by
  rw [lookup_eq, if_pos named, ← findM?_eq_none_iff]
  constructor
  · intro answered
    rcases findM?_holds library (request.paths library) with ⟨path, -, -, found⟩ | ⟨-, nothing⟩ |
      ⟨path, -, text, -, refused⟩
    · rw [found] at answered
      cases answered
    · exact nothing
    · -- A search that breaks off tells of a path, and never that the asset is missing.
      rw [refused] at answered
      cases request with
      | sticker name => cases answered
      | font family weight => cases answered
  · intro nothing
    rw [nothing]
    rfl

theorem directory_isRead (settings : Settings) (files : Files) (request : AssetRequest) :
    (request.directory (AssetLibrary.ofSettings settings files)).IsRead := by
  cases request with
  | sticker name => exact (Path.ofText_isRead _).div _
  | font family weight => exact (Path.ofText_isRead _).div _

/-- Whatever the settings and the files are, and whatever names are given, an asset is looked for in its own directory
alone. -/
theorem lookup_isConfined (settings : Settings) (files : Files) (request : AssetRequest) :
    request.IsConfined (AssetLibrary.ofSettings settings files) where
  found text := lookup_eq_ok_iff
  inside text answered := by
    obtain ⟨named, file, first, rfl⟩ := lookup_eq_ok_iff.mp answered
    obtain ⟨part, down, -⟩ := isPart_fileName named first.mem
    rw [((directory_isRead settings files request).div file).ofText_text]
    exact ⟨file, first.mem, Path.div_part part, Path.place_div part down⟩
  misnamed bad := by rw [lookup_eq, bad, if_neg Bool.false_ne_true]
  missing named nowhere := by
    rw [lookup_eq_missing_iff named, paths_eq, List.forall_mem_map]
    refine forall₂_congr fun file candidate => ⟨fun absent => ⟨false, absent⟩, ?_⟩
    rintro ⟨there, looked⟩
    cases there with
    | true => exact absurd looked (nowhere file candidate)
    | false => exact looked
  followed named there file candidate := by
    obtain ⟨part, -, plain⟩ := isPart_fileName named candidate
    exact Files.isFile_isOk_iff there part plain

end AssetRequest

namespace AssetLibrary

variable {library : AssetLibrary}

/-- A sticker whose name passes is not looked for when the name of its file is too long: neither a file nor its absence
is found. -/
theorem sticker_of_long {name : String} (there : library.files.find library.stickersDir = .ok .directory)
    (valid : AssetName.isValid name = true) (long : Files.nameLimit < (name ++ ".webp").utf8ByteSize) :
    library.sticker name = .error (.unreachable (.tooLong (library.stickersDir / (name ++ ".webp")).text)) := by
  have named : (AssetRequest.sticker name).isNamed = true := valid
  obtain ⟨part, -, plain⟩ := AssetRequest.isPart_fileName named List.mem_cons_self
  have beyond := Files.isFile_of_long there part plain long
  have looked := AssetRequest.lookup_eq library (.sticker name)
  rw [if_pos named, AssetRequest.paths_eq, AssetRequest.fileNames, List.map_cons, List.findM?, holds,
    AssetRequest.directory, beyond] at looked
  exact looked

theorem long_replicate {count : Nat} (many : 251 ≤ count) :
    Files.nameLimit < (String.ofList (List.replicate count 'a') ++ ".webp").utf8ByteSize := by
  have letter : 'a'.utf8Size = 1 := by decide
  have extension : ".webp".utf8ByteSize = 5 := by decide
  rw [String.utf8ByteSize_append, AssetName.utf8ByteSize_replicate, letter, extension, Files.nameLimit]
  omega

/-- A stickers directory in which files of some names stand. -/
def shelf (names : List String) : Files where
  entries := (⟨"", ["assets"]⟩, .directory) :: (⟨"", ["assets", "stickers"]⟩, .directory) ::
    names.map fun name => (⟨"", ["assets", "stickers", name]⟩, .file ByteArray.empty)

theorem stickersDir_shelf (names : List String) :
    (ofSettings {} (shelf names)).stickersDir = ⟨"", ["assets", "stickers"]⟩ := by
  have read : Settings.stickersDir {} = ⟨"", ["assets", "stickers"]⟩ := by decide
  exact read

theorem find_shelf (names : List String) :
    (shelf names).find (ofSettings {} (shelf names)).stickersDir = .ok .directory := by
  rw [stickersDir_shelf]
  rfl

/-- On an empty shelf a sticker with a long proper name is not missing, since its file cannot be looked for. -/
theorem longSticker_notMissing : ∃ name, name = String.ofList (List.replicate 252 'a') ∧ AssetName.IsProper name ∧
    (AssetRequest.sticker name).lookup (ofSettings {} (shelf [])).resolver ≠ .error (.missingSticker name) := by
  obtain ⟨name, letters⟩ : ∃ name, name = String.ofList (List.replicate 252 'a') := ⟨_, rfl⟩
  have proper : AssetName.IsProper name := by
    rw [letters]
    exact AssetName.isProper_replicate (by decide) (by decide)
  have long : Files.nameLimit < (name ++ ".webp").utf8ByteSize := by
    rw [letters]
    exact long_replicate (by decide)
  have refused := sticker_of_long (find_shelf []) (AssetName.isValid_iff.mpr (.inl proper)) long
  refine ⟨name, letters, proper, fun missing => ?_⟩
  cases refused.symm.trans missing

end AssetLibrary

end Montage
