import Montage.Proofs.Assets.Name
import Montage.Proofs.Files.Length

/-! # What the library answers

A request for an asset is answered by its names and by the files alone: a name may not pass, there may be no
file, and a path may be too long to be followed. The first two have codes that clients are told; the last
one has none.
-/

namespace Montage

/-- The code that clients tell a refused asset by; a path that cannot be followed has none. -/
def AssetFault.code? : AssetFault → Option String
  | .invalidName .. => some (FaultKind.code .invalidAssetName)
  | .missingSticker _ | .missingFont _ => some (FaultKind.code .missingAsset)
  | .unreachable _ => none

/-- An asset that a scene asks for. -/
inductive AssetRequest where
  | sticker (name : String)
  | font (family weight : String)

namespace AssetRequest

/-- What a resolver answers to a request. -/
def lookup (assets : AssetResolver) : AssetRequest → Except AssetFault String
  | .sticker name => assets.sticker name
  | .font family weight => assets.font family weight

end AssetRequest

namespace AssetRequest

variable {library : AssetLibrary}

/-- The weight of a font that is asked for, or the usual one. -/
def weightOf (weight : String) : String := Composition.orElse (some weight) AssetLibrary.defaultWeight

/-- The name of the file of a font. -/
def fontFile (family weight : String) : String :=
  family ++ "-" ++ weightOf weight ++ AssetLibrary.fontExtension

/-- Whether the names of a request pass. -/
def isNamed : AssetRequest → Bool
  | .sticker name => AssetName.isValid name
  | .font family weight => AssetName.isValid family && AssetName.isValid (weightOf weight)

/-- The refusal of names that do not pass. -/
def misnamed : AssetRequest → AssetFault
  | .sticker name => .invalidName "sticker" name
  | .font family weight => .invalidName "font" (family ++ "-" ++ weightOf weight)

/-- The paths of the files that can stand behind a request, the preferred one first. -/
def paths (library : AssetLibrary) : AssetRequest → List Path
  | .sticker name =>
    AssetLibrary.stickerExtensions.map fun extension => library.stickersDir / (name ++ extension)
  | .font family weight => [library.fontsDir / fontFile family weight]

/-- The refusal of a request behind which no file stands. -/
def missing : AssetRequest → AssetFault
  | .sticker name => .missingSticker name
  | .font family weight => .missingFont (fontFile family weight)

/-- Whether the library has a file for a request. -/
def Resolves (library : AssetLibrary) (request : AssetRequest) : Prop :=
  request.isNamed = true ∧ ∃ path ∈ request.paths library, library.files.isFile path = .ok true

/-- Whether all paths of a request can be followed. -/
def IsReachable (library : AssetLibrary) (request : AssetRequest) : Prop :=
  ∀ path ∈ request.paths library, ∃ there, library.files.isFile path = .ok there

/-- The answers that a library can give to a request. -/
inductive Answer (library : AssetLibrary) (request : AssetRequest) : Except AssetFault String → Prop
  | misnamed (bad : request.isNamed = false) : Answer library request (.error request.misnamed)
  | found {path : Path} (named : request.isNamed = true) (candidate : path ∈ request.paths library)
      (there : library.files.isFile path = .ok true) : Answer library request (.ok path.text)
  | missing (named : request.isNamed = true)
      (absent : ∀ path ∈ request.paths library, library.files.isFile path = .ok false) :
      Answer library request (.error request.missing)
  | unreachable {path : Path} {text : String} (named : request.isNamed = true)
      (candidate : path ∈ request.paths library)
      (beyond : library.files.isFile path = .error (.tooLong text)) :
      Answer library request (.error (.unreachable (.tooLong text)))

/-- Paths are tried one after the other until one leads to a file or cannot be followed. -/
theorem findM?_holds (library : AssetLibrary) (paths : List Path) :
    (∃ path ∈ paths, library.files.isFile path = .ok true ∧
      paths.findM? library.holds = .ok (some path)) ∨
    ((∀ path ∈ paths, library.files.isFile path = .ok false) ∧ paths.findM? library.holds = .ok none) ∨
    ∃ path ∈ paths, ∃ text, library.files.isFile path = .error (.tooLong text) ∧
      paths.findM? library.holds = .error (.unreachable (.tooLong text)) := by
  induction paths with
  | nil => exact .inr (.inl ⟨List.forall_mem_nil _, rfl⟩)
  | cons path rest ih =>
    rw [List.findM?, AssetLibrary.holds]
    cases here : library.files.isFile path with
    | error fault =>
      obtain ⟨text, rfl⟩ := Files.isFile_eq_error here
      exact .inr (.inr ⟨path, List.mem_cons_self, text, here, rfl⟩)
    | ok there =>
      cases there with
      | true => exact .inl ⟨path, List.mem_cons_self, here, rfl⟩
      | false =>
        rcases ih with ⟨other, member, there, found⟩ | ⟨absent, none⟩ | ⟨other, member, text, beyond, refused⟩
        · exact .inl ⟨other, List.mem_cons_of_mem _ member, there, found⟩
        · exact .inr (.inl ⟨List.forall_mem_cons.mpr ⟨here, absent⟩, none⟩)
        · exact .inr (.inr ⟨other, List.mem_cons_of_mem _ member, text, beyond, refused⟩)

/-- The answer to a request after the search among its paths. -/
def answer (request : AssetRequest) : Option Path → Except AssetFault String
  | some path => .ok path.text
  | none => .error request.missing

/-- A request whose names pass is answered after the search among its paths. -/
theorem lookup_eq (library : AssetLibrary) (request : AssetRequest) : request.lookup library.resolver =
    if request.isNamed then ((request.paths library).findM? library.holds).bind request.answer
    else .error request.misnamed := by
  cases request with
  | sticker name =>
    change library.sticker name = _
    unfold AssetLibrary.sticker AssetName.check
    rw [isNamed, paths]
    cases AssetName.isValid name with
    | false => rfl
    | true =>
      dsimp only [bind, Except.bind, if_true]
      cases (AssetLibrary.stickerExtensions.map fun extension =>
        library.stickersDir / (name ++ extension)).findM? library.holds with
      | error fault => rfl
      | ok found => cases found <;> rfl
  | font family weight =>
    have shape : (AssetRequest.font family weight).lookup library.resolver =
        if (AssetRequest.font family weight).isNamed then
          (library.holds (library.fontsDir / fontFile family weight)).bind fun found =>
            if found then .ok (library.fontsDir / fontFile family weight).text
            else .error (AssetRequest.font family weight).missing
        else .error (AssetRequest.font family weight).misnamed := rfl
    rw [shape, paths, List.findM?]
    cases library.holds (library.fontsDir / fontFile family weight) with
    | error fault => rfl
    | ok there => cases there <;> rfl

/-- What the library answers to a request depends on its names and on the files alone. -/
theorem lookup_answer (library : AssetLibrary) (request : AssetRequest) :
    Answer library request (request.lookup library.resolver) := by
  rw [lookup_eq]
  cases named : request.isNamed with
  | false => exact .misnamed named
  | true =>
    rw [if_pos rfl]
    rcases findM?_holds library (request.paths library) with ⟨path, candidate, there, found⟩ | ⟨absent, nothing⟩ |
      ⟨path, candidate, text, beyond, refused⟩
    · rw [found]
      exact .found named candidate there
    · rw [nothing]
      exact .missing named absent
    · rw [refused]
      exact .unreachable named candidate beyond

/-- A request whose paths can be followed is refused exactly if the library has no file for it. -/
theorem refused_iff {request : AssetRequest} (reachable : request.IsReachable library) :
    (∃ fault, request.lookup library.resolver = .error fault) ↔ ¬request.Resolves library := by
  have answer := lookup_answer library request
  generalize request.lookup library.resolver = answered at answer ⊢
  cases answer with
  | misnamed bad =>
    refine iff_of_true ⟨_, rfl⟩ fun resolves => ?_
    rw [resolves.1] at bad
    contradiction
  | found named candidate there => exact iff_of_false nofun (not_not_intro ⟨named, _, candidate, there⟩)
  | missing named absent =>
    refine iff_of_true ⟨_, rfl⟩ fun ⟨_, path, candidate, there⟩ => ?_
    exact absurd (Except.ok.inj ((absent path candidate).symm.trans there)) Bool.false_ne_true
  | unreachable named candidate beyond =>
    obtain ⟨there, followed⟩ := reachable _ candidate
    rw [beyond] at followed
    contradiction

/-- A refusal without a code is that of a path that is too long. -/
theorem code?_eq_none {request : AssetRequest} {fault : AssetFault}
    (refused : request.lookup library.resolver = .error fault) :
    fault.code? = none ↔ ∃ text, fault = .unreachable (.tooLong text) := by
  have answer := lookup_answer library request
  rw [refused] at answer
  cases answer with
  | misnamed | missing => cases request <;> exact iff_of_false nofun nofun
  | unreachable => exact iff_of_true rfl ⟨_, rfl⟩

end AssetRequest

end Montage
