import Montage.Proofs.Assets
import Montage.Proofs.Result

/-! # Looking up assets

A scene asks for its stickers and then for the fonts of its captions, in the order of their declaration. The
first of them that is refused ends composing, before anything is built.
-/

namespace Montage

/-- A fault is the one of the first request that is refused. -/
def AssetRequest.FirstFault (assets : AssetResolver) (requests : List AssetRequest)
    (fault : AssetFault) : Prop :=
  ∃ before request after, requests = before ++ request :: after ∧
    (∀ earlier ∈ before, ∃ path, earlier.lookup assets = .ok path) ∧ request.lookup assets = .error fault

/-- The assets that a scene asks for: its stickers, then the fonts of its captions, where the settings stand
in for what a caption leaves open. -/
def Scene.requests (settings : Settings) (scene : Scene) : List AssetRequest :=
  scene.stickers.map (fun sticker => .sticker sticker.name) ++ scene.captions.map fun caption =>
    .font (Composition.orElse (some caption.fontFamily) settings.defaultFontFamily)
      (Composition.orElse caption.fontWeight settings.defaultFontWeight)

namespace Composition

variable {assets : AssetResolver} {settings : Settings} {scene : Scene} {kind : MediaKind}
  {fault : AssetFault}

/-- The files of a scene are the answers to its requests. -/
theorem resolveAssets_map :
    (fun paths => paths.1 ++ paths.2) <$> resolveAssets assets settings scene =
      (scene.requests settings).mapM (AssetRequest.lookup assets) := by
  rw [Scene.requests, List.mapM_append, List.mapM_map, List.mapM_map, resolveAssets]
  simp only [map_bind, map_pure]
  rfl

theorem resolveAssets_eq_error : resolveAssets assets settings scene = .error fault ↔
    AssetRequest.FirstFault assets (scene.requests settings) fault := by
  rw [AssetRequest.FirstFault, ← mapM_eq_error, ← resolveAssets_map]
  cases resolveAssets assets settings scene <;> simp [Functor.map, Except.map]

/-- Composing ends with a fault of an asset exactly if looking up the files does. -/
theorem compile_eq_asset_error (kind : MediaKind) :
    compile assets settings scene kind = .error (.asset fault) ↔
      resolveAssets assets settings scene = .error fault := by
  simp only [compile, compileWith, bind_eq_error, mapError_eq_error, mapError_eq_ok, reduceCtorEq,
    and_false, exists_false, or_false, CompositionFault.asset.injEq, exists_eq_right, pure, Except.pure]

/-- Some asset of a scene is refused exactly if there is a first one. -/
theorem exists_firstFault {requests : List AssetRequest} :
    (∃ fault, AssetRequest.FirstFault assets requests fault) ↔
      ∃ request ∈ requests, ∃ fault, request.lookup assets = .error fault := by
  constructor
  · rintro ⟨fault, before, request, after, rfl, -, refused⟩
    exact ⟨request, List.mem_append_right _ List.mem_cons_self, fault, refused⟩
  · rintro ⟨request, member, fault, refused⟩
    cases all : requests.mapM (AssetRequest.lookup assets) with
    | error fault => exact ⟨fault, mapM_eq_error.mp all⟩
    | ok paths =>
      obtain ⟨path, -, found⟩ := exists_of_mem_right (List.Forall₂.flip (mapM_eq_ok.mp all)) member
      rw [refused] at found
      contradiction

end Composition

end Montage
