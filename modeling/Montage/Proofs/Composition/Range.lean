import Montage.Proofs.Caption.Layout
import Montage.Proofs.Color
import Montage.Proofs.Composition.Soundness
import Montage.Proofs.Form.Composition

/-! # Which accepted scenes are composed

An accepted scene whose files are found is composed unless one of its numbers is out of range: a number
of a crop that counts, a channel of a colour, or the share of the canvas that a caption's width asks for.
Coordinates, sizes, scales, rotations, opacities and texts are never refused.
-/

namespace Montage

/-- A crop that counts, because its width and height are given, has no infinite number. -/
def Crop.FitsRange (crop : Crop) : Prop :=
  ∀ width height, crop.width = some width → crop.height = some height →
    width.isFinite = true ∧ height.isFinite = true ∧
      (∀ x, crop.x = some x → x.isFinite = true) ∧ ∀ y, crop.y = some y → y.isFinite = true

/-- A caption's width and colours are in range. -/
@[mk_iff]
structure Caption.FitsRange (caption : Caption) (canvas : Canvas) : Prop where
  width : caption.FitsWidth canvas
  color : ∀ text, caption.color = some text → Color.FitsRange text
  background : ∀ text, caption.backgroundColor = some text → Color.FitsRange text

/-- No number of a scene that has to become an integer is out of range. -/
@[mk_iff]
structure Scene.FitsRange (scene : Scene) : Prop where
  crop : ∀ crop, scene.content.crop = some crop → crop.FitsRange
  background : ∀ text, scene.backgroundColor = some text → Color.FitsRange text
  captions : ∀ caption ∈ scene.captions, caption.FitsRange scene.canvas

namespace Composition

open RangeFault

theorem resolveText_hinges (text : Option String) :
    Hinges integerOfInfinity (∀ s, text = some s → Color.FitsRange s) (fun _ => True)
      (Color.resolveText text) := by
  cases text with
  | none => exact ⟨nofun, trivial⟩
  | some s => exact (Color.resolve_hinges s).of_iff (by simp)

/-- A number that is left out or zero is rounded as zero. -/
theorem roundGiven_hinges {x : Option Binary64} (number : ∀ a, x = some a → a ≠ .nan) :
    Hinges integerOfInfinity (∀ a, x = some a → a.isFinite = true) (fun _ => True)
      (roundHalfUp ((given? x).getD .zero)) := by
  have none : (roundHalfUp .zero) = .ok 0 := by decide +kernel
  cases x with
  | none => exact (Hinges.of_eq_ok none trivial).of_iff (by simp)
  | some a =>
    cases zero : a.isZero with
    | true =>
      have finite : a.isFinite = true :=
        Binary64.isFinite_iff.mpr ⟨0, beq_iff_eq.mp zero⟩
      have dropped : given? (some a) = .none := by simp [given?, zero]
      rw [dropped]
      exact (Hinges.of_eq_ok none trivial).of_iff (by simp [finite])
    | false =>
      have kept : given? (some a) = some a := by simp [given?, zero]
      rw [kept]
      exact (roundHalfUp_hinges (number a rfl)).forget.of_iff (by simp)

theorem given?_eq {side : Option Binary64}
    (proper : ∀ a, side = some a → a ≠ .nan ∧ a.isZero = false) : given? side = side := by
  cases side with
  | none => rfl
  | some a => simp [given?, (proper a rfl).2]

/-- A proper crop has its filter exactly if its numbers are finite. -/
theorem cropFilters_hinges {crop : Option Crop} (proper : ∀ cut, crop = some cut → cut.IsProper) :
    Hinges integerOfInfinity (∀ cut, crop = some cut → cut.FitsRange) (fun _ => True)
      (cropFilters crop) := by
  cases crop with
  | none => exact ⟨by simp, trivial⟩
  | some crop =>
    have sides := proper crop rfl
    unfold cropFilters
    dsimp only
    rw [given?_eq sides.width, given?_eq sides.height]
    cases hwidth : crop.width with
    | none => exact ⟨by simp [Crop.FitsRange, hwidth], trivial⟩
    | some width =>
      cases hheight : crop.height with
      | none => exact ⟨by simp [Crop.FitsRange, hheight], trivial⟩
      | some height =>
        refine ((roundHalfUp_hinges (sides.width width hwidth).1).bind fun _ _ =>
          (roundHalfUp_hinges (sides.height height hheight).1).bind fun _ _ =>
          (roundGiven_hinges sides.x).bind fun _ _ =>
          (roundGiven_hinges sides.y).followed fun _ _ => ⟨_, rfl, trivial⟩).of_iff ?_
        simp [Crop.FitsRange, hwidth, hheight]

/-- The text of a caption is drawn exactly if its colours are in range. -/
theorem drawFilter_hinges (renderer : Caption.Renderer) (caption : Caption)
    (prepared : Caption.Prepared) (layout : Caption.Layout) (fontPath : String) :
    Hinges integerOfInfinity ((∀ text, caption.color = some text → Color.FitsRange text) ∧
        ∀ text, caption.backgroundColor = some text → Color.FitsRange text) (fun _ => True)
      (renderer.drawFilter caption prepared layout fontPath) := by
  refine (resolveText_hinges caption.color).bind fun color _ => ?_
  split
  · next none => exact (Hinges.of_eq_ok rfl trivial).of_iff (by simp [none])
  · next empty =>
    have fits : Color.FitsRange "" := fun call found => by simp [Color.findCall?] at found
    exact (Hinges.of_eq_ok rfl trivial).of_iff (by simp [empty, fits])
  · next text _ given =>
    have fits : Color.FitsRange text ↔
        ∀ other, caption.backgroundColor = some other → Color.FitsRange other := by simp [given]
    exact ((Color.resolve_hinges text).followed fun _ _ => ⟨_, rfl, trivial⟩).of_iff fits

/-- A caption is built exactly if it is in range, and its layer lies on the canvas. -/
theorem captionLayer_hinges {renderer : Caption.Renderer}
    (frame : renderer.canvas = .reel ∨ renderer.canvas = .post) (caption : Caption)
    (fontPath : String) (index : Nat) :
    Hinges integerOfInfinity (caption.FitsRange renderer.canvas)
      (fun built => renderer.canvas.Holds built.2.x built.2.y)
      (captionLayer renderer caption fontPath index) := by
  have drawn : Hinges integerOfInfinity (caption.FitsRange renderer.canvas)
      (fun built => renderer.canvas.Holds built.2.x built.2.y)
      (renderer.statements caption index fontPath) := by
    refine ((caption.layout_hinges frame _ _).bind fun layout held =>
      (drawFilter_hinges renderer caption _ layout fontPath).followed fun text _ => ?_).of_iff
        (Caption.fitsRange_iff _ _).symm
    dsimp only
    split <;> exact ⟨_, rfl, held⟩
  exact drawn.followed fun built held => ⟨_, rfl, held⟩

theorem overlayFilter_eq_ok {canvas : Canvas} (frame : canvas = .reel ∨ canvas = .post) {x y : Rat}
    (held : canvas.Holds x y) (shortest : Bool) :
    ∃ filter, overlayFilter x y shortest = .ok filter := by
  obtain ⟨wide, high⟩ := isSide_frame frame
  have across := placeText_eq_ok wide held.across
  have down := placeText_eq_ok high held.down
  exact ⟨_, by simp only [overlayFilter, across, down]; rfl⟩

/-- The main medium can always be laid on the canvas. -/
theorem baseStatement_ok {canvas : Canvas} (frame : canvas = .reel ∨ canvas = .post)
    (content : Content) (shortest : Bool) :
    ∃ statement, baseStatement content canvas shortest = .ok statement := by
  obtain ⟨filter, laid⟩ := overlayFilter_eq_ok frame
    (canvas.holds_clampPosition (some content.position.x) (some content.position.y)) shortest
  exact ⟨_, baseStatement_eq_ok.mpr ⟨filter, laid, rfl⟩⟩

/-- Layers on the canvas can be stacked. -/
theorem stack_eq_ok {canvas : Canvas} (frame : canvas = .reel ∨ canvas = .post) {layers : List Layer}
    (held : ∀ layer ∈ layers, canvas.Holds layer.x layer.y) (shortest : Bool) (current : String)
    (index : Nat) : ∃ statements, stack shortest current index layers = .ok statements := by
  induction layers generalizing current index with
  | nil => exact ⟨[], rfl⟩
  | cons layer rest ih =>
    obtain ⟨filter, laid⟩ := overlayFilter_eq_ok frame (held layer List.mem_cons_self) shortest
    obtain ⟨others, stacked⟩ := ih (fun other member => held other (List.mem_cons_of_mem _ member))
      (Pad.layer index).name (index + 1)
    exact ⟨_, stack_cons_eq_ok.mpr ⟨filter, others, laid, stacked, rfl⟩⟩

variable {settings : Settings} {scene : Scene} {kind : MediaKind} {assets : AssetResolver}

/-- When every caption has a font, the captions that are built are those of the scene. -/
theorem captionItems_map {fontPaths : List String} (fonts : fontPaths.length = scene.captions.length) :
    (captionItems scene fontPaths).map (fun item => item.1.1) = scene.captions := by
  have pairs : (captionItems scene fontPaths).map Prod.fst = scene.captions.zip fontPaths :=
    List.zipIdx_map_fst ..
  calc (captionItems scene fontPaths).map (fun item => item.1.1)
      = ((captionItems scene fontPaths).map Prod.fst).map Prod.fst := by rw [List.map_map]; rfl
    _ = scene.captions := by rw [pairs, List.map_fst_zip fonts.ge]

/-- A program is built exactly if its crop and its captions are in range. -/
theorem programOf_hinges {fontPaths : List String}
    (frame : scene.canvas = .reel ∨ scene.canvas = .post)
    (proper : ∀ cut, scene.content.crop = some cut → cut.IsProper)
    (fonts : fontPaths.length = scene.captions.length) :
    Hinges integerOfInfinity ((∀ cut, scene.content.crop = some cut → cut.FitsRange) ∧
        ∀ caption ∈ scene.captions, caption.FitsRange scene.canvas) (fun _ => True)
      (programOf settings scene kind fontPaths) := by
  have main : Hinges integerOfInfinity (∀ cut, scene.content.crop = some cut → cut.FitsRange)
      (fun _ => True) (mainStatement scene.content scene.canvas) :=
    (cropFilters_hinges proper).followed fun _ _ => ⟨_, rfl, trivial⟩
  obtain ⟨base, hbase⟩ := baseStatement_ok frame scene.content (endsWithShortest kind)
  have captions : Hinges integerOfInfinity
      (∀ item ∈ captionItems scene fontPaths, item.1.1.FitsRange scene.canvas)
      (fun built => ∀ part ∈ built, scene.canvas.Holds part.2.x part.2.y)
      ((captionItems scene fontPaths).mapM fun item =>
        captionLayer (rendererOf settings scene kind) item.1.1 item.1.2 item.2) :=
    Hinges.mapM fun item _ => captionLayer_hinges frame item.1.1 item.1.2 item.2
  refine (main.bind fun main _ => .after hbase (captions.followed fun captions held => ?_)).of_iff
    (and_congr_right fun _ => ?_)
  · have layers : ∀ layer ∈ Layer.inOrder ((stickerLayers scene).map Prod.snd ++
        captions.map Prod.snd), scene.canvas.Holds layer.x layer.y := by
      intro layer member
      rcases List.mem_append.mp ((List.mergeSort_perm ..).mem_iff.mp member) with sticker | caption
      · obtain ⟨_, made, rfl⟩ := List.mem_map.mp sticker
        obtain ⟨_, _, rfl⟩ := List.mem_map.mp made
        exact scene.canvas.holds_clampPosition _ _
      · obtain ⟨built, made, rfl⟩ := List.mem_map.mp caption
        exact held built made
    obtain ⟨overlays, stacked⟩ := stack_eq_ok frame layers (endsWithShortest kind) "base0" 0
    exact ⟨_, bind_eq_ok.mpr ⟨overlays, stacked, rfl⟩, trivial⟩
  · rw [← captionItems_map fonts, List.forall_mem_map]

theorem canvasSourceOf_hinges (canvas : Canvas) (color : Option String) (rate : Option Int) :
    Hinges integerOfInfinity (∀ text, color = some text → Color.FitsRange text) (fun _ => True)
      (canvasSourceOf canvas color rate) :=
  ((resolveText_hinges color).bind fun _ _ => .of_eq_ok rfl trivial).of_iff (by simp)

/-- The canvas of an accepted composition is one of the two frames. -/
theorem scene_canvas (request : Form.CompositionRequest) :
    request.scene.canvas = .reel ∨ request.scene.canvas = .post := by
  rw [Form.CompositionRequest.scene]
  dsimp only
  split
  · exact .inr rfl
  · exact .inl rfl

/-- The program of a scene and the source of its canvas. -/
def buildAll (settings : Settings) (scene : Scene) (kind : MediaKind) (fontPaths : List String) :
    Except RangeFault (Graph.Program × String) := do
  let program ← programOf settings scene kind fontPaths
  let source ← canvasSourceOf scene.canvas scene.backgroundColor (frameRateOf settings kind)
  return (program, source)

/-- Everything is built exactly if the scene is in range. -/
theorem buildAll_hinges {fontPaths : List String}
    (frame : scene.canvas = .reel ∨ scene.canvas = .post)
    (proper : ∀ cut, scene.content.crop = some cut → cut.IsProper)
    (fonts : fontPaths.length = scene.captions.length) :
    Hinges integerOfInfinity scene.FitsRange (fun _ => True)
      (buildAll settings scene kind fontPaths) := by
  have source := canvasSourceOf_hinges scene.canvas scene.backgroundColor (frameRateOf settings kind)
  refine ((programOf_hinges frame proper fonts).bind fun program _ =>
    source.followed fun text _ => ⟨(program, text), rfl, trivial⟩).of_iff ?_
  rw [Scene.fitsRange_iff]
  tauto

/-- Once the files of a scene are found, everything is built and then the program is checked. -/
theorem compile_of_resolved {stickers fonts : List String}
    (resolved : resolveAssets assets settings scene = .ok (stickers, fonts)) :
    compile assets settings scene kind = (do
      let (program, source) ← (buildAll settings scene kind fonts).mapError .range
      let _ ← (program.validate (2 + stickers.length)).mapError .graph
      return ⟨kind, scene.canvas, source, program, stickers, frameRateOf settings kind⟩) := by
  rw [compile, resolved]
  change compileWith settings scene kind stickers fonts = _
  rw [compileWith, buildAll]
  cases programOf settings scene kind fonts with
  | error fault => rfl
  | ok program =>
    cases canvasSourceOf scene.canvas scene.backgroundColor (frameRateOf settings kind) <;> rfl

/-- A scene on one of the two frames that is in range is composed once its files are found, as long as the
numbers of its streams are no too long integers. -/
theorem compile_of_fits {stickers fonts : List String}
    (resolved : resolveAssets assets settings scene = .ok (stickers, fonts))
    (frame : scene.canvas = .reel ∨ scene.canvas = .post)
    (proper : ∀ cut, scene.content.crop = some cut → cut.IsProper) (fits : scene.FitsRange)
    (few : scene.stickers.length + 1 < 10 ^ integerDigitLimit) :
    ∃ c, compile assets settings scene kind = .ok c := by
  have built : Hinges integerOfInfinity scene.FitsRange (fun _ => True)
      (buildAll settings scene kind fonts) :=
    buildAll_hinges frame proper (resolveAssets_length resolved).2
  obtain ⟨⟨program, source⟩, both, -⟩ := built.exists_eq_ok fits
  cases composed : compile assets settings scene kind with
  | ok c => exact ⟨c, rfl⟩
  | error fault =>
    have checked := composed
    rw [compile_of_resolved resolved, both] at checked
    cases valid : program.validate (2 + stickers.length) with
    | ok =>
      simp only [Except.mapError, bind, Except.bind, valid] at checked
      nomatch checked
    | error cause =>
      simp only [Except.mapError, bind, Except.bind, valid] at checked
      obtain rfl := Except.error.inj checked
      obtain ⟨_, _, many⟩ := compile_graph_fault composed
      exact absurd many (Nat.not_le.mpr few)

/-- A scene that is cut nowhere, stands on the usual background and asks for neither widths nor colours of its captions
is composed once its files are found, if there are fewer than nine stickers on it. -/
theorem compile_of_plain {stickers fonts : List String}
    (resolved : resolveAssets assets settings scene = .ok (stickers, fonts))
    (frame : scene.canvas = .reel ∨ scene.canvas = .post) (uncut : scene.content.crop = none)
    (background : scene.backgroundColor = some "#000000")
    (captions : ∀ caption ∈ scene.captions,
      caption.width = none ∧ caption.color = none ∧ caption.backgroundColor = none)
    (few : scene.stickers.length < 9) : ∃ c, compile assets settings scene kind = .ok c := by
  have fits : scene.FitsRange := by
    refine ⟨by simp [uncut], ?_, fun caption member => ?_⟩
    · rw [background]
      rintro _ ⟨⟩
      exact Color.fitsRange_black
    · obtain ⟨width, color, back⟩ := captions caption member
      exact ⟨by simp [Caption.FitsWidth, width], by simp [color], by simp [back]⟩
  have power : 10 ^ 1 ≤ 10 ^ integerDigitLimit := Nat.pow_le_pow_right (by decide) (by decide)
  exact compile_of_fits resolved frame (by simp [uncut]) fits (by omega)

/-- An accepted scene whose files are found is composed if its crop, its colours and the widths of its
captions are in range, unless it has more stickers than streams have numbers. Otherwise composing it
fails because an infinity has no integer. -/
theorem compile_accepted {body : Json} {request : Form.CompositionRequest}
    {paths : List String × List String} (accepted : Form.composition body = .ok request)
    (resolved : resolveAssets assets settings request.scene = .ok paths) :
    (request.scene.FitsRange →
      (∃ c, compile assets settings request.scene request.kind = .ok c) ∨
      ∃ digits, compile assets settings request.scene request.kind =
          .error (.graph (.selector (.tooLong digits))) ∧
        10 ^ integerDigitLimit ≤ request.stickers.length + 1) ∧
    (¬request.scene.FitsRange →
      compile assets settings request.scene request.kind = .error (.range integerOfInfinity)) := by
  obtain ⟨crop, given, proper⟩ := Form.composition_crop accepted
  have built : Hinges integerOfInfinity request.scene.FitsRange (fun _ => True)
      (buildAll settings request.scene request.kind paths.2) :=
    buildAll_hinges (scene_canvas request)
      (fun cut same => Option.some.inj (given.symm.trans same) ▸ proper)
      (resolveAssets_length resolved).2
  rw [compile_of_resolved resolved]
  constructor
  · intro fits
    obtain ⟨⟨program, source⟩, both, -⟩ := built.exists_eq_ok fits
    cases valid : program.validate (2 + paths.1.length) with
    | ok => exact .inl ⟨_, by rw [both]; simp only [Except.mapError, bind, Except.bind, valid]; rfl⟩
    | error fault =>
      have refused : compile assets settings request.scene request.kind = .error (.graph fault) := by
        rw [compile_of_resolved resolved, both]
        simp only [Except.mapError, bind, Except.bind, valid]
      obtain ⟨digits, rfl, many⟩ := compile_graph_fault refused
      rw [← compile_of_resolved resolved]
      exact .inr ⟨digits, refused, many⟩
  · intro beyond
    rw [built.eq_error beyond]
    rfl

/-- A request that keeps a part of the main medium, from some column on. -/
def partFrom (column : Json) : Json :=
  .obj [("sourceUrl", .str "https://cdn.example.com/media/sample.mp4"), ("mediaType", .str "video"),
    ("content", .obj [("crop",
      .obj [("x", column), ("width", .int 10), ("height", .int 10)])])]

/-- Assets that go by their own names. -/
def plainShelf : AssetResolver := ⟨.ok, fun family _ => .ok family⟩

/-- A part from a finite column on is composed, one from an infinite column on is refused. -/
theorem partFrom_composed :
    (∃ request, Form.composition (partFrom (.int 3)) = .ok request ∧
      resolveAssets plainShelf {} request.scene = .ok ([], []) ∧
      ∃ c, compile plainShelf {} request.scene request.kind = .ok c) ∧
    ∃ request, Form.composition (partFrom (.num (.infinite false))) = .ok request ∧
      resolveAssets plainShelf {} request.scene = .ok ([], []) ∧
      compile plainShelf {} request.scene request.kind = .error (.range integerOfInfinity) := by
  have ten : (Binary64.ofInt 10).isFinite = true := by decide +kernel
  refine ⟨⟨_, rfl, rfl, ?_⟩, ⟨_, rfl, rfl, ?_⟩⟩
  · refine ((compile_accepted (show Form.composition (partFrom (.int 3)) = .ok _ from rfl) rfl).1 ?_).resolve_right ?_
    · constructor
      · rintro _ ⟨⟩ _ _ ⟨⟩ ⟨⟩
        refine ⟨ten, ten, ?_, ?_⟩
        · rintro _ ⟨⟩
          decide +kernel
        · rintro _ ⟨⟩
          decide +kernel
      · rintro _ ⟨⟩
        exact Color.fitsRange_black
      · simp [Form.CompositionRequest.scene]
    · rintro ⟨_, _, many⟩
      have few : ¬10 ^ integerDigitLimit ≤ 1 := by decide +kernel
      exact few many
  · refine (compile_accepted
      (show Form.composition (partFrom (.num (.infinite false))) = .ok _ from rfl) rfl).2 fun fits => ?_
    have finite := (fits.crop _ rfl _ _ rfl rfl).2.2.1 _ rfl
    contradiction

/-- A red of four hundred digits. -/
def glaringRed : List Char :=
  ['r', 'g', 'b', '('] ++ List.replicate 400 '9' ++ [',', '0', ',', '0', ')']

/-- A request on a background in that red. -/
def glaringRequest : Json :=
  .obj [("sourceUrl", .str "https://cdn.example.com/media/sample.mp4"), ("mediaType", .str "video"),
    ("background", .obj [("color", .str (String.ofList glaringRed))])]

theorem glaringRed_beyond : ¬Color.FitsRange (String.ofList glaringRed) := by
  have call : Color.callAt? glaringRed = some ⟨List.replicate 400 '9', ['0'], ['0'], none⟩ := by
    decide +kernel
  have red : readNumeral? (List.replicate 400 '9') = some (.infinite false) := by decide +kernel
  have others : (readNumeral? ['0']).isSome = true := by decide +kernel
  generalize List.replicate 400 '9' = nines at call red
  intro fits
  have readable : Color.Call.IsReadable ⟨nines, ['0'], ['0'], none⟩ := by
    rw [Color.Call.isReadable_iff]
    exact ⟨_, _, _, _, red, Option.eq_some_of_isSome others, Option.eq_some_of_isSome others, rfl⟩
  have channel : nines ∈ Color.Call.channels ⟨nines, ['0'], ['0'], none⟩ := List.mem_cons_self
  have found := Color.findCall?_of_callAt? call
  rw [← String.toList_ofList (l := glaringRed)] at found
  have finite := fits _ found readable nines channel (.infinite false) red
  exact Bool.false_ne_true finite

/-- A channel that is read as an infinity is not brought down to its greatest value, but refused. -/
theorem glaringRequest_refused : ∃ request, Form.composition glaringRequest = .ok request ∧
    resolveAssets plainShelf {} request.scene = .ok ([], []) ∧
    compile plainShelf {} request.scene request.kind = .error (.range integerOfInfinity) := by
  refine ⟨_, rfl, rfl, ?_⟩
  rw [compile_of_resolved (show resolveAssets plainShelf {} _ = .ok ([], []) from rfl),
    (buildAll_hinges (.inl rfl) ?_ rfl).eq_error ?_]
  · rfl
  · rintro _ ⟨⟩
    exact Form.wholeCrop_isProper
  · exact fun fits => glaringRed_beyond (fits.background _ rfl)

end Composition

end Montage
