import Montage.Proofs.Composition.Motion
import Montage.Proofs.Composition.Range
import Montage.Proofs.Number.Places

/-! # Where overlays are placed

A program lays the main medium on the canvas and then every layer on what is below it, and does so nowhere else. Each
of these places comes from a coordinate that was moved into the canvas, whatever number was asked for, so it is written
in plain numerals and lies on the canvas.
-/

namespace Montage.Composition

open Montage.Graph

variable {settings : Settings} {scene : Scene} {kind : MediaKind} {fontPaths : List String} {parts : Parts}

/-- Whether a statement lays one picture on another. -/
def isOverlay (s : Statement) : Bool := filterName s == "overlay".toList

/-- An overlay whose place is written in unsigned numerals with no places or four of them, and lies on the canvas. -/
def IsPlaced (canvas : Canvas) (shortest : Bool) (s : Statement) : Prop :=
  ∃ (x y : String) (across down : Rat),
    s.chain = "overlay=" ++ x ++ ":" ++ y ++ ":format=auto" ++ (if shortest then ":shortest=1" else "") ∧
    IsNumeral 4 x across ∧ IsNumeral 4 y down ∧ canvas.Holds across down

/-- A place on the canvas is written as one on the canvas. -/
theorem isPlaced_of_overlayFilter {canvas : Canvas} {x y : Rat} {shortest : Bool} {s : Statement}
    (held : canvas.Holds x y) (laid : overlayFilter x y shortest = .ok s.chain) : IsPlaced canvas shortest s := by
  have placed {r : Rat} {text : String} (written : placeText r = .ok text) : text = coordinateText r := by
    unfold placeText at written
    split at written
    · cases written
    · exact (Except.ok.inj written).symm
  simp only [overlayFilter, bind_eq_ok, pure_eq_ok] at laid
  obtain ⟨left, writtenLeft, top, writtenTop, chain⟩ := laid
  obtain ⟨across, numeralX, insideX⟩ := isNumeral_coordinateText held.across
  obtain ⟨down, numeralY, insideY⟩ := isNumeral_coordinateText held.down
  rw [placed writtenLeft, placed writtenTop] at chain
  exact ⟨_, _, across, down, chain.symm, numeralX, numeralY, insideX, insideY⟩

/-! ## The overlays of a program -/

theorem isOverlay_main {content : Content} {canvas : Canvas} {s : Statement}
    (main : mainStatement content canvas = .ok s) : isOverlay s = false := by
  have others : ∀ name ∈ ["crop".toList, "rotate".toList, "scale".toList], (name == "overlay".toList) = false := by
    decide
  exact others _ (filterName_main main)

theorem isOverlay_captionStatements {renderer : Caption.Renderer} {caption : Caption} {prepared : Caption.Prepared}
    {layout : Caption.Layout} {fontPath text : String} {index : Nat}
    (drawn : renderer.drawFilter caption prepared layout fontPath = .ok text) :
    ∀ s ∈ captionStatements renderer caption layout text index, isOverlay s = false := by
  have words : filterName ⟨[(Pad.canvas index).name], text, (Pad.text index).name⟩ = "drawtext".toList :=
    filterName_drawFilter drawn
  simp only [captionStatements, List.forall_mem_append, List.forall_mem_cons, isOverlay, words,
    filterName_sourceFilter]
  refine ⟨⟨by decide, by decide, List.forall_mem_nil _⟩, ?_⟩
  split
  · simp only [List.forall_mem_singleton, filterName_rotateFilter]
    decide
  · exact List.forall_mem_nil _

/-- The overlays of a program are the main medium on the canvas and the layers on what is below them. -/
theorem filter_isOverlay (of : parts.Of settings scene kind fontPaths) :
    (parts.statements settings scene kind).filter isOverlay = parts.base :: parts.overlays := by
  have main := isOverlay_main of.main
  have base : isOverlay parts.base = true := by
    obtain ⟨chain, laid, base⟩ := baseStatement_eq_ok.mp of.base
    rw [base]
    exact beq_iff_eq.mpr (filterName_overlay laid)
  have stickers : ((stickerLayers scene).map Prod.fst).filter isOverlay = [] := by
    simp only [List.filter_eq_nil_iff, stickerLayers, List.map_map, List.forall_mem_map, Function.comp_apply,
      isOverlay, filterName_stickerLayer]
    exact fun _ _ => by decide
  have captions : (parts.captions.flatMap Prod.fst).filter isOverlay = [] := by
    rw [List.filter_eq_nil_iff]
    intro s member
    obtain ⟨built, present, member⟩ := List.mem_flatMap.mp member
    obtain ⟨item, -, taken⟩ := exists_of_mem_right of.captions present
    obtain ⟨layout, text, -, drawn, rfl⟩ := captionLayer_eq_ok.mp taken
    rw [isOverlay_captionStatements drawn s member]
    exact Bool.false_ne_true
  have overlays : parts.overlays.filter isOverlay = parts.overlays := by
    refine List.filter_eq_self.mpr fun s member => ?_
    obtain ⟨layer, -, laid⟩ := exists_layer_of_stack of.overlays s member
    exact beq_iff_eq.mpr (filterName_overlay laid)
  have lock : (lockStatements (lastPad (parts.built scene)) (frameRateOf settings kind)).filter isOverlay = [] := by
    cases frameRateOf settings kind with
    | none => rfl
    | some rate => simp [lockStatements, isOverlay, filterName, toString_text]
  rw [Parts.statements, List.filter_append, lock, Parts.built]
  simp only [List.filter_append, List.filter_cons, main, base, stickers, captions, overlays, Bool.false_eq_true,
    ↓reduceIte, List.nil_append, List.append_nil]

/-- Every layer of a program lies on the canvas. -/
theorem held_layers (of : parts.Of settings scene kind fontPaths) :
    ∀ layer ∈ Layer.inOrder (parts.layers scene), scene.canvas.Holds layer.x layer.y := by
  intro layer member
  rcases List.mem_append.mp ((List.mergeSort_perm ..).mem_iff.mp member) with sticker | caption
  · obtain ⟨_, made, rfl⟩ := List.mem_map.mp sticker
    obtain ⟨_, _, rfl⟩ := List.mem_map.mp made
    exact scene.canvas.holds_clampPosition _ _
  · obtain ⟨built, made, rfl⟩ := List.mem_map.mp caption
    obtain ⟨item, -, taken⟩ := exists_of_mem_right of.captions made
    obtain ⟨layout, text, laid, -, rfl⟩ := captionLayer_eq_ok.mp taken
    exact Caption.holds_layout laid

/-- The overlays of a program are placed on the canvas. -/
theorem isPlaced_overlays (of : parts.Of settings scene kind fontPaths) :
    ∀ s ∈ parts.base :: parts.overlays, IsPlaced scene.canvas (endsWithShortest kind) s := by
  refine List.forall_mem_cons.mpr ⟨?_, fun s member => ?_⟩
  · obtain ⟨chain, laid, base⟩ := baseStatement_eq_ok.mp of.base
    have held := scene.canvas.holds_clampPosition (some scene.content.position.x) (some scene.content.position.y)
    refine isPlaced_of_overlayFilter held ?_
    rw [base]
    exact laid
  · obtain ⟨layer, present, laid⟩ := exists_layer_of_stack of.overlays s member
    exact isPlaced_of_overlayFilter (held_layers of layer present) laid

/-- Whatever coordinates a scene asks for, a composition lays the main medium and then each of its stickers and captions
at a place on the canvas that is written in plain numerals, and lays nothing else. -/
theorem compile_places (assets : AssetResolver) (settings : Settings) (scene : Scene) (kind : MediaKind)
    {c : Composition} (composed : compile assets settings scene kind = .ok c) :
    (c.program.statements.filter isOverlay).map Statement.output =
      (.base :: (List.range (scene.stickers.length + scene.captions.length)).map .layer : List Pad).map Pad.name ∧
    ∀ s ∈ c.program.statements, isOverlay s = true → IsPlaced scene.canvas (endsWithShortest kind) s := by
  obtain ⟨stickers, fonts, program, source, found, built, _, _, rfl⟩ := compile_eq_ok.mp composed
  obtain ⟨parts, of, rfl⟩ := programOf_eq_ok.mp built
  have overlays := filter_isOverlay of
  simp only [Program.addAll_eq, List.nil_append]
  constructor
  · have count : (Layer.inOrder (parts.layers scene)).length = scene.stickers.length + scene.captions.length := by
      have fontCount := (resolveAssets_length found).2
      have captions := of.captions.length_eq
      simp only [captionItems, List.length_zipIdx, List.length_zip] at captions
      simp only [Layer.inOrder, List.length_mergeSort, Parts.layers, stickerLayers, List.length_append,
        List.length_map, List.length_zipIdx]
      omega
    obtain ⟨chain, _, base⟩ := baseStatement_eq_ok.mp of.base
    rw [overlays, List.map_cons, stack_outputs of.overlays, count, base, List.range_eq_range', List.map_cons]
  · intro s member overlay
    refine isPlaced_overlays of s ?_
    rw [← overlays]
    exact List.mem_filter.mpr ⟨member, overlay⟩

/-- A scene that places nothing on its canvas by itself: no number, an infinity, a number far beyond the canvas and one
below it, a share of the canvas and a fraction of a pixel. -/
def strayed : Scene where
  content := { position := ⟨.nan, .infinite false⟩ }
  stickers := [{ name := "star", position := ⟨10000, .ofRat (-1 / 2)⟩ }]
  captions := [{
    text := "Hi"
    x := some (.ofRat (1 / 3))
    y := some (.ofRat (21 / 2))
    width := none
    height := none
    fontFamily := "Inter"
    color := none }]

/-- The strayed scene is composed, and all three overlays are placed on the canvas. -/
theorem strayed_placed : ∃ c, compile fullShelf {} strayed .video = .ok c ∧
    (c.program.statements.filter isOverlay).map Statement.output = ["base0", "layer0", "layer1"] ∧
    ∀ s ∈ c.program.statements, isOverlay s = true → IsPlaced .reel true s := by
  have resolved : resolveAssets fullShelf {} strayed = .ok (["star"], ["Inter-Medium.ttf"]) := by decide +kernel
  have plain : ∀ caption ∈ strayed.captions,
      caption.width = none ∧ caption.color = none ∧ caption.backgroundColor = none :=
    List.forall_mem_singleton.mpr ⟨rfl, rfl, rfl⟩
  obtain ⟨c, composed⟩ : ∃ c, compile fullShelf {} strayed .video = .ok c :=
    compile_of_plain resolved (.inl rfl) rfl rfl plain (by decide)
  exact ⟨c, composed, compile_places fullShelf {} strayed .video composed⟩

end Montage.Composition
