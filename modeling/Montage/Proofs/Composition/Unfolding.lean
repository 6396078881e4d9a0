import Montage.Proofs.Composition.Painting

/-! # Programs show what is painted

The statements of a composition are followed one by one: each layer of the program shows what the
painter's layer shows, sorting keeps the two lists of layers in step, and every overlay lays the next
layer on what is below it.
-/

namespace Montage.Composition

open Montage.Graph
open scoped List

variable {settings : Settings} {scene : Scene} {kind : MediaKind} {fontPaths : List String}
  {parts : Parts} {view : String → Picture}

/-- Every statement holds of what its pads show. -/
def Holds (view : String → Picture) (statements : List Statement) : Prop :=
  ∀ s ∈ statements, view s.output = .filtered s.chain (s.inputs.map view)

/-- A layer of a program and the painter's layer: the same depth, place and picture. -/
structure Matches (view : String → Picture) (layer : Layer) (painted : PaintedLayer) : Prop where
  depth : layer.depth = painted.depth
  x : layer.x = painted.x
  y : layer.y = painted.y
  picture : view layer.pad = painted.picture

theorem Holds.append {first second : List Statement} :
    Holds view (first ++ second) ↔ Holds view first ∧ Holds view second := by
  simp only [Holds, List.mem_append, or_imp, forall_and]

theorem Holds.cons {s : Statement} {rest : List Statement} :
    Holds view (s :: rest) ↔ view s.output = .filtered s.chain (s.inputs.map view) ∧
      Holds view rest := by
  simp only [Holds, List.mem_cons, forall_eq_or_imp]

theorem stickers_match (holds : Holds view ((stickerLayers scene).map Prod.fst))
    (streams : ∀ input, view (videoStream input) = .stream (videoStream input)) :
    List.Forall₂ (Matches view) ((stickerLayers scene).map Prod.snd)
      (scene.stickers.zipIdx.map fun item => paintSticker scene.canvas item.1 item.2) := by
  rw [stickerLayers, List.map_map, List.forall₂_map_left_iff, List.forall₂_map_right_iff,
    List.forall₂_same]
  intro item member
  refine ⟨rfl, rfl, rfl, ?_⟩
  have shown := holds (stickerLayer scene.canvas item.1 item.2).1
    (List.mem_map_of_mem (List.mem_map_of_mem member))
  exact shown.trans (congrArg (Picture.filtered _ [·]) (streams (item.2 + 2)))

/-- A caption is laid out at its clamped position. -/
theorem layout_place {caption : Caption} {canvas : Canvas} {lines padding : Int}
    {layout : Caption.Layout} (laid : Caption.layout caption canvas lines padding = .ok layout) :
    ∃ left top, toExtentPixels caption.x canvas.width = .ok left ∧
      toExtentPixels caption.y canvas.height = .ok top ∧
      layout.x = clampCoordinate (some left) canvas.width ∧
      layout.y = clampCoordinate (some top) canvas.height := by
  simp only [Caption.layout, bind_eq_ok, pure_eq_ok] at laid
  obtain ⟨left, hleft, top, htop, _, _, _, _, _, _, _, _, rfl⟩ := laid
  exact ⟨left, top, hleft, htop, rfl, rfl⟩

theorem captionStatements_show {renderer : Caption.Renderer} {caption : Caption}
    {layout : Caption.Layout} {text : String} {index : Nat}
    (holds : Holds view (captionStatements renderer caption layout text index)) :
    view (captionPad caption index).name = captionPicture renderer caption layout text := by
  cases turned : isTurned caption <;>
    simp [captionStatements, turned, Holds.cons] at holds
  · simp [captionPad, captionPicture, turned, holds]
  · simp [captionPad, captionPicture, turned, holds]

theorem caption_matches {renderer : Caption.Renderer} {caption : Caption} {fontPath : String}
    {index : Nat} {built : List Statement × Layer}
    (taken : captionLayer renderer caption fontPath index = .ok built) (holds : Holds view built.1) :
    ∃ painted, paintCaption renderer caption fontPath index = .ok painted ∧
      Matches view built.2 painted := by
  obtain ⟨layout, text, laid, drawn, rfl⟩ := captionLayer_eq_ok.mp taken
  obtain ⟨left, top, hleft, htop, hx, hy⟩ := layout_place laid
  refine ⟨⟨.caption index, caption.depth, clampCoordinate (some left) renderer.canvas.width,
    clampCoordinate (some top) renderer.canvas.height, captionPicture renderer caption layout text⟩,
    ?_, rfl, hx, hy, captionStatements_show holds⟩
  simp only [paintCaption, bind_eq_ok, pure_eq_ok]
  exact ⟨left, hleft, top, htop, layout, laid, text, drawn, rfl⟩

theorem captions_match (of : parts.Of settings scene kind fontPaths)
    (holds : Holds view (parts.captions.flatMap Prod.fst)) :
    ∃ painted, ((captionItems scene fontPaths).mapM fun item =>
        paintCaption (rendererOf settings scene kind) item.1.1 item.1.2 item.2) = .ok painted ∧
      List.Forall₂ (Matches view) (parts.captions.map Prod.snd) painted := by
  have taken := of.captions
  simp only [mapM_eq_ok]
  generalize captionItems scene fontPaths = items, parts.captions = captions at taken holds ⊢
  induction taken with
  | nil => exact ⟨[], .nil, .nil⟩
  | cons first _ ih =>
    rw [List.flatMap_cons, Holds.append] at holds
    obtain ⟨painted, paint, same⟩ := caption_matches first holds.1
    obtain ⟨others, paints, all⟩ := ih holds.2
    exact ⟨painted :: others, .cons paint paints, .cons same all⟩

/-- Sorting by depth keeps layers and the painter's layers in step. -/
theorem inOrder_match {layers : List Layer} {painted : List PaintedLayer}
    (all : List.Forall₂ (Matches view) layers painted) :
    List.Forall₂ (Matches view) (Layer.inOrder layers)
      (painted.mergeSort fun a b => decide (a.depth ≤ b.depth)) := by
  obtain ⟨length, same⟩ := List.forall₂_iff_zip.mp all
  let pairs := (layers.zip painted).mergeSort fun a b => decide (a.1.depth ≤ b.1.depth)
  have left : pairs.map Prod.fst = Layer.inOrder layers := by
    have sorted : pairs.map Prod.fst = Layer.inOrder ((layers.zip painted).map Prod.fst) :=
      List.map_mergeSort fun _ _ _ _ => rfl
    rw [sorted, List.map_fst_zip (Nat.le_of_eq length)]
  have right : pairs.map Prod.snd = painted.mergeSort fun a b => decide (a.depth ≤ b.depth) := by
    have sorted : pairs.map Prod.snd = ((layers.zip painted).map Prod.snd).mergeSort
        fun a b => decide (a.depth ≤ b.depth) := by
      refine List.map_mergeSort fun a here b there => ?_
      rw [(same here).depth, (same there).depth]
    rw [sorted, List.map_snd_zip (Nat.le_of_eq length.symm)]
  rw [← left, ← right, List.forall₂_map_left_iff, List.forall₂_map_right_iff, List.forall₂_same]
  intro pair member
  exact same (List.mem_mergeSort.mp member)

/-- Stacked overlays show the layers laid one after the other on what was there. -/
theorem stack_paints {current : String} {index : Nat} {layers : List Layer}
    {statements : List Statement} {painted : List PaintedLayer}
    (stacked : stack (endsWithShortest kind) current index layers = .ok statements)
    (all : List.Forall₂ (Matches view) layers painted) (holds : Holds view statements) :
    paintOver kind (view current) painted = .ok (view (endPad current statements)) := by
  induction all generalizing current index statements with
  | nil =>
    obtain rfl : [] = statements := Except.ok.inj stacked
    rfl
  | @cons layer painted layers others first _ ih =>
    obtain ⟨chain, above, overlay, rest, rfl⟩ := stack_cons_eq_ok.mp stacked
    obtain ⟨shown, holds⟩ := Holds.cons.mp holds
    have laid : lay kind painted.x painted.y (view current) painted.picture =
        .ok (view (Pad.layer index).name) := by
      rw [first.x, first.y] at overlay
      simp only [lay, overlay, shown, List.map_cons, List.map_nil, first.picture]
      rfl
    rw [endPad_cons, paintOver, List.foldlM_cons, laid]
    exact ih rest holds

theorem main_paints (of : parts.Of settings scene kind fontPaths)
    (holds : Holds view [parts.main, parts.base])
    (streams : ∀ input, view (videoStream input) = .stream (videoStream input)) :
    paintGround scene kind = .ok (view Pad.base.name) := by
  obtain ⟨crop, cropped, main⟩ := mainStatement_eq_ok.mp of.main
  obtain ⟨chain, overlay, base⟩ := baseStatement_eq_ok.mp of.base
  simp only [Holds.cons, main, base, List.map_cons, List.map_nil, streams] at holds
  have painted : paintMain scene.content scene.canvas = .ok (view Pad.main.name) := by
    rw [holds.1, paintMain, cropped]
    rfl
  rw [holds.2.1, paintGround, painted]
  simp only [lay, overlay, bind, Except.bind]
  rfl

/-- The lock on the frame rate is the last thing that is done to the composite. -/
theorem lock_shows {built : List Statement} (nonempty : built ≠ []) {rate : Option Int}
    (holds : Holds view (lockStatements (lastPad built) rate)) :
    ((built ++ lockStatements (lastPad built) rate).getLast?.map Statement.output).map view =
      some (atRate rate (view (lastPad built))) := by
  cases rate with
  | none =>
    obtain ⟨last, ends, output⟩ := exists_last nonempty
    simp [lockStatements, atRate, ends, output]
  | some frames =>
    have shown := holds _ List.mem_cons_self
    simp only [List.map_cons, List.map_nil] at shown
    simp [lockStatements, atRate, shown]

/-- The program of a scene shows its layers, sorted by depth, on its ground. -/
theorem programOf_paints {p : Program}
    (built : programOf settings scene kind fontPaths = .ok p) :
    ∃ declared ground picture, paintLayers settings scene kind fontPaths = .ok declared ∧
      paintGround scene kind = .ok ground ∧
      paintOver kind ground (declared.mergeSort fun a b => decide (a.depth ≤ b.depth)) =
        .ok picture ∧
      p.unfold = some (atRate (frameRateOf settings kind) picture) := by
  have tree := programOf_isTree built
  obtain ⟨parts, of, rfl⟩ := programOf_eq_ok.mp built
  rw [Program.addAll_eq, List.nil_append] at tree ⊢
  rw [Program.unfold]
  generalize shape : Program.mk (parts.statements settings scene kind) _ = p at tree ⊢
  have statements : p.statements = parts.statements settings scene kind := shape ▸ rfl
  have output : p.outputPad =
      (parts.statements settings scene kind).getLast?.map Statement.output := by
    simp only [← shape, Option.or_none]
  have holds : Holds p.picture (parts.statements settings scene kind) := fun s member =>
    tree.picture_output (statements ▸ member)
  have streams (input : Nat) : p.picture (videoStream input) = .stream (videoStream input) :=
    tree.picture_stream (isSelector_videoStream input)
  obtain ⟨onBuilt, onLock⟩ := Holds.append.mp holds
  have grouped : Holds p.picture ([parts.main, parts.base] ++
      (((stickerLayers scene).map Prod.fst ++ parts.captions.flatMap Prod.fst) ++ parts.overlays)) :=
    onBuilt
  simp only [Holds.append] at grouped
  obtain ⟨onMain, ⟨onStickers, onCaptions⟩, onOverlays⟩ := grouped
  obtain ⟨captions, painted, captionsMatch⟩ := captions_match of onCaptions
  have layersMatch := List.rel_append (stickers_match onStickers streams) captionsMatch
  have laid := stack_paints of.overlays (inOrder_match layersMatch) onOverlays
  refine ⟨_, _, _, ?_, main_paints of onMain streams, laid, ?_⟩
  · rw [paintLayers, painted]
    rfl
  · have nonempty : parts.built scene ≠ [] := List.cons_ne_nil _ _
    rw [output, Parts.statements, lock_shows nonempty onLock, lastPad_built of]
    rfl

/-- A short text in a turned box on a moving picture. -/
def greeting : Scene where
  captions := [{
    text := "Hi"
    x := none
    y := none
    width := some 1
    height := some 1
    fontFamily := "Inter"
    rotation := some 45 }]

/-- Assets that are all there. -/
def fullShelf : AssetResolver := ⟨.ok, fun family weight => .ok s!"{family}-{weight}.ttf"⟩

end Montage.Composition
