import Montage.Composition
import Montage.Proofs.Composition.Pad
import Montage.Proofs.Graph.Tree
import Montage.Proofs.Result

/-! # The parts of a composition

A program that is built from a scene consists of the main medium on the canvas, one statement for each
sticker, two or three for each caption, one overlay for each layer, and for moving pictures the lock
on the frame rate. Each part is taken apart here once, into the texts that went into it.
-/

namespace Montage.Composition

open Montage.Graph

variable {settings : Settings} {scene : Scene} {kind : MediaKind}

/-- What the captions of a scene have in common. -/
def rendererOf (settings : Settings) (scene : Scene) (kind : MediaKind) : Caption.Renderer :=
  ⟨scene.canvas, settings.captionPadding, frameRateOf settings kind⟩

/-- The statements and layers of the stickers of a scene. -/
def stickerLayers (scene : Scene) : List (Statement × Layer) :=
  scene.stickers.zipIdx.map fun (sticker, index) => stickerLayer scene.canvas sticker index

/-- The captions of a scene with their fonts and indices. -/
def captionItems (scene : Scene) (fontPaths : List String) : List ((Caption × String) × Nat) :=
  (scene.captions.zip fontPaths).zipIdx

theorem pairwise_index {α : Type} (items : List α) :
    items.zipIdx.Pairwise fun a b => a.2 < b.2 := by
  have numbers : (items.zipIdx.map Prod.snd).Pairwise (· < ·) := by
    rw [List.zipIdx_map_snd]
    exact List.pairwise_lt_range'
  exact List.pairwise_map.mp numbers

/-- The parts of a program. -/
structure Parts where
  main : Statement
  base : Statement
  captions : List (List Statement × Layer)
  overlays : List Statement

namespace Parts

/-- The layers in the order of their declaration, stickers first. -/
def layers (parts : Parts) (scene : Scene) : List Layer :=
  (stickerLayers scene).map Prod.snd ++ parts.captions.map Prod.snd

/-- The statements up to the last overlay. -/
def built (parts : Parts) (scene : Scene) : List Statement :=
  parts.main :: parts.base ::
    ((stickerLayers scene).map Prod.fst ++ parts.captions.flatMap Prod.fst ++ parts.overlays)

/-- All statements. -/
def statements (parts : Parts) (settings : Settings) (scene : Scene) (kind : MediaKind) :
    List Statement :=
  parts.built scene ++ lockStatements (lastPad (parts.built scene)) (frameRateOf settings kind)

/-- Parts that come from a scene. -/
structure Of (parts : Parts) (settings : Settings) (scene : Scene) (kind : MediaKind)
    (fontPaths : List String) : Prop where
  main : mainStatement scene.content scene.canvas = .ok parts.main
  base : baseStatement scene.content scene.canvas (endsWithShortest kind) = .ok parts.base
  captions : List.Forall₂ (fun item caption =>
      captionLayer (rendererOf settings scene kind) item.1.1 item.1.2 item.2 = .ok caption)
    (captionItems scene fontPaths) parts.captions
  overlays : stack (endsWithShortest kind) "base0" 0 (Layer.inOrder (parts.layers scene)) =
    .ok parts.overlays

end Parts

/-- A program is built exactly if its parts are, and consists of their statements. -/
theorem programOf_eq_ok {fontPaths : List String} {p : Program} :
    programOf settings scene kind fontPaths = .ok p ↔
      ∃ parts : Parts, parts.Of settings scene kind fontPaths ∧
        p = ({} : Program).addAll (parts.statements settings scene kind) := by
  simp only [programOf, bind_eq_ok, pure_eq_ok, mapM_eq_ok]
  constructor
  · rintro ⟨main, hmain, base, hbase, captions, hcaptions, overlays, hoverlays, rfl⟩
    exact ⟨⟨main, base, captions, overlays⟩, ⟨hmain, hbase, hcaptions, hoverlays⟩, rfl⟩
  · rintro ⟨⟨main, base, captions, overlays⟩, ⟨hmain, hbase, hcaptions, hoverlays⟩, rfl⟩
    exact ⟨main, hmain, base, hbase, captions, hcaptions, overlays, hoverlays, rfl⟩

variable {assets : AssetResolver}

/-- A scene is composed exactly if its files are found, its program and its canvas are built, and the
program passes the check. -/
theorem compile_eq_ok {c : Composition} :
    compile assets settings scene kind = .ok c ↔
      ∃ stickers fonts program source,
        resolveAssets assets settings scene = .ok (stickers, fonts) ∧
        programOf settings scene kind fonts = .ok program ∧
        canvasSourceOf scene.canvas scene.backgroundColor (frameRateOf settings kind) = .ok source ∧
        program.validate (2 + stickers.length) = .ok () ∧
        c = ⟨kind, scene.canvas, source, program, stickers, frameRateOf settings kind⟩ := by
  simp only [compile, compileWith, bind_eq_ok, mapError_eq_ok, pure_eq_ok, Prod.exists,
    exists_and_left, eq_comm (b := c), Unique.exists_iff]

/-- Only the check of a program refuses its graph. -/
theorem compile_eq_graph_error {fault : Graph.Fault}
    (refused : compile assets settings scene kind = .error (.graph fault)) :
    ∃ stickers fonts program, resolveAssets assets settings scene = .ok (stickers, fonts) ∧
      programOf settings scene kind fonts = .ok program ∧
      program.validate (2 + stickers.length) = .error fault := by
  simp only [compile, compileWith, bind_eq_error, mapError_eq_error, mapError_eq_ok, Prod.exists,
    reduceCtorEq, and_false, exists_false, false_or, CompositionFault.graph.injEq, exists_eq_right,
    pure, Except.pure, or_false] at refused
  obtain ⟨stickers, fonts, resolved, program, built, _, _, failed⟩ := refused
  exact ⟨stickers, fonts, program, resolved, built, failed⟩

/-- Every sticker and every caption has its file. -/
theorem resolveAssets_length {stickers fonts : List String}
    (resolved : resolveAssets assets settings scene = .ok (stickers, fonts)) :
    stickers.length = scene.stickers.length ∧ fonts.length = scene.captions.length := by
  simp only [resolveAssets, bind_eq_ok, pure_eq_ok, mapM_eq_ok, Prod.mk.injEq] at resolved
  obtain ⟨found, stickers, written, captions, rfl, rfl⟩ := resolved
  exact ⟨stickers.length_eq.symm, captions.length_eq.symm⟩

/-- A drawn text names its font, its text, its letters and its colour, and the box behind it if there is
one. -/
theorem drawFilter_eq_ok {renderer : Caption.Renderer} {caption : Caption}
    {prepared : Caption.Prepared} {layout : Caption.Layout} {fontPath text : String}
    (drawn : renderer.drawFilter caption prepared layout fontPath = .ok text) :
    ∃ color box, Color.resolveText caption.color = .ok color ∧
      (box = [] ∨ ∃ asked background, Color.resolveText asked = .ok background ∧
        box = ["box=1", s!"boxcolor={background}", s!"boxborderw={renderer.padding}"]) ∧
      text = ":".intercalate ([
        "drawtext=fontfile='" ++ String.ofList (Caption.escapePath fontPath.toList) ++ "'",
        "text='" ++ prepared.escaped ++ "'",
        s!"fontsize={layout.fontSize}",
        s!"fontcolor={color}",
        "x=(w-text_w)/2",
        s!"y=(h - (({layout.fontSize} * {layout.lines}) + ({layout.lineSpacing} * ({layout.lines} - 1)))) / 2",
        s!"line_spacing={layout.lineSpacing}"] ++ box) := by
  unfold Caption.Renderer.drawFilter at drawn
  obtain ⟨color, resolved, drawn⟩ := bind_eq_ok.mp drawn
  refine ⟨color, ?_⟩
  split at drawn
  · obtain ⟨box, none, text⟩ := bind_eq_ok.mp drawn
    exact ⟨box, resolved, .inl (pure_eq_ok.mp none).symm, (pure_eq_ok.mp text).symm⟩
  · obtain ⟨box, none, text⟩ := bind_eq_ok.mp drawn
    exact ⟨box, resolved, .inl (pure_eq_ok.mp none).symm, (pure_eq_ok.mp text).symm⟩
  · next asked _ _ =>
    obtain ⟨background, found, drawn⟩ := bind_eq_ok.mp drawn
    obtain ⟨box, shown, text⟩ := bind_eq_ok.mp drawn
    exact ⟨box, resolved, .inr ⟨some asked, background, found, (pure_eq_ok.mp shown).symm⟩,
      (pure_eq_ok.mp text).symm⟩
/-- Whether a caption is turned. -/
def isTurned (caption : Caption) : Bool := !(caption.rotation.getD .zero).isZero

/-- The pads that a caption goes through. -/
def captionPads (caption : Caption) (index : Nat) : List Pad :=
  [.canvas index, .text index] ++ if isTurned caption then [.turned index] else []

/-- The pad that a caption ends in. -/
def captionPad (caption : Caption) (index : Nat) : Pad :=
  if isTurned caption then .turned index else .text index

/-- The statements of a caption with a layout and a drawn text. -/
def captionStatements (renderer : Caption.Renderer) (caption : Caption) (layout : Caption.Layout)
    (text : String) (index : Nat) : List Statement :=
  [⟨[], renderer.sourceFilter layout, (Pad.canvas index).name⟩,
    ⟨[(Pad.canvas index).name], text, (Pad.text index).name⟩] ++
  if isTurned caption then
    [⟨[(Pad.text index).name], Caption.rotateFilter (caption.rotation.getD .zero) ++ ":c=black@0",
      (Pad.turned index).name⟩]
  else []

/-- A caption's statements and layer come from its layout and its drawn text. -/
theorem captionLayer_eq_ok {renderer : Caption.Renderer} {caption : Caption} {fontPath : String}
    {index : Nat} {built : List Statement × Layer} :
    captionLayer renderer caption fontPath index = .ok built ↔
      ∃ layout text, Caption.layout caption renderer.canvas (Caption.prepare caption.text).lines
          renderer.padding = .ok layout ∧
        renderer.drawFilter caption (Caption.prepare caption.text) layout fontPath = .ok text ∧
        built = (captionStatements renderer caption layout text index,
          ⟨caption.depth, (captionPad caption index).name, layout.x, layout.y⟩) := by
  simp only [captionLayer, Caption.Renderer.statements, bind_eq_ok, pure_eq_ok]
  constructor
  · rintro ⟨⟨statements, layout⟩, ⟨measured, hlayout, text, htext, shape⟩, rfl⟩
    refine ⟨measured, text, hlayout, htext, ?_⟩
    cases turned : (caption.rotation.getD Binary64.zero).isZero <;>
      simp only [turned, ↓reduceIte, Bool.false_eq_true, pure_eq_ok, Prod.mk.injEq] at shape <;>
      obtain ⟨rfl, rfl⟩ := shape <;>
      simp [captionStatements, captionPad, isTurned, turned, lastPad, Pad.name]
  · rintro ⟨layout, text, hlayout, htext, rfl⟩
    refine ⟨(captionStatements renderer caption layout text index, layout),
      ⟨layout, hlayout, text, htext, ?_⟩, ?_⟩ <;>
    cases turned : (caption.rotation.getD Binary64.zero).isZero <;>
      simp [captionStatements, captionPad, isTurned, turned, lastPad, Pad.name, pure_eq_ok]

theorem mainStatement_eq_ok {content : Content} {canvas : Canvas} {s : Statement} :
    mainStatement content canvas = .ok s ↔
      ∃ crop, cropFilters content.crop = .ok crop ∧ s = ⟨[videoStream 1], ",".intercalate
        (crop ++ (if content.rotation.isZero then [] else [Caption.rotateFilter content.rotation]) ++
          scaleFilters content canvas ++
          if Text.isBlankText content.rawFilter then [] else [content.rawFilter]),
        Pad.main.name⟩ := by
  simp only [mainStatement, bind_eq_ok, pure_eq_ok, eq_comm (b := s)]
  rfl

theorem baseStatement_eq_ok {content : Content} {canvas : Canvas} {shortest : Bool} {s : Statement} :
    baseStatement content canvas shortest = .ok s ↔
      ∃ chain, overlayFilter (clampCoordinate (some content.position.x) canvas.width)
          (clampCoordinate (some content.position.y) canvas.height) shortest = .ok chain ∧
        s = ⟨[videoStream 0, Pad.main.name], chain, Pad.base.name⟩ := by
  simp only [baseStatement, bind_eq_ok, pure_eq_ok, eq_comm (b := s)]
  rfl

/-- Layers are stacked one at a time, each over what is below it. -/
theorem stack_cons_eq_ok {shortest : Bool} {current : String} {index : Nat} {layer : Layer}
    {rest : List Layer} {statements : List Statement} :
    stack shortest current index (layer :: rest) = .ok statements ↔
      ∃ chain others, overlayFilter layer.x layer.y shortest = .ok chain ∧
        stack shortest (Pad.layer index).name (index + 1) rest = .ok others ∧
        statements = ⟨[current, layer.pad], chain, (Pad.layer index).name⟩ :: others := by
  simp only [stack, bind_eq_ok, pure_eq_ok, eq_comm (b := statements), exists_and_left]
  rfl

/-- Every overlay in a stack lays one of the layers at its place. -/
theorem exists_layer_of_stack {shortest : Bool} {current : String} {index : Nat} {layers : List Layer}
    {statements : List Statement} (stacked : stack shortest current index layers = .ok statements) :
    ∀ s ∈ statements, ∃ layer ∈ layers, overlayFilter layer.x layer.y shortest = .ok s.chain := by
  induction layers generalizing current index statements with
  | nil =>
    obtain rfl : [] = statements := Except.ok.inj stacked
    exact List.forall_mem_nil _
  | cons layer rest ih =>
    obtain ⟨chain, others, laid, above, rfl⟩ := stack_cons_eq_ok.mp stacked
    refine List.forall_mem_cons.mpr ⟨⟨layer, List.mem_cons_self, laid⟩, fun s member => ?_⟩
    obtain ⟨other, present, placed⟩ := ih above s member
    exact ⟨other, List.mem_cons_of_mem _ present, placed⟩

end Montage.Composition
