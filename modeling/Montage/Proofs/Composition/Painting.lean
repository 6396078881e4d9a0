import Montage.Proofs.Composition.Tree
import Montage.Proofs.Graph.Unfolding

/-! # What a composition shows

A scene is painted from the bottom to the top: the main medium is laid on the canvas, then every
sticker and caption is laid on what is already there, each at its own place. The painter knows no pads
and no statements; that a composed program shows what the painter paints relates the two.
-/

namespace Montage.Composition

open Montage.Graph

/-- Which sticker or caption of a scene a layer is. -/
inductive Origin where
  | sticker (index : Nat)
  | caption (index : Nat)
  deriving DecidableEq

/-- Stickers are declared before captions, and both in order. -/
def Origin.Before : Origin → Origin → Prop
  | sticker first, sticker second => first < second
  | sticker _, caption _ => True
  | caption _, sticker _ => False
  | caption first, caption second => first < second

/-- A layer as the painter knows it: where it comes from and goes to, and what it shows. -/
structure PaintedLayer where
  origin : Origin
  depth : Int
  x : Rat
  y : Rat
  picture : Picture

/-- Whether a layer is painted before another one. -/
def PaintedLayer.Below (a b : PaintedLayer) : Prop :=
  a.depth < b.depth ∨ a.depth = b.depth ∧ a.origin.Before b.origin

/-- A sticker: its stream through its filters, at its place on the canvas. -/
def paintSticker (canvas : Canvas) (sticker : Sticker) (index : Nat) : PaintedLayer where
  origin := .sticker index
  depth := sticker.depth
  x := clampCoordinate (some sticker.position.x) canvas.width
  y := clampCoordinate (some sticker.position.y) canvas.height
  picture := .filtered (",".intercalate (stickerFilters sticker canvas)) [.stream (videoStream (index + 2))]

/-- The picture of a caption: its text on a canvas of its own, turned if asked for. -/
def captionPicture (renderer : Caption.Renderer) (caption : Caption) (layout : Caption.Layout)
    (text : String) : Picture :=
  let drawn := Picture.filtered text [.filtered (renderer.sourceFilter layout) []]
  if isTurned caption then
    .filtered (Caption.rotateFilter (caption.rotation.getD .zero) ++ ":c=black@0") [drawn]
  else drawn

/-- A caption: its picture at its place on the canvas. -/
def paintCaption (renderer : Caption.Renderer) (caption : Caption) (fontPath : String) (index : Nat) :
    Except RangeFault PaintedLayer := do
  let prepared := Caption.prepare caption.text
  let left ← toExtentPixels caption.x renderer.canvas.width
  let top ← toExtentPixels caption.y renderer.canvas.height
  let layout ← Caption.layout caption renderer.canvas prepared.lines renderer.padding
  let text ← renderer.drawFilter caption prepared layout fontPath
  return {
    origin := .caption index
    depth := caption.depth
    x := clampCoordinate (some left) renderer.canvas.width
    y := clampCoordinate (some top) renderer.canvas.height
    picture := captionPicture renderer caption layout text }

/-- All layers of a scene in the order of their declaration. -/
def paintLayers (settings : Settings) (scene : Scene) (kind : MediaKind) (fontPaths : List String) :
    Except RangeFault (List PaintedLayer) := do
  let captions ← (captionItems scene fontPaths).mapM fun item =>
    paintCaption (rendererOf settings scene kind) item.1.1 item.1.2 item.2
  return (scene.stickers.zipIdx.map fun item => paintSticker scene.canvas item.1 item.2) ++ captions

/-- Lays a picture on another one, its corner at a place. -/
def lay (kind : MediaKind) (x y : Rat) (below above : Picture) : Except RangeFault Picture := do
  return .filtered (← overlayFilter x y (endsWithShortest kind)) [below, above]

/-- The main medium: its stream, cut, turned, scaled and filtered as asked. -/
def paintMain (content : Content) (canvas : Canvas) : Except RangeFault Picture := do
  let crop ← cropFilters content.crop
  let turn := if content.rotation.isZero then [] else [Caption.rotateFilter content.rotation]
  let raw := if Text.isBlankText content.rawFilter then [] else [content.rawFilter]
  return .filtered (",".intercalate (crop ++ turn ++ scaleFilters content canvas ++ raw))
    [.stream (videoStream 1)]

/-- The main medium on the canvas. -/
def paintGround (scene : Scene) (kind : MediaKind) : Except RangeFault Picture := do
  lay kind (clampCoordinate (some scene.content.position.x) scene.canvas.width)
    (clampCoordinate (some scene.content.position.y) scene.canvas.height)
    (.stream (videoStream 0)) (← paintMain scene.content scene.canvas)

/-- Lays layers on a picture, one after the other. -/
def paintOver (kind : MediaKind) (ground : Picture) (layers : List PaintedLayer) :
    Except RangeFault Picture :=
  layers.foldlM (fun below layer => lay kind layer.x layer.y below layer.picture) ground

/-- A picture at the frame rate of moving pictures. -/
def atRate (rate : Option Int) (picture : Picture) : Picture :=
  match rate with
  | none => picture
  | some rate => .filtered s!"fps={rate}" [picture]

/-- Layers that are declared in order are sorted into the order of painting. -/
theorem below_mergeSort {declared : List PaintedLayer}
    (order : declared.Pairwise fun a b => a.origin.Before b.origin) :
    (declared.mergeSort fun a b => decide (a.depth ≤ b.depth)).Pairwise PaintedLayer.Below := by
  have trans (a b c : PaintedLayer) : decide (a.depth ≤ b.depth) = true →
      decide (b.depth ≤ c.depth) = true → decide (a.depth ≤ c.depth) = true := by
    simp only [decide_eq_true_eq]
    exact Int.le_trans
  have total (a b : PaintedLayer) :
      (decide (a.depth ≤ b.depth) || decide (b.depth ≤ a.depth)) = true := by
    simpa using Int.le_total a.depth b.depth
  induction declared with
  | nil => simp
  | cons layer rest ih =>
    obtain ⟨first, later⟩ := List.pairwise_cons.mp order
    obtain ⟨lower, upper, sorted, others, strict⟩ := List.mergeSort_cons trans total layer rest
    have depths := List.pairwise_mergeSort trans total (layer :: rest)
    have kept := ih later
    have same := List.mergeSort_perm rest fun a b => decide (a.depth ≤ b.depth)
    rw [sorted] at depths ⊢
    rw [others] at kept same
    obtain ⟨below, above, apart⟩ := List.pairwise_append.mp kept
    refine List.pairwise_append.mpr ⟨below, List.pairwise_cons.mpr ⟨?_, above⟩, ?_⟩
    · intro other present
      have le := List.rel_of_pairwise_cons (List.pairwise_append.mp depths).2.1 present
      have member := same.mem_iff.mp (List.mem_append_right lower present)
      rcases Int.lt_or_eq_of_le (of_decide_eq_true le) with deeper | equal
      · exact .inl deeper
      · exact .inr ⟨equal, first other member⟩
    · intro a here b there
      rcases List.mem_cons.mp there with rfl | there
      · have lower := strict a here
        simp only [Bool.not_eq_true', decide_eq_false_iff_not, Int.not_le] at lower
        exact .inl lower
      · exact apart a here b there

theorem declared_before {settings : Settings} {scene : Scene} {kind : MediaKind}
    {fontPaths : List String} {declared : List PaintedLayer}
    (painted : paintLayers settings scene kind fontPaths = .ok declared) :
    declared.Pairwise fun a b => a.origin.Before b.origin := by
  simp only [paintLayers, bind_eq_ok, pure_eq_ok, mapM_eq_ok] at painted
  obtain ⟨captions, taken, rfl⟩ := painted
  have origins : captions.map PaintedLayer.origin =
      ((captionItems scene fontPaths).map Prod.snd).map Origin.caption := by
    generalize captionItems scene fontPaths = items at taken
    induction taken with
    | nil => rfl
    | cons first _ ih =>
      simp only [paintCaption, bind_eq_ok, pure_eq_ok] at first
      obtain ⟨_, _, _, _, _, _, _, _, rfl⟩ := first
      simp only [List.map_cons, ih]
  have numbers : ((captionItems scene fontPaths).map Prod.snd).Pairwise (· < ·) :=
    List.pairwise_map.mpr (pairwise_index (scene.captions.zip fontPaths))
  refine List.pairwise_append.mpr ⟨?_, ?_, ?_⟩
  · exact List.pairwise_map.mpr (pairwise_index scene.stickers)
  · rw [← List.pairwise_map (f := PaintedLayer.origin) (R := Origin.Before), origins]
    exact List.pairwise_map.mpr numbers
  · intro a sticker b caption
    obtain ⟨item, _, rfl⟩ := List.mem_map.mp sticker
    have origin := List.mem_map_of_mem (f := PaintedLayer.origin) caption
    rw [origins] at origin
    obtain ⟨index, _, same⟩ := List.mem_map.mp origin
    rw [← same]
    trivial

end Montage.Composition
