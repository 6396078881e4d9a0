import Montage.Assets
import Montage.Caption.Drawing

/-! # Composition

A scene becomes a filter program over the engine's inputs: input 0 is a plain canvas, input 1 the
main medium, and the inputs from 2 on are the stickers as declared. The main medium is laid on the
canvas first, then stickers and captions by depth; at equal depth stickers come before captions, and
both in the order of their declaration. Moving pictures differ in three ways: overlays end with the
shortest input, sources carry the frame rate, and the result is locked to it.
-/

namespace Montage

/-- A picture or text box that waits to be laid on the composite. -/
structure Layer where
  depth : Int
  pad : String
  x : Rat
  y : Rat
  deriving DecidableEq, Repr

/-- Layers from the lowest to the highest; layers of one depth keep their order. -/
def Layer.inOrder (layers : List Layer) : List Layer :=
  layers.mergeSort fun a b => decide (a.depth ≤ b.depth)

/-- Why a scene cannot be composed. -/
inductive CompositionFault where
  | asset (fault : AssetFault)
  | range (fault : RangeFault)
  | graph (fault : Graph.Fault)
  deriving DecidableEq, Repr

/-- The wording of a fault. -/
def CompositionFault.message : CompositionFault → String
  | .asset fault => fault.message
  | .range fault => fault.message
  | .graph fault => fault.message

/-- Everything that the engine needs to know about a composed scene. -/
structure Composition where
  kind : MediaKind
  canvas : Canvas
  canvasSource : String
  program : Graph.Program
  stickerPaths : List String
  frameRate : Option Int

namespace Composition

/-- The frame rate that sources carry and the result is locked to; still pictures have none. -/
def frameRateOf (settings : Settings) : MediaKind → Option Int
  | .image => none
  | .video => some settings.targetRate

/-- Whether overlays end with their shortest input. -/
def endsWithShortest : MediaKind → Bool
  | .image => false
  | .video => true

/-- The source of the canvas, in the background colour. -/
def canvasSourceOf (canvas : Canvas) (color : Option String) (rate : Option Int) :
    Except RangeFault String := do
  let color ← Color.resolveText color
  return s!"color=size={canvas.width}x{canvas.height}" ++ Caption.rateParameter "rate" rate ++
    s!":color={color}"

/-- Lays the second input over the first, its corner at a place. -/
def overlayFilter (x y : Rat) (shortest : Bool) : Except RangeFault String := do
  let x ← placeText x
  let y ← placeText y
  return s!"overlay={x}:{y}:format=auto" ++ (if shortest then ":shortest=1" else "")

/-- A number that was left out or is zero counts as not given. -/
def given? (x : Option Binary64) : Option Binary64 := x.filter fun x => !x.isZero

/-- The filter that keeps a part of the main medium, when its width and height are given. -/
def cropFilters (crop : Option Crop) : Except RangeFault (List String) :=
  match crop with
  | none => .ok []
  | some crop =>
    match given? crop.width, given? crop.height with
    | some width, some height => do
      let width ← roundHalfUp width
      let height ← roundHalfUp height
      let x ← roundHalfUp ((given? crop.x).getD .zero)
      let y ← roundHalfUp ((given? crop.y).getD .zero)
      return [s!"crop={width}:{height}:{x}:{y}"]
    | _, _ => .ok []

/-- The filters that give the main medium its size: the size asked for, moved into the canvas, or
the whole canvas, with what sticks out cut off. -/
def scaleFilters (content : Content) (canvas : Canvas) : List String :=
  match content.size.filter Size.isGiven with
  | some size =>
    let box := clampBox content.position.x content.position.y size.width size.height
      canvas.width canvas.height
    [s!"scale={box.width}:{box.height}:flags=bicubic"]
  | none =>
    [s!"scale={canvas.width}:{canvas.height}:force_original_aspect_ratio=increase",
      s!"crop={canvas.width}:{canvas.height}"]

/-- The statement of the main medium: cut, turned, scaled, and filtered as asked. -/
def mainStatement (content : Content) (canvas : Canvas) : Except RangeFault Graph.Statement := do
  let crop ← cropFilters content.crop
  let rotate := if content.rotation.isZero then [] else [Caption.rotateFilter content.rotation]
  let raw := if Text.isBlankText content.rawFilter then [] else [content.rawFilter]
  return ⟨["1:v"], ",".intercalate (crop ++ rotate ++ scaleFilters content canvas ++ raw), "main"⟩

/-- The statement that lays the main medium on the canvas. -/
def baseStatement (content : Content) (canvas : Canvas) (shortest : Bool) :
    Except RangeFault Graph.Statement := do
  let (x, y) := clampPosition (some content.position.x) (some content.position.y)
    canvas.width canvas.height
  return ⟨["0:v", "main"], ← overlayFilter x y shortest, "base0"⟩

/-- The filters of a sticker. -/
def stickerFilters (sticker : Sticker) (canvas : Canvas) : List String :=
  let scale := match sticker.size.filter Size.isGiven with
    | some size =>
      s!"scale={clampToInt size.width 1 canvas.width}:{clampToInt size.height 1 canvas.height}"
    | none =>
      let factor := if sticker.scale.isZero then "1" else sticker.scale.plainText
      s!"scale=iw*{factor}:ih*{factor}"
  let rotate :=
    if sticker.rotation.isZero then [] else [Caption.rotateFilter sticker.rotation ++ ":c=black@0"]
  let fade :=
    if Binary64.zero.le sticker.opacity && sticker.opacity.lt 1 then
      [s!"colorchannelmixer=aa={sticker.opacity.plainText}"]
    else []
  "format=rgba" :: scale :: rotate ++ fade

/-- The statement and the layer of the sticker with an index. -/
def stickerLayer (canvas : Canvas) (sticker : Sticker) (index : Nat) : Graph.Statement × Layer :=
  let (x, y) := clampPosition (some sticker.position.x) (some sticker.position.y)
    canvas.width canvas.height
  (⟨[s!"{index + 2}:v"], ",".intercalate (stickerFilters sticker canvas), s!"s{index}"⟩,
    ⟨sticker.depth, s!"s{index}", x, y⟩)

/-- The pad that a list of statements ends with. -/
def lastPad (statements : List Graph.Statement) : String :=
  (statements.getLast?.map Graph.Statement.output).getD ""

/-- The statements and the layer of the caption with an index. -/
def captionLayer (renderer : Caption.Renderer) (caption : Caption) (fontPath : String)
    (index : Nat) : Except RangeFault (List Graph.Statement × Layer) := do
  let (statements, layout) ← renderer.statements caption index fontPath
  return (statements, ⟨caption.depth, lastPad statements, layout.x, layout.y⟩)

/-- The statements that lay layers one after the other over a pad. -/
def stack (shortest : Bool) (current : String) (index : Nat) :
    List Layer → Except RangeFault (List Graph.Statement)
  | [] => .ok []
  | layer :: rest => do
    let pad := s!"layer{index}"
    let filter ← overlayFilter layer.x layer.y shortest
    let others ← stack shortest pad (index + 1) rest
    return ⟨[current, layer.pad], filter, pad⟩ :: others

/-- The statement that locks the result to a frame rate. -/
def lockStatements (current : String) : Option Int → List Graph.Statement
  | none => []
  | some rate => [⟨[current], s!"fps={rate}", "vout"⟩]

/-- The program of a scene whose fonts have been found. -/
def programOf (settings : Settings) (scene : Scene) (kind : MediaKind) (fontPaths : List String) :
    Except RangeFault Graph.Program := do
  let canvas := scene.canvas
  let shortest := endsWithShortest kind
  let rate := frameRateOf settings kind
  let main ← mainStatement scene.content canvas
  let base ← baseStatement scene.content canvas shortest
  let stickers := scene.stickers.zipIdx.map fun (sticker, index) => stickerLayer canvas sticker index
  let renderer : Caption.Renderer := ⟨canvas, settings.captionPadding, rate⟩
  let captions ← ((scene.captions.zip fontPaths).zipIdx).mapM fun ((caption, fontPath), index) =>
    captionLayer renderer caption fontPath index
  let layers := Layer.inOrder (stickers.map Prod.snd ++ captions.map Prod.snd)
  let overlays ← stack shortest "base0" 0 layers
  let built := main :: base :: (stickers.map Prod.fst ++ captions.flatMap Prod.fst ++ overlays)
  return ({} : Graph.Program).addAll (built ++ lockStatements (lastPad built) rate)

/-- A text, or another one in place of an empty or missing text. -/
def orElse (text : Option String) (other : String) : String :=
  match text with
  | none | some "" => other
  | some text => text

/-- The files of a scene's stickers and fonts. -/
def resolveAssets (assets : AssetResolver) (settings : Settings) (scene : Scene) :
    Except AssetFault (List String × List String) := do
  let stickers ← scene.stickers.mapM fun sticker => assets.sticker sticker.name
  let fonts ← scene.captions.mapM fun caption =>
    assets.font (orElse (some caption.fontFamily) settings.defaultFontFamily)
      (orElse caption.fontWeight settings.defaultFontWeight)
  return (stickers, fonts)

/-- Composes a scene once its assets have been found. -/
def compileWith (settings : Settings) (scene : Scene) (kind : MediaKind)
    (stickerPaths fontPaths : List String) : Except CompositionFault Composition := do
  let rate := frameRateOf settings kind
  let program ← (programOf settings scene kind fontPaths).mapError .range
  let source ← (canvasSourceOf scene.canvas scene.backgroundColor rate).mapError .range
  let _ ← (program.validate (2 + stickerPaths.length)).mapError .graph
  return ⟨kind, scene.canvas, source, program, stickerPaths, rate⟩

/-- Composes a scene; all assets are found before anything is built. -/
def compile (assets : AssetResolver) (settings : Settings) (scene : Scene) (kind : MediaKind) :
    Except CompositionFault Composition := do
  let (stickers, fonts) ← (resolveAssets assets settings scene).mapError .asset
  compileWith settings scene kind stickers fonts

/-- The pad that the engine writes out. -/
def outputPad (c : Composition) : String := Composition.orElse c.program.outputPad "base0"

/-- The arguments of one sticker's input; in moving pictures it is repeated at the frame rate. -/
def stickerArgs (c : Composition) (path : String) : List String :=
  match c.kind with
  | .image => ["-i", path]
  | .video =>
    ["-loop", "1", "-framerate", (c.frameRate.map toString).getD "None", "-i", path]

/-- The engine's input arguments, in the order in which the program counts its inputs. -/
def inputArgs (c : Composition) (mainInput : String) : List String :=
  ["-y", "-f", "lavfi", "-i", c.canvasSource, "-i", mainInput] ++ c.stickerPaths.flatMap c.stickerArgs

/-- The engine's arguments for the program and its output. -/
def graphArgs (c : Composition) : List String :=
  ["-filter_complex", c.program.render, "-map", Graph.label c.outputPad]

end Composition

end Montage
