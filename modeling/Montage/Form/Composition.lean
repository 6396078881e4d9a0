import Montage.Form.Value
import Montage.Processing.Compose

/-! # Forms of scenes

A request for a composition names the main medium and describes the scene around it.
-/

namespace Montage.Form

/-- A background: its nominal aspect ratio, which is not used, and its color. -/
structure Background where
  aspectRatio : String := "9:16"
  color : String := "#000000"

/-- Filters for the main medium: an expression of the engine, and an order that is only reported. -/
structure Filters where
  expression : Option String := none
  order : Option (List String) := none

/-- A request for a composition. -/
structure CompositionRequest where
  url : String
  post : Bool
  kind : MediaKind
  background : Background
  content : Content
  filters : Filters
  stickers : List Sticker
  captions : Option (List Caption)
  quality : Binary64

/-- Reads a coordinate of a scene. -/
def coordinate : FormReader Binary64 := boundedNumber { least := some 0 }

/-- Reads a rotation in degrees. -/
def rotation : FormReader Binary64 := boundedNumber { least := some (-180), most := some 180 }

/-- Reads a position. -/
def position : FormReader Position :=
  form "PositionSchema" fun fields => do
    let x ← required fields "x" coordinate
    let y ← required fields "y" coordinate
    return { x := x, y := y }

/-- Reads a size. -/
def size : FormReader Size :=
  form "SizeSchema" fun fields => do
    let side := boundedNumber { least := some 1, most := some 2000 }
    let width ← required fields "width" side
    let height ← required fields "height" side
    return { width := width, height := height }

/-- Reads a crop. -/
def crop : FormReader Crop :=
  form "CropSchema" fun fields => do
    let side := nullable (boundedNumber { least := some 1 })
    let x ← withDefault fields "x" 0 coordinate
    let y ← withDefault fields "y" 0 coordinate
    let width ← withDefault fields "width" none side
    let height ← withDefault fields "height" none side
    return { x := some x, y := some y, width := width, height := height }

/-- Reads a background. -/
def background : FormReader Background :=
  form "BackgroundSchema" fun fields => do
    let aspectRatio ← withDefault fields ⟨"aspectRatio", "aspect_ratio"⟩ "9:16"
      (choice [("9:16", "9:16"), ("4:5", "4:5")])
    let color ← withDefault fields "color" "#000000" text
    return { aspectRatio := aspectRatio, color := color }

/-- The crop that is taken when there is none: all of the medium. -/
def wholeCrop : Crop := { x := some 0, y := some 0, width := none, height := none }

/-- The placement of the main medium when there is none. -/
def plainContent : Content :=
  { position := ⟨0, 0⟩, size := none, rotation := 0, crop := some wholeCrop, rawFilter := "" }

/-- Reads the placement of the main medium. -/
def content : FormReader Content :=
  form "ContentSchema" fun fields => do
    let place ← withDefault fields "position" ⟨0, 0⟩ position
    let extent ← withDefault fields "size" none (nullable size)
    let angle ← withDefault fields "rotation" 0 rotation
    let cut ← withDefault fields "crop" wholeCrop crop
    return { position := place, size := extent, rotation := angle, crop := some cut, rawFilter := "" }

/-- Reads filters. -/
def filters : FormReader Filters :=
  form "FiltersSchema" fun fields => do
    let expression ← withDefault fields "ffmpeg" none (nullable text)
    let order ← withDefault fields "order" none (nullable (list text))
    return { expression := expression, order := order }

/-- Reads a sticker. -/
def sticker : FormReader Sticker :=
  form "StickerSchema" fun fields => do
    let name ← required fields "name" text
    let place ← required fields "position" position
    let extent ← withDefault fields "size" none (nullable size)
    let scale ← withDefault fields "scale" 1 (boundedNumber { above := some 0 })
    let angle ← withDefault fields "rotation" 0 rotation
    let depth ← withDefault fields "z" 0 integer
    let opacity ← withDefault fields "opacity" 1
      (boundedNumber { least := some 0, most := some 1 })
    return {
      name := name, position := place, size := extent, scale := scale, rotation := angle,
      depth := depth, opacity := opacity }

/-- Reads a caption. -/
def caption : FormReader Caption :=
  form "TextOverlaySchema" fun fields => do
    let words ← required fields "text" text
    let x ← required fields "x" number
    let y ← required fields "y" number
    let width ← required fields "width" number
    let height ← required fields "height" number
    let angle ← withDefault fields "rotation" none (nullable number)
    let family ← required fields ⟨"fontFamily", "font_family"⟩ text
    let weight ← withDefault fields ⟨"fontWeight", "font_weight"⟩ none (nullable text)
    let color ← withDefault fields "color" "rgba(255, 255, 255, 1)" text
    let backgroundColor ← withDefault fields ⟨"backgroundColor", "background_color"⟩ none
      (nullable text)
    let depth ← withDefault fields "z" 0 integer
    return {
      text := words, x := some x, y := some y, width := some width, height := some height,
      rotation := angle, fontFamily := family, fontWeight := weight, color := some color,
      backgroundColor := backgroundColor, depth := depth }

/-- Reads the quality of an output. -/
def output : FormReader Binary64 :=
  form "OutputSchema" fun fields =>
    withDefault fields "quality" 90 (boundedNumber { least := some 1, most := some 100 })

/-- Reads a request for a composition. -/
def composition : FormReader CompositionRequest :=
  form "ComposeRequest" fun fields => do
    let url ← required fields ⟨"sourceUrl", "source_url"⟩ filledText
    let post ← withDefault fields "post" false boolean
    let kind ← required fields ⟨"mediaType", "media_type"⟩
      (choice [("image", MediaKind.image), ("video", MediaKind.video)])
    let background ← withDefault fields "background" {} background
    let content ← withDefault fields "content" plainContent content
    let filters ← withDefault fields "filters" {} filters
    let stickers ← withDefault fields "stickers" [] (list sticker)
    let captions ← withDefault fields ⟨"textOverlays", "text_overlays"⟩ none (nullable (list caption))
    let quality ← withDefault fields "output" 90 output
    return {
      url := url, post := post, kind := kind, background := background, content := content,
      filters := filters, stickers := stickers, captions := captions, quality := quality }

namespace CompositionRequest

/-- The scene that a request describes. -/
def scene (request : CompositionRequest) : Scene where
  canvas := if request.post then .post else .reel
  content := { request.content with rawFilter := request.filters.expression.getD "" }
  stickers := request.stickers
  captions := request.captions.getD []
  backgroundColor := some request.background.color
  quality := request.quality

/-- The job that a request asks for. -/
def job (request : CompositionRequest) : ComposeJob where
  scene := request.scene
  kind := request.kind
  url := request.url

end CompositionRequest

end Montage.Form
