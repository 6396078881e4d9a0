import Montage.Number.Decimal

/-! # Scenes

A scene is a canvas, one main medium on it, and stickers and captions that share one order of depth.
-/

namespace Montage

/-- A frame in pixels with at least one pixel. -/
structure Canvas where
  width : Nat
  height : Nat
  width_pos : 0 < width
  height_pos : 0 < height
  deriving DecidableEq, Repr

/-- The size of a canvas that was asked for and cannot be. -/
structure CanvasFault where
  width : Int
  height : Int
  deriving DecidableEq, Repr

/-- The wording of a refused canvas. -/
def CanvasFault.message (fault : CanvasFault) : String :=
  s!"Canvas dimensions must be positive, got {fault.width}x{fault.height}"

namespace Canvas

/-- The upright frame of nine to sixteen. -/
def reel : Canvas := ⟨1080, 1920, by decide, by decide⟩

/-- The upright frame of four to five. -/
def post : Canvas := ⟨1080, 1350, by decide, by decide⟩

/-- A canvas of a given size, which has to be positive. -/
def ofSize (width height : Int) : Except CanvasFault Canvas :=
  if positive : 0 < width ∧ 0 < height then
    .ok ⟨width.toNat, height.toNat, by omega, by omega⟩
  else .error ⟨width, height⟩

end Canvas

/-- Whether a still or a moving picture is composed. -/
inductive MediaKind where
  | image
  | video
  deriving DecidableEq, Repr

/-- The name of a kind of media. -/
def MediaKind.name : MediaKind → String
  | .image => "image"
  | .video => "video"

/-- The kind of media of a name. -/
def MediaKind.ofName? : String → Option MediaKind
  | "image" => some .image
  | "video" => some .video
  | _ => none

/-- A place on the canvas. -/
structure Position where
  x : Binary64 := .zero
  y : Binary64 := .zero

/-- A size that was asked for. -/
structure Size where
  width : Binary64
  height : Binary64

/-- Whether neither side is zero; only then does a size count. -/
def Size.isGiven (size : Size) : Bool := !size.width.isZero && !size.height.isZero

/-- The part of the main medium that is kept; it counts only with a width and a height. -/
structure Crop where
  x : Option Binary64 := some .zero
  y : Option Binary64 := some .zero
  width : Option Binary64 := none
  height : Option Binary64 := none

/-- The main medium. The raw filter is appended to its chain as it is. -/
structure Content where
  position : Position := {}
  size : Option Size := none
  rotation : Binary64 := .zero
  crop : Option Crop := none
  rawFilter : String := ""

/-- A picture put over the composite. -/
structure Sticker where
  name : String
  position : Position := {}
  size : Option Size := none
  scale : Binary64 := 1
  rotation : Binary64 := .zero
  depth : Int := 0
  opacity : Binary64 := 1

/-- A box of text put over the composite. Its place and size are shares of the canvas up to one, and
pixels above. -/
structure Caption where
  text : String
  x : Option Binary64
  y : Option Binary64
  width : Option Binary64
  height : Option Binary64
  fontFamily : String
  color : Option String := some "rgba(255, 255, 255, 1)"
  rotation : Option Binary64 := none
  fontWeight : Option String := none
  backgroundColor : Option String := none
  depth : Int := 0

/-- What is to be composed. -/
structure Scene where
  canvas : Canvas := .reel
  content : Content := {}
  stickers : List Sticker := []
  captions : List Caption := []
  backgroundColor : Option String := some "#000000"
  quality : Binary64 := 90

end Montage
