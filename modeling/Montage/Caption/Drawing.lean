import Montage.Caption.Layout
import Montage.Caption.Text
import Montage.Color
import Montage.Graph.Program

/-! # Caption drawing

A caption contributes two statements to a program, or three when it is rotated: a transparent canvas,
the text on it, and the rotation.
-/

namespace Montage.Caption

/-- What all captions of a scene have in common. A frame rate is given for moving pictures. -/
structure Renderer where
  canvas : Canvas
  padding : Int
  frameRate : Option Int

/-- A rotation as the engine takes it, in radians; the corners of the turned picture are kept. -/
def rotateFilter (degrees : Binary64) : String :=
  s!"rotate={(toRadians degrees).plainText}:ow=rotw(iw):oh=roth(ih)"

/-- An optional frame rate as a parameter; zero counts as none. -/
def rateParameter (key : String) (rate : Option Int) : String :=
  match rate with
  | none | some 0 => ""
  | some rate => s!":{key}={rate}"

namespace Renderer

/-- The filter that draws a prepared text. -/
def drawFilter (renderer : Renderer) (caption : Caption) (prepared : Prepared) (layout : Layout)
    (fontPath : String) : Except RangeFault String := do
  let color ← Color.resolveText caption.color
  let background ← match caption.backgroundColor with
    | none | some "" => pure []
    | some background =>
      let color ← Color.resolve background.toList
      pure ["box=1", s!"boxcolor={color}", s!"boxborderw={renderer.padding}"]
  let size := layout.fontSize
  let spacing := layout.lineSpacing
  let lines := layout.lines
  let path := String.ofList (escapePath fontPath.toList)
  return ":".intercalate ([
    "drawtext=fontfile='" ++ path ++ "'",
    "text='" ++ prepared.escaped ++ "'",
    s!"fontsize={size}",
    s!"fontcolor={color}",
    "x=(w-text_w)/2",
    s!"y=(h - (({size} * {lines}) + ({spacing} * ({lines} - 1)))) / 2",
    s!"line_spacing={spacing}"] ++ background)

/-- The canvas that a caption is drawn on. -/
def sourceFilter (renderer : Renderer) (layout : Layout) : String :=
  s!"color=c=black@0:s={layout.boxWidth}x{layout.boxHeight}" ++ rateParameter "r" renderer.frameRate

/-- The statements of one caption, whose pads carry its index, with its layout. -/
def statements (renderer : Renderer) (caption : Caption) (index : Nat) (fontPath : String) :
    Except RangeFault (List Graph.Statement × Layout) := do
  let prepared := prepare caption.text
  let layout ← layout caption renderer.canvas prepared.lines renderer.padding
  let text ← renderer.drawFilter caption prepared layout fontPath
  let drawn : List Graph.Statement := [
    ⟨[], renderer.sourceFilter layout, s!"tc{index}"⟩,
    ⟨[s!"tc{index}"], text, s!"tt{index}"⟩]
  let rotation := caption.rotation.getD .zero
  if rotation.isZero then return (drawn, layout)
  else
    return (drawn ++ [⟨[s!"tt{index}"], rotateFilter rotation ++ ":c=black@0", s!"tr{index}"⟩], layout)

end Renderer

end Montage.Caption
