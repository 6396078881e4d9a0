import Montage.Geometry
import Montage.Scene

/-! # Caption layout

A caption is drawn on a canvas of its own. The width asked for fixes the size of the letters, the
letters and the number of lines fix the height, and a padding goes around both.
-/

namespace Montage.Caption

/-- The measures of a caption's own canvas. -/
structure Layout where
  x : Rat
  y : Rat
  boxWidth : Int
  boxHeight : Int
  fontSize : Int
  lineSpacing : Int
  lines : Int
  deriving DecidableEq, Repr

/-- The smallest size of letters. -/
def minFontSize : Int := 8

/-- The size of letters for a box width and a canvas height: 24 for a box of 400 by 200, scaled by
the tighter of the two sides. -/
def fontSize (boxWidth canvasHeight : Int) : Except RangeFault Int := do
  let across ← Binary64.ofQuotient? boxWidth 400
  let down ← Binary64.ofQuotient? canvasHeight 200
  let size ← (24 * Binary64.min across down).floor
  return max minFontSize size

/-- The space between two lines: four fifths of the letters. -/
def lineSpacing (fontSize : Int) : Except RangeFault Int := do
  ((← Binary64.ofInt? fontSize) * Binary64.ofRat (4 / 5)).floor

/-- The place, box and letters of a caption with a number of lines. -/
def layout (caption : Caption) (canvas : Canvas) (lines padding : Int) :
    Except RangeFault Layout := do
  let left ← toExtentPixels caption.x canvas.width
  let top ← toExtentPixels caption.y canvas.height
  let (x, y) := clampPosition (some left) (some top) canvas.width canvas.height
  let width ← roundHalfUp (← toExtentPixels caption.width canvas.width)
  let width := max 1 width
  let letters ← fontSize width canvas.height
  let spacing ← lineSpacing letters
  return {
    x := x
    y := y
    boxWidth := width + padding * 2
    boxHeight := letters * lines + spacing * (lines - 1) + padding * 2
    fontSize := letters
    lineSpacing := spacing
    lines := lines }

end Montage.Caption
