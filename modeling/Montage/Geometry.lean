import Montage.Number.Decimal

/-! # Canvas geometry

Coordinates and sizes arrive as doubles of any kind and leave as integers inside the canvas, or as
exact fractions of a pixel for overlay positions. Out of range, infinite and missing numbers are
moved to the nearest admissible one; only the bare rounding functions refuse a number.
-/

namespace Montage

/-- The nearest integer, a tie going up; the half is added in double arithmetic. -/
def roundHalfUp (x : Binary64) : Except RangeFault Int :=
  (x + Binary64.ofRat (1 / 2)).floor

/-- The number moved into an interval; "not a number" stays what the comparisons leave it. -/
def clamp (x low high : Binary64) : Binary64 := Binary64.min high (Binary64.max low x)

/-- The number moved into an interval, with the lower end in place of no number. -/
def clampHandlingNan (x : Option Binary64) (low high : Binary64) : Binary64 :=
  match x with
  | none | some .nan => low
  | some x => clamp x low high

/-- The nearest integer of an interval: its low end for no number, its ends for the infinities. -/
def clampToInt (x : Binary64) (low high : Int) : Int :=
  match x with
  | .nan => low
  | .infinite negative => if negative then low else high
  | x => match roundHalfUp x with
    | .ok n => max low (min high n)
    | .error _ => low

/-- A number up to one is a share of `total`, a greater one stands for itself, and a missing or
infinite one is zero. -/
def toPixels (x : Option Binary64) (total : Binary64) : Binary64 :=
  match x with
  | none => .zero
  | some x => if x.isFinite then (if x.le 1 then x * total else x) else .zero

/-- `toPixels` over an integer extent, which must be a double only if a share is taken of it. -/
def toExtentPixels (x : Option Binary64) (extent : Int) : Except RangeFault Binary64 :=
  match x with
  | none => .ok .zero
  | some x =>
    if x.isFinite && x.le 1 then return x * (← Binary64.ofInt? extent)
    else .ok (toPixels (some x) .zero)

/-- A rational for a filter expression: an integer without a fraction, anything else with exactly
four places, ties away from zero. -/
def coordinateText (r : Rat) : String :=
  if r.den = 1 then toString r.num else fixedText r 4 .awayFromZero

/-- An overlay coordinate for a filter expression; there is none beyond every double. -/
def placeText (r : Rat) : Except RangeFault String :=
  match Binary64.ofRat r with
  | .infinite _ => .error .doubleOfInteger
  | _ => .ok (coordinateText r)

/-- A double for a filter expression; an infinity has no such form. -/
def expressionText (x : Binary64) : Except RangeFault String :=
  match x with
  | .nan => .ok "NaN"
  | .infinite _ => .error .placesOfInfinity
  | .negZero => .ok (coordinateText 0)
  | .finite value _ => .ok (coordinateText value)

/-- The double nearest to the ratio of a circle's circumference to its diameter. -/
def circleRatio : Binary64 := Binary64.ofRat (mkRat 3141592653589793 1000000000000000)

/-- Degrees as radians. -/
def toRadians (degrees : Binary64) : Binary64 := degrees * circleRatio / 180

/-- A rectangle in whole pixels. -/
structure Box where
  x : Int
  y : Int
  width : Int
  height : Int
  deriving DecidableEq, Repr

/-- A rectangle moved into a canvas: its size first, then its origin within what is left. -/
def clampBox (x y width height : Binary64) (canvasWidth canvasHeight : Int) : Box :=
  let w := clampToInt width 1 canvasWidth
  let h := clampToInt height 1 canvasHeight
  { x := clampToInt x 0 (canvasWidth - w)
    y := clampToInt y 0 (canvasHeight - h)
    width := w
    height := h }

/-- An overlay coordinate moved into `[0, extent]`, fractions of a pixel kept. -/
def clampCoordinate (x : Option Binary64) (extent : Int) : Rat :=
  match x with
  | none | some .nan => 0
  | some (.infinite false) => extent
  | some x =>
    let value := x.toRat?.getD 0
    let lifted := if 0 < value then value else 0
    if lifted < extent then lifted else extent

/-- An overlay origin moved into a canvas. -/
def clampPosition (x y : Option Binary64) (canvasWidth canvasHeight : Int) : Rat × Rat :=
  (clampCoordinate x canvasWidth, clampCoordinate y canvasHeight)

end Montage
