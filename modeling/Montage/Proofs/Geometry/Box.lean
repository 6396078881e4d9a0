import Montage.Proofs.Geometry
import Montage.Proofs.Number.Rounding

/-! # Boxes in a canvas

A rectangle may be asked for with any numbers. Each of them is rounded, unless it is no number or infinite, and then moved
into its range, so nothing is ever refused. The range of the origin depends on the size that has been settled before it,
and so the rectangle lies in the canvas. One that is given in whole pixels and lies there is kept.
-/

namespace Montage

open Binary64

/-! ## Nothing is refused -/

/-- The nearest integer of an interval, what rounding refuses being handed on. -/
def clampToInt? (x : Binary64) (low high : Int) : Except RangeFault Int :=
  match x with
  | .nan => .ok low
  | .infinite negative => .ok (if negative then low else high)
  | x => return max low (min high (← roundHalfUp x))

/-- A rectangle moved into a canvas, one number after the other, what rounding refuses being handed on. -/
def clampBox? (x y width height : Binary64) (canvasWidth canvasHeight : Int) : Except RangeFault Box := do
  let w ← clampToInt? width 1 canvasWidth
  let h ← clampToInt? height 1 canvasHeight
  return {
    x := ← clampToInt? x 0 (canvasWidth - w)
    y := ← clampToInt? y 0 (canvasHeight - h)
    width := w
    height := h }

/-- Only what cannot be rounded is refused by rounding, and that is never rounded here. -/
theorem clampToInt?_eq_ok (x : Binary64) (low high : Int) : clampToInt? x low high = .ok (clampToInt x low high) := by
  have rounds {x : Binary64} (finite : x.isFinite = true) : ∃ n, roundHalfUp x = .ok n := by
    obtain ⟨n, rounded, -⟩ := (roundHalfUp_hinges (ne_nan_of_isFinite finite)).exists_eq_ok finite
    exact ⟨n, rounded⟩
  cases x with
  | nan => rfl
  | infinite negative => rfl
  | negZero =>
    obtain ⟨n, rounded⟩ := rounds (x := .negZero) rfl
    simp only [clampToInt?, clampToInt, rounded]
    rfl
  | finite value representable =>
    obtain ⟨n, rounded⟩ := rounds (x := .finite value representable) rfl
    simp only [clampToInt?, clampToInt, rounded]
    rfl

theorem clampBox?_eq_ok (x y width height : Binary64) (canvasWidth canvasHeight : Int) :
    clampBox? x y width height canvasWidth canvasHeight =
      .ok (clampBox x y width height canvasWidth canvasHeight) := by
  simp only [clampBox?, clampBox, clampToInt?_eq_ok]
  rfl

/-! ## Ranges -/

theorem clampToInt_mem (x : Binary64) {low high : Int} (ordered : low ≤ high) :
    low ≤ clampToInt x low high ∧ clampToInt x low high ≤ high := by
  unfold clampToInt
  split
  · omega
  · split <;> omega
  · split <;> omega

/-- A whole number is rounded to itself while its half is a double. -/
theorem roundHalfUp_of_whole {x : Binary64} {n : Int} (whole : x.toRat? = some (n : Rat)) (nonneg : 0 ≤ n)
    (small : n < 2 ^ 52) : roundHalfUp x = .ok n := by
  obtain ⟨k, rfl⟩ := Int.eq_ofNat_of_zero_le nonneg
  have half : (ofRat (1 / 2)).toRat? = some (1 / 2) := by decide +kernel
  have positive : (0 : Rat) < k + 1 / 2 := by positivity
  have digits : twoPow 53 = 2 * 2 ^ 52 := by decide
  have sum : x + ofRat (1 / 2) = ofRat (k + 1 / 2) := by
    refine (add_eq_round whole half).resolve_right ?_
    rintro ⟨-, zero⟩
    exact positive.ne' zero
  have exact : (ofRat ((k : Rat) + 1 / 2)).toRat? = some ((k : Rat) + 1 / 2) :=
    toRat?_ofRat_of_representable (representable_half (by omega)) positive.le
  have floor : ((k : Rat) + 1 / 2).floor = k := by
    apply le_antisymm
    · have under : (((k : Rat) + 1 / 2).floor : Rat) < k + 1 := (Rat.floor_le _).trans_lt (by linarith)
      exact Int.le_of_lt_add_one (by exact_mod_cast under)
    · exact Rat.le_floor_iff.mpr (by push_cast; linarith)
  rw [roundHalfUp, sum, floor_eq_ok exact, floor]

/-- A whole number of the interval is kept. -/
theorem clampToInt_of_mem {x : Binary64} {n low high : Int} (whole : x.toRat? = some (n : Rat))
    (inside : low ≤ n ∧ n ≤ high) (nonneg : 0 ≤ n) (small : n < 2 ^ 52) : clampToInt x low high = n := by
  have rounded := roundHalfUp_of_whole whole nonneg small
  cases x with
  | nan | infinite => cases whole
  | negZero | finite =>
    simp only [clampToInt, rounded]
    omega

namespace Box

/-- The rectangle has a size and lies in the canvas with all of it. -/
structure IsInside (box : Box) (canvasWidth canvasHeight : Int) : Prop where
  width : 1 ≤ box.width ∧ box.width ≤ canvasWidth
  height : 1 ≤ box.height ∧ box.height ≤ canvasHeight
  origin : 0 ≤ box.x ∧ 0 ≤ box.y
  right : box.x + box.width ≤ canvasWidth
  bottom : box.y + box.height ≤ canvasHeight

/-- The numbers are those of the rectangle, and so small that halves of pixels are doubles too. -/
structure IsAsked (box : Box) (x y width height : Binary64) : Prop where
  x : x.toRat? = some (box.x : Rat) ∧ box.x < 2 ^ 52
  y : y.toRat? = some (box.y : Rat) ∧ box.y < 2 ^ 52
  width : width.toRat? = some (box.width : Rat) ∧ box.width < 2 ^ 52
  height : height.toRat? = some (box.height : Rat) ∧ box.height < 2 ^ 52

theorem isInside_clampBox (x y width height : Binary64) {canvasWidth canvasHeight : Int} (wide : 1 ≤ canvasWidth)
    (high : 1 ≤ canvasHeight) :
    (clampBox x y width height canvasWidth canvasHeight).IsInside canvasWidth canvasHeight := by
  have across := clampToInt_mem width wide
  have down := clampToInt_mem height high
  have left := clampToInt_mem x (by omega : 0 ≤ canvasWidth - clampToInt width 1 canvasWidth)
  have top := clampToInt_mem y (by omega : 0 ≤ canvasHeight - clampToInt height 1 canvasHeight)
  exact ⟨across, down, ⟨left.1, top.1⟩, by simp only [clampBox]; omega, by simp only [clampBox]; omega⟩

theorem clampBox_of_isInside {box : Box} {x y width height : Binary64} {canvasWidth canvasHeight : Int}
    (inside : box.IsInside canvasWidth canvasHeight) (asked : box.IsAsked x y width height) :
    clampBox x y width height canvasWidth canvasHeight = box := by
  obtain ⟨across, down, ⟨left, top⟩, right, bottom⟩ := inside
  have w := clampToInt_of_mem asked.width.1 across (by omega) asked.width.2
  have h := clampToInt_of_mem asked.height.1 down (by omega) asked.height.2
  have l := clampToInt_of_mem asked.x.1 (⟨left, by omega⟩ : 0 ≤ box.x ∧ box.x ≤ canvasWidth - box.width) left asked.x.2
  have t := clampToInt_of_mem asked.y.1 (⟨top, by omega⟩ : 0 ≤ box.y ∧ box.y ≤ canvasHeight - box.height) top asked.y.2
  simp only [clampBox, w, h, l, t]

/-- Whatever numbers a rectangle is asked for with, it is moved into the canvas without a refusal. It is kept if its
numbers are whole and it lies in the canvas already. -/
theorem clampBox_settles (x y width height : Binary64) {canvasWidth canvasHeight : Int} (wide : 1 ≤ canvasWidth)
    (high : 1 ≤ canvasHeight) :
    clampBox? x y width height canvasWidth canvasHeight =
        .ok (clampBox x y width height canvasWidth canvasHeight) ∧
      (clampBox x y width height canvasWidth canvasHeight).IsInside canvasWidth canvasHeight ∧
      ∀ box : Box, box.IsInside canvasWidth canvasHeight → box.IsAsked x y width height →
        clampBox x y width height canvasWidth canvasHeight = box :=
  ⟨clampBox?_eq_ok x y width height canvasWidth canvasHeight, isInside_clampBox x y width height wide high,
    fun _ inside asked => clampBox_of_isInside inside asked⟩

/-- A rectangle in whole pixels at the corner of a frame is kept. -/
theorem clampBox_settles_corner : (1 : Int) ≤ 1080 ∧ (1 : Int) ≤ 1920 ∧
    clampBox? 980 1870 100 50 1080 1920 = .ok ⟨980, 1870, 100, 50⟩ := by
  obtain ⟨taken, -, kept⟩ :=
    clampBox_settles 980 1870 100 50 (by decide : (1 : Int) ≤ 1080) (by decide : (1 : Int) ≤ 1920)
  have asked : IsAsked ⟨980, 1870, 100, 50⟩ 980 1870 100 50 :=
    ⟨by decide +kernel, by decide +kernel, by decide +kernel, by decide +kernel⟩
  have same := kept _ ⟨by decide, by decide, by decide, by decide, by decide⟩ asked
  exact ⟨by decide, by decide, same ▸ taken⟩

end Box

end Montage
