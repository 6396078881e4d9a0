import Montage.Caption.Layout
import Montage.Proofs.Geometry

/-! # Which captions can be laid out

The letters and the spaces between lines always have a size. Only a width can be refused: one that asks
for a share of the canvas below every double.
-/

namespace Montage.Caption

open Binary64

/-- A double stands for every magnitude up to the greatest one, if only nearly. -/
theorem isFinite_ofRat {r : Rat} (within : |r| ≤ greatestDouble) : (ofRat r).isFinite = true := by
  rw [ofRat, isFinite_round]
  have close := greatestDouble_lt
  linarith

theorem ofQuotient?_eq_ok {n : Int} {d : Nat} (finite : (ofRat (mkRat n d)).isFinite = true) :
    ofQuotient? n d = .ok (ofRat (mkRat n d)) := by
  unfold ofQuotient?
  generalize ofRat (mkRat n d) = x at finite ⊢
  cases x with
  | infinite => contradiction
  | _ => rfl

/-- The letters of a box inside a frame have a size. -/
theorem fontSize_eq_ok {width height : Int} (positive : 1 ≤ width)
    (within : |width| ≤ (greatestDouble : Int)) (side : IsSide height) :
    ∃ letters, fontSize width height = .ok letters ∧ |letters| ≤ (greatestDouble : Int) := by
  have scale : (24 : Binary64).toRat? = some 24 := by decide +kernel
  have share : |mkRat width 400| ≤ greatestDouble := by
    rw [Rat.mkRat_eq_div, abs_div]
    have whole : |(width : Rat)| ≤ greatestDouble := by exact_mod_cast within
    exact (div_le_self (abs_nonneg _) (by norm_num)).trans whole
  obtain ⟨across, acrossValue⟩ := isFinite_iff.mp (isFinite_ofRat share)
  have acrossNonneg : 0 ≤ across := by
    refine nonneg_of_ofRat ?_ acrossValue
    rw [Rat.mkRat_eq_div]
    have whole : (0 : Rat) ≤ width := by exact_mod_cast (by omega : 0 ≤ width)
    positivity
  obtain ⟨down, downValue, room⟩ := side.letters
  have downNonneg : 0 ≤ down := by
    refine nonneg_of_ofRat ?_ downValue
    rw [Rat.mkRat_eq_div]
    have whole : (0 : Rat) ≤ height := by exact_mod_cast side.nonneg
    positivity
  have least := toRat?_min acrossValue downValue
  have finite : (24 * Binary64.min (ofRat (mkRat width 400)) (ofRat (mkRat height 200))).isFinite =
      true := by
    rw [isFinite_mul scale least, abs_of_nonneg (by positivity)]
    have tighter := min_le_right across down
    linarith
  obtain ⟨size, floored, bound⟩ := (floor_hinges (ne_nan_of_isFinite finite)).exists_eq_ok finite
  refine ⟨max minFontSize size, ?_, ?_⟩
  · simp only [fontSize, ofQuotient?_eq_ok (isFinite_ofRat share),
      ofQuotient?_eq_ok (isFinite_iff.mpr ⟨down, downValue⟩), bind, Except.bind, floored]
    rfl
  · rw [minFontSize]
    have eight : (8 : Int) ≤ greatestDouble := by decide +kernel
    rw [abs_le] at bound ⊢
    omega

/-- Letters of any size have a space between their lines. -/
theorem lineSpacing_eq_ok {letters : Int} (within : |letters| ≤ (greatestDouble : Int)) :
    ∃ spacing, lineSpacing letters = .ok spacing := by
  have fraction : (ofRat (4 / 5)).toRat? = some (3602879701896397 / 4503599627370496) := by
    decide +kernel
  have whole : |(letters : Rat)| ≤ greatestDouble := by exact_mod_cast within
  obtain ⟨size, value⟩ := isFinite_iff.mp (isFinite_ofRat whole)
  have finite : (ofInt letters * ofRat (4 / 5)).isFinite = true := by
    rw [ofInt, isFinite_mul value fraction, abs_mul]
    have bound := abs_le_of_toRat? value
    have close := greatestDouble_lt
    have nonneg := abs_nonneg size
    rw [abs_of_pos (by norm_num : (0 : Rat) < 3602879701896397 / 4503599627370496)]
    linarith
  obtain ⟨spacing, floored, -⟩ := (floor_hinges (ne_nan_of_isFinite finite)).exists_eq_ok finite
  refine ⟨spacing, ?_⟩
  simp only [lineSpacing, ofInt?_eq_ok (isFinite_ofRat whole), bind, Except.bind, floored]

end Montage.Caption

namespace Montage

/-- The share of a canvas that a caption's width asks for is not below every double. -/
def Caption.FitsWidth (caption : Caption) (canvas : Canvas) : Prop :=
  ∀ r, caption.width.bind Binary64.toRat? = some r → -(overflowBound : Rat) < r * canvas.width

/-- A layer's place lies on the canvas. -/
structure Canvas.Holds (canvas : Canvas) (x y : Rat) : Prop where
  across : 0 ≤ x ∧ x ≤ canvas.width
  down : 0 ≤ y ∧ y ≤ canvas.height

/-- A place that has been moved into the canvas lies on it. -/
theorem Canvas.holds_clampPosition (canvas : Canvas) (x y : Option Binary64) :
    canvas.Holds (clampPosition x y canvas.width canvas.height).1
      (clampPosition x y canvas.width canvas.height).2 :=
  ⟨clampCoordinate_mem x (Int.natCast_nonneg _), clampCoordinate_mem y (Int.natCast_nonneg _)⟩

/-- A caption that is laid out lies on the canvas, whatever place it asks for. -/
theorem Caption.holds_layout {caption : Caption} {canvas : Canvas} {lines padding : Int} {measured : Layout}
    (laid : layout caption canvas lines padding = .ok measured) : canvas.Holds measured.x measured.y := by
  simp only [layout, bind_eq_ok, pure_eq_ok] at laid
  obtain ⟨left, _, top, _, asked, _, width, _, letters, _, spacing, _, rfl⟩ := laid
  exact canvas.holds_clampPosition (some left) (some top)

/-- A caption is laid out exactly if its width can be, and then lies on the canvas. -/
theorem Caption.layout_hinges (caption : Caption) {canvas : Canvas}
    (frame : canvas = .reel ∨ canvas = .post) (lines padding : Int) :
    Hinges RangeFault.integerOfInfinity (caption.FitsWidth canvas)
      (fun layout => canvas.Holds layout.x layout.y) (layout caption canvas lines padding) := by
  obtain ⟨wide, high⟩ := isSide_frame frame
  obtain ⟨left, hleft, -⟩ := toExtentPixels_eq_ok caption.x wide
  obtain ⟨top, htop, -⟩ := toExtentPixels_eq_ok caption.y high
  obtain ⟨asked, hasked, number, fits⟩ := toExtentPixels_eq_ok caption.width wide
  refine .after hleft (.after htop (.after hasked ?_))
  refine ((roundHalfUp_hinges number).bind fun width within => ?_).of_iff
    ((iff_of_eq (and_true _)).trans fits)
  have atLeastOne : |max 1 width| ≤ (greatestDouble : Int) := by
    have one : (1 : Int) ≤ greatestDouble := by decide +kernel
    rw [abs_le] at within ⊢
    omega
  obtain ⟨letters, hletters, bound⟩ := fontSize_eq_ok (le_max_left 1 width) atLeastOne high
  obtain ⟨spacing, hspacing⟩ := lineSpacing_eq_ok bound
  exact .after hletters (.after hspacing (.of_eq_ok rfl (canvas.holds_clampPosition _ _)))

end Montage
