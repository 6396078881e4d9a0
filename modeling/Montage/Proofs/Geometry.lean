import Montage.Proofs.Number.Range
import Montage.Proofs.Result
import Montage.Scene

/-! # What geometry refuses

Rounding to whole pixels refuses the infinities and nothing else that is a number. A share of a side is
infinite exactly if the exact product is out of range. Coordinates that have been moved into a canvas
are always written.
-/

namespace Montage

open Binary64

theorem greatestDouble_lt : (greatestDouble : Rat) + 1 < overflowBound := by
  exact_mod_cast greatestDouble_add_one_lt

/-- The greatest double is an integer, so going down to an integer does not leave the range. -/
theorem abs_floor_le {r : Rat} (within : |r| ≤ greatestDouble) :
    |r.floor| ≤ (greatestDouble : Int) := by
  obtain ⟨below, above⟩ := abs_le.mp within
  refine abs_le.mpr ⟨?_, ?_⟩
  · exact Rat.le_floor_iff.mpr (by exact_mod_cast below)
  · have under : (r.floor : Rat) ≤ greatestDouble := (Rat.floor_le r).trans above
    exact_mod_cast under

/-- A double has an integer below it exactly if it is finite. -/
theorem floor_hinges {x : Binary64} (number : x ≠ .nan) :
    Hinges RangeFault.integerOfInfinity (x.isFinite = true)
      (fun n => |n| ≤ (greatestDouble : Int)) x.floor := by
  cases x with
  | nan => contradiction
  | infinite => exact ⟨Bool.false_ne_true, rfl⟩
  | negZero => exact ⟨rfl, by simp [Rat.floor]⟩
  | finite r representable => exact ⟨rfl, abs_floor_le representable.abs_le⟩

/-- Rounding to a whole pixel refuses exactly the infinities. -/
theorem roundHalfUp_hinges {x : Binary64} (number : x ≠ .nan) :
    Hinges RangeFault.integerOfInfinity (x.isFinite = true)
      (fun n => |n| ≤ (greatestDouble : Int)) (roundHalfUp x) := by
  have half : (ofRat (1 / 2)).toRat? = some (1 / 2) := by decide +kernel
  by_cases finite : x.isFinite = true
  · obtain ⟨r, value⟩ := isFinite_iff.mp finite
    have sum : (x + ofRat (1 / 2)).isFinite = true := by
      refine isFinite_add value half ?_
      have bound := abs_le_of_toRat? value
      have close := greatestDouble_lt
      calc |r + 1 / 2| ≤ |r| + |1 / 2| := abs_add_le r _
        _ < overflowBound := by rw [abs_of_pos (by norm_num : (0 : Rat) < 1 / 2)]; linarith
    exact (floor_hinges (ne_nan_of_isFinite sum)).of_iff (by simp only [sum, finite])
  · cases x with
    | nan => contradiction
    | negZero | finite => exact absurd rfl finite
    | infinite =>
      have refused (negative : Bool) :
          roundHalfUp (infinite negative) = .error .integerOfInfinity := by
        cases negative <;> decide +kernel
      rw [refused]
      exact ⟨finite, rfl⟩

/-- A side of a frame: a double stands for it exactly, so that shares of it can be taken, and letters
that are scaled to it are far inside the range. -/
structure IsSide (extent : Int) : Prop where
  nonneg : 0 ≤ extent
  below : extent < overflowBound
  exact : (ofInt extent).toRat? = some (extent : Rat)
  letters : ∃ down, (ofRat (mkRat extent 200)).toRat? = some down ∧ 24 * down < overflowBound

/-- The sides of both frames are such sides. -/
theorem isSide_frame {canvas : Canvas} (frame : canvas = .reel ∨ canvas = .post) :
    IsSide canvas.width ∧ IsSide canvas.height := by
  have wide : IsSide 1080 := ⟨by decide, by decide +kernel, by decide +kernel,
    6079859496950170 / 1125899906842624, by decide +kernel, by decide +kernel⟩
  rcases frame with rfl | rfl
  · exact ⟨wide, by decide, by decide +kernel, by decide +kernel,
      5404319552844595 / 562949953421312, by decide +kernel, by decide +kernel⟩
  · exact ⟨wide, by decide, by decide +kernel, by decide +kernel, 27 / 4, by decide +kernel,
      by decide +kernel⟩

theorem ofInt?_eq_ok {n : Int} (finite : (ofInt n).isFinite = true) : ofInt? n = .ok (ofInt n) := by
  unfold ofInt?
  generalize ofInt n = x at finite ⊢
  cases x with
  | infinite => contradiction
  | _ => rfl

theorem eq_ofInt_of_ofInt? {n : Int} {x : Binary64} (exact : ofInt? n = .ok x) : x = ofInt n ∧ x.isFinite = true := by
  unfold ofInt? at exact
  split at exact
  · cases exact
  · next bounded =>
    obtain rfl := Except.ok.inj exact
    refine ⟨rfl, ?_⟩
    cases value : ofInt n with
    | infinite negative => exact absurd value (bounded negative)
    | nan => exact absurd value round_ne_nan
    | negZero | finite => rfl

/-- A share of a side, or a number of pixels, is always taken, and is infinite exactly if the share is
below every double. -/
theorem toExtentPixels_eq_ok (x : Option Binary64) {extent : Int} (side : IsSide extent) :
    ∃ pixels, toExtentPixels x extent = .ok pixels ∧ pixels ≠ .nan ∧
      (pixels.isFinite = true ↔
        ∀ r, x.bind toRat? = some r → -(overflowBound : Rat) < r * extent) := by
  have one : (1 : Binary64).toRat? = some 1 := by decide +kernel
  have whole : (0 : Rat) ≤ extent := by exact_mod_cast side.nonneg
  have below : (extent : Rat) < overflowBound := by exact_mod_cast side.below
  cases x with
  | none => exact ⟨.zero, rfl, nofun, by simp [isFinite, Binary64.zero, toRat?]⟩
  | some x =>
    cases value : x.toRat? with
    | none =>
      refine ⟨.zero, ?_, nofun, ?_⟩
      · simp [toExtentPixels, toPixels, isFinite, value]
      · rw [Option.bind_some, value]
        simp [isFinite, Binary64.zero, toRat?]
    | some r =>
      have finite : x.isFinite = true := isFinite_iff.mpr ⟨r, value⟩
      by_cases share : x.le 1 = true
      · have bound : r ≤ 1 := (le_iff value one).mp share
        refine ⟨x * ofInt extent, ?_, ?_, ?_⟩
        · simp [toExtentPixels, finite, share,
            ofInt?_eq_ok (isFinite_iff.mpr ⟨_, side.exact⟩), bind, Except.bind, pure, Except.pure]
        · rw [mul_eq_round value side.exact]
          exact round_ne_nan
        · rw [isFinite_mul value side.exact, abs_lt]
          have above : r * extent < overflowBound :=
            (mul_le_of_le_one_left whole bound).trans_lt below
          simp [value, above]
      · have more : 1 < r := not_le.mp fun le => share ((le_iff value one).mpr le)
        refine ⟨x, ?_, ne_nan_of_isFinite finite, ?_⟩
        · simp [toExtentPixels, toPixels, finite, share]
        · have positive : 0 ≤ r * extent := mul_nonneg (by linarith) whole
          simp only [finite, Option.bind_some, value, Option.some.injEq, forall_eq', true_iff]
          linarith

/-- A coordinate that has been moved into an extent lies in it. -/
theorem clampCoordinate_mem (x : Option Binary64) {extent : Int} (nonneg : 0 ≤ extent) :
    0 ≤ clampCoordinate x extent ∧ clampCoordinate x extent ≤ extent := by
  have whole : (0 : Rat) ≤ extent := by exact_mod_cast nonneg
  unfold clampCoordinate
  split
  · exact ⟨le_rfl, whole⟩
  · exact ⟨le_rfl, whole⟩
  · exact ⟨whole, le_rfl⟩
  · dsimp only
    split <;> split <;> constructor <;> linarith

/-- A coordinate inside a side is written. -/
theorem placeText_eq_ok {r : Rat} {extent : Int} (side : IsSide extent)
    (inside : 0 ≤ r ∧ r ≤ extent) : placeText r = .ok (coordinateText r) := by
  have below : (extent : Rat) < overflowBound := by exact_mod_cast side.below
  have finite : (ofRat r).isFinite = true := by
    rw [ofRat, isFinite_round, abs_of_nonneg inside.1]
    exact inside.2.trans_lt below
  unfold placeText
  generalize ofRat r = x at finite ⊢
  cases x with
  | infinite => contradiction
  | _ => rfl

end Montage
