import Montage.Form.Composition
import Montage.Proofs.Number.Range
import Montage.Proofs.Result

/-! # What an accepted composition looks like

A number that is read with a lower bound is a number, and lies above the bound. So the corner of a crop
that was read is a number, and its sides are numbers other than zero.
-/

namespace Montage.Form

variable {α : Type}

theorem form_eq_ok {name : String} {read : Fields → Except FormFault α} {value : Json} {a : α}
    (accepted : form name read value = .ok a) : ∃ fields, read fields = .ok a := by
  cases value with
  | obj fields => exact ⟨fields, accepted⟩
  | _ => contradiction

theorem below_eq_ok {name : String} {read : FormReader α} {value : Json} {a : α} :
    below name read value = .ok a ↔ read value = .ok a := mapError_eq_ok

/-- A field that may be left out has its default or was read. -/
theorem withDefault_eq_ok {fields : Fields} {name : FieldName} {default a : α}
    {read : FormReader α} (accepted : withDefault fields name default read = .ok a) :
    a = default ∨ ∃ value, read value = .ok a := by
  unfold withDefault at accepted
  split at accepted
  · exact .inr ⟨_, below_eq_ok.mp accepted⟩
  · exact .inl (Except.ok.inj accepted).symm

theorem nullable_eq_ok {read : FormReader α} {value : Json} {a : Option α}
    (accepted : nullable read value = .ok a) : a = none ∨ ∃ b, a = some b ∧ read value = .ok b := by
  unfold nullable at accepted
  split at accepted
  · exact .inl (Except.ok.inj accepted).symm
  · cases result : read value with
    | ok b =>
      rw [result] at accepted
      exact .inr ⟨b, (Except.ok.inj accepted).symm, rfl⟩
    | error fault =>
      rw [result] at accepted
      contradiction

theorem checkBound_eq_ok {bound : Option Int} {isWithin : Int → Bool} {problem : Int → FormProblem}
    {value a : α} (accepted : checkBound bound isWithin problem value = .ok a) :
    a = value ∧ ∀ limit, bound = some limit → isWithin limit = true := by
  cases bound with
  | none => exact ⟨(Except.ok.inj accepted).symm, nofun⟩
  | some limit =>
    simp only [checkBound] at accepted
    split at accepted
    · next within =>
      exact ⟨(Except.ok.inj accepted).symm, fun other same => Option.some.inj same ▸ within⟩
    · contradiction

/-- A number that was read lies above its lower bound. -/
theorem boundedNumber_ge {bounds : Bounds} {value : Json} {x : Binary64} {limit : Int}
    (accepted : boundedNumber bounds value = .ok x) (least : bounds.least = some limit) :
    (Binary64.ofInt limit).le x = true := by
  obtain ⟨read, -, accepted⟩ := bind_eq_ok.mp accepted
  obtain ⟨_, most, accepted⟩ := bind_eq_ok.mp accepted
  obtain ⟨_, within, accepted⟩ := bind_eq_ok.mp accepted
  obtain ⟨rfl, -⟩ := checkBound_eq_ok accepted
  obtain ⟨rfl, lower⟩ := checkBound_eq_ok within
  exact lower limit least

theorem ne_nan_of_le {x y : Binary64} (ordered : x.le y = true) : y ≠ .nan := by
  rintro rfl
  cases x <;> simp [Binary64.le, Binary64.lt, Binary64.eq, Binary64.isZero, Binary64.toRat?] at ordered

theorem not_isZero_of_one_le {x : Binary64} (ordered : (Binary64.ofInt 1).le x = true) :
    x.isZero = false := by
  have one : (Binary64.ofInt 1).toRat? = some 1 := by decide +kernel
  refine Bool.eq_false_iff.mpr fun zero => ?_
  have above := (Binary64.le_iff one (beq_iff_eq.mp zero)).mp ordered
  exact absurd above (by norm_num)

end Montage.Form

namespace Montage

/-- A crop whose corner is a number, and whose sides are numbers other than zero. -/
structure Crop.IsProper (crop : Crop) : Prop where
  x : ∀ x, crop.x = some x → x ≠ .nan
  y : ∀ y, crop.y = some y → y ≠ .nan
  width : ∀ width, crop.width = some width → width ≠ .nan ∧ width.isZero = false
  height : ∀ height, crop.height = some height → height ≠ .nan ∧ height.isZero = false

namespace Form

theorem zero_ne_nan : (0 : Binary64) ≠ .nan := by decide +kernel

theorem coordinate_ne_nan {fields : Fields} {name : FieldName} {x : Binary64}
    (accepted : withDefault fields name 0 coordinate = .ok x) : x ≠ .nan := by
  rcases withDefault_eq_ok accepted with rfl | ⟨value, read⟩
  · exact zero_ne_nan
  · exact ne_nan_of_le (boundedNumber_ge read rfl)

theorem cropSide_proper {fields : Fields} {name : FieldName} {side : Option Binary64}
    (accepted : withDefault fields name none (nullable (boundedNumber { least := some 1 })) =
      .ok side) : ∀ x, side = some x → x ≠ .nan ∧ x.isZero = false := by
  rintro x rfl
  rcases withDefault_eq_ok accepted with none | ⟨value, given⟩
  · contradiction
  · rcases nullable_eq_ok given with none | ⟨y, same, read⟩
    · contradiction
    · obtain rfl := Option.some.inj same
      have above := boundedNumber_ge read rfl
      exact ⟨ne_nan_of_le above, not_isZero_of_one_le above⟩

/-- A crop that was read is proper. -/
theorem crop_isProper {value : Json} {found : Crop} (accepted : crop value = .ok found) :
    found.IsProper := by
  obtain ⟨fields, accepted⟩ := form_eq_ok accepted
  obtain ⟨x, hx, accepted⟩ := bind_eq_ok.mp accepted
  obtain ⟨y, hy, accepted⟩ := bind_eq_ok.mp accepted
  obtain ⟨width, hwidth, accepted⟩ := bind_eq_ok.mp accepted
  obtain ⟨height, hheight, accepted⟩ := bind_eq_ok.mp accepted
  obtain rfl := pure_eq_ok.mp accepted
  exact {
    x := fun _ same => Option.some.inj same ▸ coordinate_ne_nan hx
    y := fun _ same => Option.some.inj same ▸ coordinate_ne_nan hy
    width := cropSide_proper hwidth
    height := cropSide_proper hheight }

theorem wholeCrop_isProper : wholeCrop.IsProper := by
  constructor
  · rintro _ ⟨⟩
    exact zero_ne_nan
  · rintro _ ⟨⟩
    exact zero_ne_nan
  · rintro _ ⟨⟩
  · rintro _ ⟨⟩

/-- The main medium of an accepted composition has a proper crop. -/
theorem composition_crop {body : Json} {request : CompositionRequest}
    (accepted : composition body = .ok request) :
    ∃ crop, request.content.crop = some crop ∧ crop.IsProper := by
  obtain ⟨fields, accepted⟩ := form_eq_ok accepted
  simp only [bind_eq_ok, pure_eq_ok] at accepted
  obtain ⟨_, -, _, -, _, -, _, -, found, hcontent, _, -, _, -, _, -, _, -, rfl⟩ := accepted
  rcases withDefault_eq_ok hcontent with rfl | ⟨value, read⟩
  · exact ⟨wholeCrop, rfl, wholeCrop_isProper⟩
  · obtain ⟨fields, read⟩ := form_eq_ok read
    simp only [bind_eq_ok, pure_eq_ok] at read
    obtain ⟨_, -, _, -, _, -, cut, hcut, rfl⟩ := read
    refine ⟨cut, rfl, ?_⟩
    rcases withDefault_eq_ok hcut with rfl | ⟨value, read⟩
    · exact wholeCrop_isProper
    · exact crop_isProper read

end Form

end Montage
