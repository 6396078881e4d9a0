import Mathlib.Data.List.TakeDrop
import Montage.Proofs.Graph.Selector

/-! # The pads of a composition

Every pad of a composed scene has a role, and a number where there can be several of a kind. Roles and
numbers can be read off the names, so different pads never share a name, and no pad is named like a
stream.
-/

namespace Montage.Composition

/-- The pads of a composition: the main medium, the same on the canvas, a sticker, the canvas, the text
and the turned text of a caption, the composite up to a layer, and the result at its frame rate. -/
inductive Pad where
  | main
  | base
  | sticker (index : Nat)
  | canvas (index : Nat)
  | text (index : Nat)
  | turned (index : Nat)
  | layer (index : Nat)
  | final
  deriving DecidableEq

namespace Pad

/-- The name of a pad. -/
def name : Pad → String
  | main => "main"
  | base => "base0"
  | sticker index => s!"s{index}"
  | canvas index => s!"tc{index}"
  | text index => s!"tt{index}"
  | turned index => s!"tr{index}"
  | layer index => s!"layer{index}"
  | final => "vout"

/-- The letters that a name starts with. -/
def stem : Pad → List Char
  | main => ['m', 'a', 'i', 'n']
  | base => ['b', 'a', 's', 'e']
  | sticker _ => ['s']
  | canvas _ => ['t', 'c']
  | text _ => ['t', 't']
  | turned _ => ['t', 'r']
  | layer _ => ['l', 'a', 'y', 'e', 'r']
  | final => ['v', 'o', 'u', 't']

/-- The digits that a name ends with. -/
def digits : Pad → List Char
  | main | final => []
  | base => ['0']
  | sticker index | canvas index | text index | turned index | layer index => Nat.toDigits 10 index

theorem name_toList (pad : Pad) : pad.name.toList = pad.stem ++ pad.digits := by
  cases pad <;>
    simp only [name, stem, digits, String.toList_append, Nat.toString_eq_repr, Nat.toList_repr] <;> rfl

theorem isDigit_of_mem_digits {pad : Pad} {c : Char} (member : c ∈ pad.digits) :
    c.isDigit = true := by
  cases pad with
  | main | final => contradiction
  | base =>
    obtain rfl := List.mem_singleton.mp member
    rfl
  | sticker | canvas | text | turned | layer =>
    exact Nat.isDigit_of_mem_toDigits (by decide) (by decide) member

theorem isDigit_of_mem_stem {pad : Pad} {c : Char} (member : c ∈ pad.stem) : c.isDigit = false := by
  have all : pad.stem.all (fun c => !c.isDigit) = true := by cases pad <;> rfl
  simpa using List.all_eq_true.mp all c member

/-- A name falls into its letters and its digits. -/
theorem span_name (pad : Pad) :
    pad.name.toList.span (fun c => !c.isDigit) = (pad.stem, pad.digits) := by
  rw [List.span_eq_takeWhile_dropWhile, name_toList,
    List.takeWhile_append_of_pos fun c member => by simpa using isDigit_of_mem_stem member,
    List.dropWhile_append_of_pos fun c member => by simpa using isDigit_of_mem_stem member]
  have none : ∀ c ∈ pad.digits, ¬ (!c.isDigit) = true := by
    intro c member
    simpa using isDigit_of_mem_digits member
  cases digits : pad.digits with
  | nil => simp
  | cons c rest =>
    have first := none c (digits ▸ List.mem_cons_self)
    simp [first]

/-- Different pads have different names. -/
theorem name_injective : Function.Injective name := by
  intro a b same
  have parts : (a.stem, a.digits) = (b.stem, b.digits) := by
    rw [← span_name, ← span_name, same]
  obtain ⟨stems, digits⟩ := Prod.mk.inj parts
  cases a <;> cases b <;>
    simp_all [stem, Pad.digits, toDigits_injective.eq_iff]

/-- No pad is taken for a stream. -/
theorem isSelector_name (pad : Pad) : Graph.isSelector pad.name = false := by
  have shape := name_toList pad
  cases pad <;> exact Graph.isSelector_of_head shape (by decide) (by decide)

end Pad

end Montage.Composition
