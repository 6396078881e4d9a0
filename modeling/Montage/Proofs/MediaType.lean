import Mathlib.Data.List.Basic
import Montage.MediaType

/-! # Extensions in the table

Whatever a server says its media type is, the extension that the table has for it is a point and a few letters or
digits.
-/

namespace Montage.MediaType

variable {mediaType : List Char} {extension : String}

/-- A point, and letters or digits behind it. -/
structure IsExtension (extension : List Char) : Prop where
  pointed : extension.head? = some '.'
  filled : extension.tail ≠ []
  short : extension.length ≤ 12
  plain : ∀ c ∈ extension.tail, c.isAlphanum = true

instance (extension : List Char) : Decidable (IsExtension extension) :=
  decidable_of_iff (extension.head? = some '.' ∧ extension.tail ≠ [] ∧ extension.length ≤ 12 ∧
      extension.tail.all Char.isAlphanum = true)
    ⟨fun ⟨pointed, filled, short, plain⟩ => ⟨pointed, filled, short, List.all_eq_true.mp plain⟩,
      fun ⟨pointed, filled, short, plain⟩ => ⟨pointed, filled, short, List.all_eq_true.mpr plain⟩⟩

theorem extensions_areExtensions : ∀ entry ∈ extensions, ∀ extension ∈ entry.2, IsExtension extension.toList := by
  decide +kernel

theorem isExtension_of_extension? (known : extension? mediaType = some extension) :
    IsExtension extension.toList := by
  obtain ⟨names, found, first⟩ := Option.bind_eq_some_iff.mp known
  obtain ⟨before, after, whole, -⟩ := List.lookup_eq_some_iff.mp found
  have there : (lowered mediaType, names) ∈ extensions := whole ▸ by simp
  exact extensions_areExtensions _ there extension (List.mem_of_head? first)

end Montage.MediaType
