/-! # Entries

Keyed entries that keep the order in which their keys were first set.
-/

namespace Montage.Entries

/-- The entries with one key set to a value, in its old place if it was there and at the end if not. -/
def set {α : Type} (entries : List (String × α)) (key : String) (value : α) : List (String × α) :=
  match entries with
  | [] => [(key, value)]
  | (k, v) :: rest => if k = key then (k, value) :: rest else (k, v) :: set rest key value

end Montage.Entries
