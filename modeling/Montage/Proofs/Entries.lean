import Montage.Entries
import Mathlib.Data.List.Induction

/-! # Entries after a change

Setting a key changes the entry of that key and no other. A key that was not there is set at the end.
Entries that are set one after the other leave one entry for each key, with the value that came last.
-/

namespace Montage.Entries

variable {α : Type} {entries : List (String × α)} {key : String} {value : α}

theorem mem_set_self (entries : List (String × α)) (key : String) (value : α) :
    (key, value) ∈ set entries key value := by
  induction entries with
  | nil => exact List.mem_singleton_self _
  | cons entry rest ih =>
    unfold set
    split
    · next same =>
      rw [same]
      exact List.mem_cons_self
    · exact List.mem_cons_of_mem _ ih

theorem mem_set_of_ne {entry : String × α} (member : entry ∈ entries) (apart : entry.1 ≠ key) :
    entry ∈ set entries key value := by
  induction entries with
  | nil => contradiction
  | cons first rest ih =>
    unfold set
    rcases List.mem_cons.mp member with rfl | member
    · rw [if_neg apart]
      exact List.mem_cons_self
    · split
      · exact List.mem_cons_of_mem _ member
      · exact List.mem_cons_of_mem _ (ih member)

theorem mem_of_mem_set {entry : String × α} (member : entry ∈ set entries key value) :
    entry ∈ entries ∨ entry = (key, value) := by
  induction entries with
  | nil => exact .inr (List.mem_singleton.mp member)
  | cons first rest ih =>
    unfold set at member
    split at member
    · next same =>
      rcases List.mem_cons.mp member with rfl | member
      · exact .inr (by rw [same])
      · exact .inl (List.mem_cons_of_mem _ member)
    · rcases List.mem_cons.mp member with rfl | member
      · exact .inl List.mem_cons_self
      · exact (ih member).imp_left (List.mem_cons_of_mem _)

theorem set_of_absent (absent : ∀ entry ∈ entries, entry.1 ≠ key) :
    set entries key value = entries ++ [(key, value)] := by
  induction entries with
  | nil => rfl
  | cons first rest ih =>
    obtain ⟨apart, absent⟩ := List.forall_mem_cons.mp absent
    rw [set, if_neg apart, ih absent, List.cons_append]

theorem lookup_cons_eq (k : String) (v : α) (rest : List (String × α)) (other : String) :
    ((k, v) :: rest).lookup other = if other = k then some v else rest.lookup other := by
  rw [List.lookup_cons]
  split
  · next same => rw [beq_iff_eq.mp same, if_pos rfl]
  · next apart => rw [if_neg (ne_of_beq_false apart)]

theorem lookup_set (entries : List (String × α)) (key : String) (value : α) (other : String) :
    (set entries key value).lookup other = if other = key then some value else entries.lookup other := by
  induction entries with
  | nil => exact lookup_cons_eq key value [] other
  | cons first rest ih =>
    obtain ⟨k, v⟩ := first
    rw [set]
    split
    · next here =>
      rw [lookup_cons_eq, lookup_cons_eq, here]
      split <;> rfl
    · next apart =>
      rw [lookup_cons_eq, lookup_cons_eq, ih]
      split
      · next same => rw [if_neg (same ▸ apart)]
      · rfl

theorem keys_set (entries : List (String × α)) (key : String) (value : α) :
    (set entries key value).map Prod.fst =
      if key ∈ entries.map Prod.fst then entries.map Prod.fst else entries.map Prod.fst ++ [key] := by
  induction entries with
  | nil => rfl
  | cons first rest ih =>
    obtain ⟨k, v⟩ := first
    rw [set]
    by_cases here : k = key
    · simp [here]
    · rw [if_neg here, List.map_cons, ih]
      split <;> simp_all [Ne.symm here]

theorem nodup_keys_set (unique : (entries.map Prod.fst).Nodup) :
    ((set entries key value).map Prod.fst).Nodup := by
  rw [keys_set]
  split
  · exact unique
  · next absent =>
    refine List.nodup_append.mpr ⟨unique, List.pairwise_singleton _ key, fun k member other last => ?_⟩
    rw [List.mem_singleton.mp last]
    exact fun same => absent (same ▸ member)

theorem mem_iff_lookup (unique : (entries.map Prod.fst).Nodup) :
    (key, value) ∈ entries ↔ entries.lookup key = some value := by
  induction entries with
  | nil => simp
  | cons first rest ih =>
    obtain ⟨k, v⟩ := first
    obtain ⟨absent, others⟩ := List.nodup_cons.mp unique
    rw [List.mem_cons, ih others, lookup_cons_eq]
    by_cases here : key = k
    · subst here
      have none : rest.lookup key ≠ some value := fun found =>
        absent (List.mem_map.mpr ⟨_, (ih others).mpr found, rfl⟩)
      simp [none, eq_comm]
    · simp [here]

/-- What setting entries one after the other comes to. -/
def setAll (entries : List (String × α)) : List (String × α) :=
  entries.foldl (fun found entry => set found entry.1 entry.2) []

/-- The value that was set last for a key. -/
def last? (entries : List (String × α)) (key : String) : Option α := entries.reverse.lookup key

@[simp]
theorem setAll_concat (entries : List (String × α)) (entry : String × α) :
    setAll (entries ++ [entry]) = set (setAll entries) entry.1 entry.2 := by
  rw [setAll, List.foldl_append]
  rfl

theorem mem_of_mem_setAll {entries : List (String × α)} {entry : String × α}
    (member : entry ∈ setAll entries) : entry ∈ entries := by
  induction entries using List.reverseRecOn with
  | nil => contradiction
  | append_singleton rest last ih =>
    rw [setAll_concat] at member
    rcases mem_of_mem_set member with before | rfl
    · exact List.mem_append_left _ (ih before)
    · exact List.mem_append_right _ (List.mem_singleton_self _)

/-- Each key is there once. -/
theorem nodup_keys_setAll (entries : List (String × α)) : ((setAll entries).map Prod.fst).Nodup :=
  List.foldlRecOn (motive := fun found : List (String × α) => (found.map Prod.fst).Nodup) entries _
    List.nodup_nil fun _ unique _ _ => nodup_keys_set unique

/-- The value that was set last is the one that is there. -/
theorem lookup_setAll (entries : List (String × α)) (key : String) :
    (setAll entries).lookup key = last? entries key := by
  induction entries using List.reverseRecOn with
  | nil => rfl
  | append_singleton rest entry ih =>
    rw [setAll_concat, lookup_set, ih, last?, last?, List.reverse_append, List.reverse_singleton,
      List.singleton_append]
    exact (lookup_cons_eq entry.1 entry.2 _ key).symm

theorem mem_setAll {entries : List (String × α)} :
    (key, value) ∈ setAll entries ↔ last? entries key = some value := by
  rw [mem_iff_lookup (nodup_keys_setAll entries), lookup_setAll]

end Montage.Entries
