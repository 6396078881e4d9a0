import Montage.Files.Tree
import Montage.Proofs.Result

/-! # What operations do at a place

A path leads to one place whatever the files are, if it can be followed at all. So what an operation puts
somewhere it puts at the place of its path, and an open file is where a path led that it was created at or
got as its name. At every other place things only vanish.
-/

namespace Montage

/-- The place that parts lead to from a place. -/
def Place.descend (place : Place) : List String → Place
  | [] => place
  | part :: rest =>
    if part = ".." then
      if !place.isTop then Place.descend place.parent rest
      else if place.root = "" then Place.descend { place with parts := place.parts ++ [".."] } rest
      else Place.descend place rest
    else Place.descend { place with parts := place.parts ++ [part] } rest

/-- The place of a path. -/
def Path.place (path : Path) : Place := Place.descend { root := path.root } path.parts

/-- The places of a path and of the directories on the way. -/
def Path.placesOnWay (path : Path) : List Place :=
  (List.range (path.parts.length + 1)).map fun n =>
    ({ root := path.root, parts := path.parts.take n } : Path).place

namespace Files

variable {files later : Files} {path target : Path} {place other : Place} {node : Node}
  {content piece : ByteArray} {number : Nat}

theorem eq_descend_of_walk {parts : List String} {start found : Place}
    (walked : files.walk path start parts = .ok found) : found = Place.descend start parts := by
  induction parts generalizing start with
  | nil => exact (Except.ok.inj walked).symm
  | cons part rest ih =>
    unfold walk at walked
    unfold Place.descend
    split at walked
    · contradiction
    · contradiction
    · split at walked
      · next up =>
        rw [if_pos up]
        split at walked
        · next low => rw [if_pos low]; exact ih walked
        · next top =>
          rw [if_neg top]
          split at walked
          · next relative => rw [if_pos relative]; exact ih walked
          · next rooted => rw [if_neg rooted]; exact ih walked
      · next down =>
        rw [if_neg down]
        split at walked
        · contradiction
        · exact ih walked

theorem eq_place_of_locate (located : files.locate path = .ok place) : place = path.place := by
  unfold locate at located
  split at located
  · contradiction
  · split at located
    · contradiction
    · exact eq_descend_of_walk located

theorem lookup_cons_eq (entry : Place × Node) (rest : List (Place × Node)) :
    (entry :: rest).lookup other = if other = entry.1 then some entry.2 else rest.lookup other := by
  obtain ⟨key, value⟩ := entry
  split
  · next same => rw [same, List.lookup_cons_self]
  · next different => rw [List.lookup_cons, beq_false_of_ne different]

theorem lookup_map_replace (entries : List (Place × Node)) :
    (entries.map fun entry => if entry.1 == place then (place, node) else entry).lookup other =
      if other = place then (entries.lookup other).map fun _ => node else entries.lookup other := by
  induction entries with
  | nil => split <;> rfl
  | cons entry rest ih =>
    rw [List.map_cons, lookup_cons_eq, lookup_cons_eq, ih]
    by_cases here : entry.1 = place
    · rw [if_pos (beq_iff_eq.mpr here), here]
      split <;> rfl
    · rw [if_neg (mt beq_iff_eq.mp here)]
      by_cases same : other = entry.1
      · rw [if_pos same, if_pos same, if_neg (same ▸ here)]
      · rw [if_neg same, if_neg same]

theorem lookup_filter_other (entries : List (Place × Node)) :
    (entries.filter fun entry => entry.1 != place).lookup other =
      if other = place then none else entries.lookup other := by
  induction entries with
  | nil => split <;> rfl
  | cons entry rest ih =>
    rw [List.filter_cons, lookup_cons_eq]
    by_cases here : entry.1 = place
    · rw [if_neg (by simpa using here), ih, here]
      split <;> rfl
    · rw [if_pos (by simpa using here), lookup_cons_eq, ih]
      by_cases same : other = entry.1
      · rw [if_pos same, if_pos same, if_neg (same ▸ here)]
      · rw [if_neg same, if_neg same]

theorem node?_top (top : place.isTop = true) : files.node? place = some .directory := if_pos top

theorem node?_low (low : place.isTop = false) : files.node? place = files.entries.lookup place :=
  if_neg (by rw [low]; exact Bool.false_ne_true)

theorem isTop_of_node?_eq_none (empty : files.node? place = none) : place.isTop = false := by
  refine Bool.eq_false_iff.mpr fun top => ?_
  rw [node?_top top] at empty
  contradiction

theorem lookup_put (files : Files) (place other : Place) (node : Node) :
    (files.put place node).entries.lookup other =
      if other = place then some node else files.entries.lookup other := by
  unfold put
  split
  · next present =>
    refine (lookup_map_replace files.entries).trans ?_
    split
    · next same =>
      obtain ⟨entry, member, here⟩ := List.any_eq_true.mp present
      cases found : files.entries.lookup other with
      | some before => rfl
      | none =>
        have apart := List.lookup_eq_none_iff.mp found entry member
        exact absurd (same.trans (beq_iff_eq.mp here).symm) (ne_of_beq_false (by simpa using apart))
    · rfl
  · next missing =>
    rw [List.lookup_append, lookup_cons_eq]
    split
    · next same =>
      have none : files.entries.lookup other = none := by
        refine List.lookup_eq_none_iff.mpr fun entry member => ?_
        by_contra here
        have equal : other = entry.1 := by simpa using here
        exact missing (List.any_eq_true.mpr ⟨entry, member, beq_iff_eq.mpr (equal.symm.trans same)⟩)
      rw [none]
      rfl
    · exact Option.or_none

theorem node?_put_self (low : place.isTop = false) : (files.put place node).node? place = some node := by
  rw [node?_low low, lookup_put, if_pos rfl]

theorem node?_put_of_ne (different : other ≠ place) :
    (files.put place node).node? other = files.node? other := by
  unfold node?
  rw [lookup_put, if_neg different]

theorem node?_clear_of_ne (different : other ≠ place) :
    (files.clear place).node? other = files.node? other := by
  unfold node?
  rw [show (files.clear place).entries.lookup other = _ from lookup_filter_other files.entries,
    if_neg different]

theorem node?_clear_self (low : place.isTop = false) : (files.clear place).node? place = none := by
  rw [node?_low low]
  exact (lookup_filter_other files.entries).trans (if_pos rfl)

@[simp]
theorem opened_put : (files.put place node).opened = files.opened := by
  unfold put
  split <;> rfl

@[simp]
theorem opened_clear : (files.clear place).opened = files.opened := rfl

@[simp]
theorem node?_follow (moved : Option Place) : (files.follow place moved).node? other = files.node? other :=
  rfl

/-- No open file stands at a place. -/
def IsShutAt (files : Files) (place : Place) : Prop := ∀ file ∈ files.opened, file.place ≠ some place

/-- What stood at a place has at most vanished, and no file was opened there. -/
structure Spares (files later : Files) (place : Place) : Prop where
  node : ∀ node, later.node? place = some node → files.node? place = some node
  shut : later.IsShutAt place

theorem Spares.refl (shut : files.IsShutAt place) : files.Spares files place := ⟨fun _ => id, shut⟩

theorem Spares.trans {last : Files} (first : files.Spares later place)
    (second : later.Spares last place) : files.Spares last place :=
  ⟨fun node stands => first.node node (second.node node stands), second.shut⟩

theorem write_ok (written : files.write path content = .ok later) :
    files.isDirectoryAt path.place = false ∧ later = files.put path.place (.file content) := by
  obtain ⟨place, located, written⟩ := bind_eq_ok.mp written
  obtain rfl := eq_place_of_locate located
  split at written
  · contradiction
  · next free => exact ⟨Bool.eq_false_iff.mpr free, (Except.ok.inj written).symm⟩

theorem spares_put (shut : files.IsShutAt other) (different : other ≠ place) :
    files.Spares (files.put place node) other := by
  refine ⟨fun _ stands => node?_put_of_ne different ▸ stands, ?_⟩
  rw [IsShutAt, opened_put]
  exact shut

theorem spares_write (shut : files.IsShutAt other) (written : files.write path content = .ok later)
    (apart : other ≠ path.place) : files.Spares later other := by
  rw [(write_ok written).2]
  exact spares_put shut apart

theorem create_ok (created : files.create path = .ok (number, later)) :
    files.isDirectoryAt path.place = false ∧ number = files.opened.length ∧
      later = { files.put path.place (.file .empty) with
        opened := files.opened ++ [⟨some path.place, 0⟩] } := by
  obtain ⟨place, located, created⟩ := bind_eq_ok.mp created
  obtain ⟨written, wrote, created⟩ := bind_eq_ok.mp created
  obtain rfl := eq_place_of_locate located
  obtain ⟨free, rfl⟩ := write_ok wrote
  obtain ⟨rfl, rfl⟩ := Prod.mk.inj (pure_eq_ok.mp created)
  rw [opened_put]
  exact ⟨free, rfl, rfl⟩

theorem spares_create (shut : files.IsShutAt other) (created : files.create path = .ok (number, later))
    (apart : other ≠ path.place) : files.Spares later other := by
  obtain ⟨-, -, rfl⟩ := create_ok created
  refine ⟨(spares_put shut apart).node, fun file member => ?_⟩
  rcases List.mem_append.mp member with old | new
  · exact shut file old
  · rw [List.mem_singleton.mp new]
    exact fun same => apart (Option.some.inj same).symm

theorem Spares.set_opened (spares : files.Spares later other) {file : OpenFile}
    (apart : file.place ≠ some other) :
    files.Spares { later with opened := later.opened.set number file } other := by
  refine ⟨spares.node, fun opened member => ?_⟩
  rcases List.mem_or_eq_of_mem_set member with old | rfl
  · exact spares.shut opened old
  · exact apart

theorem spares_extend (shut : files.IsShutAt other) : files.Spares (files.extend number piece) other := by
  unfold extend
  split
  · exact .refl shut
  · next file found =>
    have apart := shut file (List.mem_of_getElem? found)
    refine Spares.set_opened ?_ apart
    split
    · exact .refl shut
    · next place stands =>
      have different : other ≠ place := fun same => apart (same ▸ stands)
      split
      · exact spares_put shut different
      · exact .refl shut

theorem spares_follow (shut : files.IsShutAt other) {moved : Option Place} (apart : moved ≠ some other) :
    files.Spares (files.follow place moved) other := by
  refine ⟨fun _ => id, fun file member => ?_⟩
  obtain ⟨before, old, rfl⟩ := List.mem_map.mp member
  split
  · exact apart
  · split
    · exact Option.some_ne_none _ |>.symm
    · exact shut before old

theorem spares_clear (shut : files.IsShutAt other) : files.Spares (files.clear place) other := by
  refine ⟨fun node stands => ?_, shut⟩
  by_cases same : other = place
  · subst same
    cases top : other.isTop with
    | true => rw [node?_top top] at stands ⊢; exact stands
    | false => rw [node?_clear_self top] at stands; contradiction
  · rwa [node?_clear_of_ne same] at stands

theorem spares_remove (shut : files.IsShutAt other) : files.Spares (files.remove path) other := by
  unfold remove
  split
  · split
    · exact .refl shut
    · exact (spares_clear shut).trans (spares_follow (spares_clear shut).shut (Option.some_ne_none _).symm)
  · exact .refl shut

theorem find_ok (found : files.find path = .ok node) : files.node? path.place = some node := by
  obtain ⟨place, located, found⟩ := bind_eq_ok.mp found
  obtain rfl := eq_place_of_locate located
  split at found
  · next stands => rw [stands, Except.ok.inj found]
  · contradiction

theorem exists_of_size {size : Nat} (said : files.size path = .ok size) :
    ∃ node, files.node? path.place = some node := by
  unfold Files.size at said
  cases found : files.find path with
  | ok node => exact ⟨node, find_ok found⟩
  | error fault => rw [found] at said; contradiction

theorem find_eq (located : files.locate path = .ok place) (stands : files.node? place = some node) :
    files.find path = .ok node := by
  refine bind_eq_ok.mpr ⟨place, located, ?_⟩
  rw [stands]

theorem isDirectoryAt_iff : files.isDirectoryAt place = true ↔ files.node? place = some .directory := by
  unfold isDirectoryAt
  split
  · next stands => exact iff_of_true rfl stands
  · next other => exact iff_of_false Bool.false_ne_true other

theorem rename_ok (renamed : files.rename path target = .ok later) :
    ∃ content, files.node? path.place = some (.file content) ∧
      files.locate target = .ok target.place ∧ files.isDirectoryAt target.place = false ∧
      later = if path.place = target.place then files
        else ((files.put target.place (.file content)).clear path.place).follow path.place
          (some target.place) := by
  unfold rename at renamed
  split at renamed
  · contradiction
  · contradiction
  · contradiction
  · next content found =>
    split at renamed
    · contradiction
    · split at renamed
      · contradiction
      · next free =>
        obtain ⟨source, located, renamed⟩ := bind_eq_ok.mp renamed
        obtain rfl := eq_place_of_locate located
        obtain ⟨place, located, renamed⟩ := bind_eq_ok.mp renamed
        obtain rfl := eq_place_of_locate located
        refine ⟨content, find_ok found, located, Bool.eq_false_iff.mpr fun there => ?_, ?_⟩
        · exact free (find_eq located (isDirectoryAt_iff.mp there))
        · split at renamed
          · next same => rw [if_pos same, pure_eq_ok.mp renamed]
          · next different => rw [if_neg different, pure_eq_ok.mp renamed]

theorem spares_rename (shut : files.IsShutAt other) (renamed : files.rename path target = .ok later)
    (apart : other ≠ target.place) : files.Spares later other := by
  obtain ⟨content, -, -, -, rfl⟩ := rename_ok renamed
  split
  · exact .refl shut
  · have put : files.Spares (files.put target.place (.file content)) other := spares_put shut apart
    have cleared : files.Spares ((files.put target.place (.file content)).clear path.place) other :=
      put.trans (spares_clear put.shut)
    exact cleared.trans (spares_follow cleared.shut fun same => apart (Option.some.inj same).symm)

theorem ensureDirectory_ok (made : files.ensureDirectory path = .ok later) :
    later = files ∨ files.node? path.place = none ∧ later = files.put path.place .directory := by
  unfold ensureDirectory at made
  split at made
  · exact .inl (Except.ok.inj made).symm
  · obtain ⟨place, located, made⟩ := bind_eq_ok.mp made
    obtain rfl := eq_place_of_locate located
    split at made
    · contradiction
    · next empty => exact .inr ⟨empty, (Except.ok.inj made).symm⟩

/-- What holds of files, and still holds when a directory is put on the way where nothing stands, holds when a
directory was made with those above it. -/
theorem makeParts_induction (holds : Files → Prop) {root : String} {parts : List String}
    (made : files.makeParts root parts = .ok later) (start : holds files)
    (step : ∀ before above, above <:+ parts →
      before.node? ({ root := root, parts := above.reverse } : Path).place = none → holds before →
        holds (before.put ({ root := root, parts := above.reverse } : Path).place .directory)) : holds later := by
  have ensures {before after : Files} {above : List String} (suffix : above <:+ parts)
      (made : before.ensureDirectory { root := root, parts := above.reverse } = .ok after)
      (first : holds before) : holds after := by
    rcases ensureDirectory_ok made with rfl | ⟨empty, rfl⟩
    · exact first
    · exact step before above suffix empty first
  induction parts generalizing later with
  | nil => exact ensures List.nil_suffix made start
  | cons last above ih =>
    have up := List.suffix_cons last above
    unfold makeParts at made
    dsimp only at made
    split at made
    · obtain ⟨between, higher, down⟩ := bind_eq_ok.mp made
      refine ensures List.suffix_rfl down (ih higher ?_ ?_)
      · exact fun before parts suffix => step before parts (suffix.trans up)
      · exact fun suffix => ensures (suffix.trans up)
    · exact ensures List.suffix_rfl made start

theorem makeDirectories_induction (holds : Files → Prop) (made : files.makeDirectories path = .ok later)
    (start : holds files) (step : ∀ before place, place ∈ path.placesOnWay → before.node? place = none →
      holds before → holds (before.put place .directory)) : holds later := by
  refine makeParts_induction holds made start fun before above suffix => step before _ ?_
  have front : above.reverse <+: path.parts := by
    simpa using List.reverse_prefix.mpr suffix
  refine List.mem_map.mpr ⟨above.reverse.length, List.mem_range.mpr ?_, ?_⟩
  · exact Nat.lt_succ_of_le front.length_le
  · rw [← List.prefix_iff_eq_take.mp front]

theorem spares_makeDirectories (shut : files.IsShutAt other)
    (made : files.makeDirectories path = .ok later) (apart : other ∉ path.placesOnWay) :
    files.Spares later other :=
  makeDirectories_induction (files.Spares · other) made (.refl shut) fun _ _ onWay _ spares =>
    spares.trans (spares_put spares.shut (ne_of_mem_of_not_mem onWay apart).symm)

end Files

end Montage
