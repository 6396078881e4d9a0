import Montage.Proofs.Files.Storing

/-! # Drafts of files

A draft is a file that is open under a name of its own until it is complete. Whatever is done to it, every other
place stays as it was. In the end it is given up, or it gets its name and stands there in place of what had that
name before.
-/

namespace Montage

namespace Files

variable {base files later : Files} {path target directory : Path} {place other : Place} {node : Node}
  {content piece written : ByteArray} {number : Nat} {fault : FileFault}

/-- A place is as it was, or else a directory was made there on a way where nothing stood. -/
def Stays (files later : Files) (way : List Place) (place : Place) : Prop :=
  later.node? place = files.node? place ∨
    place ∈ way ∧ files.node? place = none ∧ later.node? place = some .directory

/-- Nothing stands at a place any more, and every other place is as it was. -/
structure Loses (files later : Files) (place : Place) : Prop where
  gone : later.node? place = none
  others : ∀ other, other ≠ place → later.node? other = files.node? other

/-- A file is open under a path, and all that was written to it stands there. Every other place is as it was. -/
structure IsDraft (base files : Files) (path : Path) (number : Nat) (written : ByteArray) : Prop where
  free : base.isDirectoryAt path.place = false
  located : files.locate path = .ok path.place
  stands : files.node? path.place = some (.file written)
  opened : files.opened[number]? = some ⟨some path.place, written.size⟩
  others : ∀ other, other ≠ path.place → files.node? other = base.node? other

/-- A file stays what it is. -/
theorem Stays.file_iff {way : List Place} (stays : files.Stays later way place) :
    later.node? place = some (.file content) ↔ files.node? place = some (.file content) := by
  rcases stays with same | ⟨-, empty, made⟩
  · rw [same]
  · rw [empty, made]
    exact iff_of_false nofun nofun

/-- Directories are made on the way, where nothing stands. -/
theorem stays_makeDirectories (made : files.makeDirectories path = .ok later) (place : Place) :
    files.Stays later path.placesOnWay place := by
  refine makeDirectories_induction (files.Stays · path.placesOnWay place) made (.inl rfl) ?_
  intro before other onWay empty stays
  by_cases here : place = other
  · subst here
    rcases stays with same | ⟨-, -, directory⟩
    · exact .inr ⟨onWay, same ▸ empty, node?_put_self (isTop_of_node?_eq_none empty)⟩
    · rw [empty] at directory
      contradiction
  · rwa [Stays, node?_put_of_ne here]

theorem keepsDirectories_of_same (free : files.isDirectoryAt place = false)
    (same : ∀ other, other ≠ place → later.node? other = files.node? other) : files.KeepsDirectories later := by
  intro other stands
  rw [same other, stands]
  rintro rfl
  exact absurd (isDirectoryAt_iff.mpr stands) (Bool.eq_false_iff.mp free)

theorem locate_eq_place (located : files.locate path = .ok place) : files.locate path = .ok path.place :=
  eq_place_of_locate located ▸ located

theorem find_of_isFile (there : files.isFile path = .ok true) : ∃ content, files.find path = .ok (.file content) := by
  unfold isFile at there
  split at there
  · next content found => exact ⟨content, found⟩
  · cases there
  · cases there

theorem content?_eq_some_iff : files.content? path = some content ↔
    files.locate path = .ok path.place ∧ files.node? path.place = some (.file content) := by
  constructor
  · intro found
    unfold content? at found
    split at found
    · next there =>
      cases found
      obtain ⟨place, located, -⟩ := bind_eq_ok.mp there
      exact ⟨locate_eq_place located, find_ok there⟩
    · contradiction
  · exact fun both => content?_of_file both.1 both.2

theorem content?_of_gone (gone : files.node? path.place = none) : files.content? path = none := by
  refine Option.eq_none_iff_forall_ne_some.mpr fun content found => ?_
  rw [(content?_eq_some_iff.mp found).2] at gone
  contradiction

/-- Nothing is found under a path any more when it was removed. -/
theorem content?_remove (files : Files) (path : Path) : (files.remove path).content? path = none := by
  refine Option.eq_none_iff_forall_ne_some.mpr fun content found => ?_
  obtain ⟨there, stands⟩ := content?_eq_some_iff.mp found
  unfold remove at there stands
  split at stands
  · next place located =>
    obtain rfl := eq_place_of_locate located
    split at stands
    · next directory =>
      rw [isDirectoryAt_iff.mp directory] at stands
      cases stands
    · next free =>
      rw [node?_follow, node?_clear_self (isTop_of_free (Bool.eq_false_iff.mpr free))] at stands
      contradiction
  · next located =>
    rw [located] at there
    cases there.symm.trans located

/-- Removing leaves every place alone but that of the path. -/
theorem node?_remove_of_ne (different : other ≠ path.place) :
    (files.remove path).node? other = files.node? other := by
  unfold remove
  split
  · next place located =>
    obtain rfl := eq_place_of_locate located
    split
    · rfl
    · rw [node?_follow, node?_clear_of_ne different]
  · rfl

/-- Nothing comes to stand where something is removed. -/
theorem node?_remove_of_none (empty : files.node? path.place = none) : (files.remove path).node? path.place = none := by
  unfold remove
  split
  · next place located =>
    obtain rfl := eq_place_of_locate located
    rw [if_neg (by rw [isDirectoryAt_none empty]; exact Bool.false_ne_true), node?_follow,
      node?_clear_self (isTop_of_node?_eq_none empty)]
  · exact empty

/-- Where nothing stands, nothing is removed. -/
theorem content?_remove_of_none (empty : files.node? path.place = none) (found : files.content? target = some content) :
    (files.remove path).content? target = some content := by
  have same (other : Place) : (files.remove path).node? other = files.node? other := by
    by_cases here : other = path.place
    · rw [here, node?_remove_of_none empty, empty]
    · exact node?_remove_of_ne here
  obtain ⟨located, stands⟩ := content?_eq_some_iff.mp found
  refine content?_eq_some_iff.mpr ⟨locate_mono (fun other there => ?_) located, (same _).trans stands⟩
  rw [same, there]

/-- What cannot be created cannot be removed either. -/
theorem remove_of_create_error (refused : files.create path = .error fault) : files.remove path = files := by
  unfold remove
  split
  · next place located =>
    split
    · rfl
    · next free =>
      rw [create_eq located (Bool.eq_false_iff.mpr free)] at refused
      contradiction
  · rfl

theorem isDraft_create (created : files.create path = .ok (number, later)) :
    files.IsDraft later path number .empty := by
  obtain ⟨place, located, -⟩ := bind_eq_ok.mp created
  obtain ⟨free, rfl, rfl⟩ := create_ok created
  have others (other : Place) (different : other ≠ path.place) :
      (files.put path.place (.file .empty)).node? other = files.node? other := node?_put_of_ne different
  exact {
    free := free
    located := locate_mono (keepsDirectories_of_same free others) (locate_eq_place located)
    stands := node?_put_self (isTop_of_free free)
    opened := List.getElem?_concat_length
    others := others }

namespace IsDraft

theorem extend (draft : base.IsDraft files path number written) (piece : ByteArray) :
    base.IsDraft (files.extend number piece) path number (written ++ piece) := by
  rw [extend_eq draft.opened draft.stands]
  have free := isDirectoryAt_file draft.stands
  have others (other : Place) (different : other ≠ path.place) :
      (files.put path.place (.file (written ++ piece))).node? other = files.node? other := node?_put_of_ne different
  exact {
    free := draft.free
    located := locate_mono (keepsDirectories_of_same free others) draft.located
    stands := node?_put_self (isTop_of_free free)
    opened := List.getElem?_set_self (List.getElem?_eq_some_iff.mp draft.opened).1
    others := fun other different => (others other different).trans (draft.others other different) }

/-- A draft is given up. -/
theorem remove (draft : base.IsDraft files path number written) : base.Loses (files.remove path) path.place := by
  constructor
  · have free := isDirectoryAt_file draft.stands
    rw [remove_eq draft.located free, node?_follow, node?_clear_self (isTop_of_free free)]
  · exact fun other different => (node?_remove_of_ne different).trans (draft.others other different)

/-- A draft gets its name. -/
theorem rename (draft : base.IsDraft files path number written) (renamed : files.rename path target = .ok later)
    (apart : path.place ≠ target.place) : later.content? target = some written ∧ later.node? path.place = none ∧
      ∀ other, other ≠ target.place → other ≠ path.place → later.node? other = base.node? other := by
  obtain ⟨content, stands, located, free, rfl⟩ := rename_ok renamed
  rw [draft.stands] at stands
  cases stands
  rw [if_neg apart]
  -- First the name is taken, then the draft's own path is left.
  have named : (files.put target.place (.file written)).node? path.place = some (.file written) :=
    (node?_put_of_ne apart).trans draft.stands
  have keeps : files.KeepsDirectories (files.put target.place (.file written)) :=
    keepsDirectories_of_same free fun other different => node?_put_of_ne different
  have leaves : (files.put target.place (.file written)).KeepsDirectories
      ((files.put target.place (.file written)).clear path.place) :=
    keepsDirectories_of_same (isDirectoryAt_file named) fun other different => node?_clear_of_ne different
  refine ⟨?_, ?_, fun other fromTarget fromPath => ?_⟩
  · refine content?_of_file (locate_mono leaves (locate_mono keeps located)) ?_
    exact (node?_clear_of_ne apart.symm).trans (node?_put_self (isTop_of_free free))
  · exact node?_clear_self (isTop_of_free (isDirectoryAt_file draft.stands))
  · exact (node?_clear_of_ne fromPath).trans ((node?_put_of_ne fromTarget).trans (draft.others other fromPath))

end IsDraft

end Files

end Montage
