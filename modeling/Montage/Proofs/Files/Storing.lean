import Montage.Proofs.Files.Place

/-! # Storing a file under a temporary name

What exactly becomes of files when a file is created, written piece by piece, renamed and removed, as long
as the paths can be followed and no directory is in the way. Directories stay, so a path that could be
followed once can be followed later.
-/

namespace Montage

theorem Place.descend_append (place : Place) (first second : List String) :
    Place.descend place (first ++ second) = Place.descend (Place.descend place first) second := by
  induction first generalizing place with
  | nil => rfl
  | cons part rest ih =>
    rw [List.cons_append, Place.descend, Place.descend]
    split
    · split
      · apply ih
      · split <;> apply ih
    · apply ih

namespace Path

/-- The name of a file while it is written. -/
def temporary (path : Path) : Path := path.withName (path.name ++ ".part")

/-- A path below the place of its directory, with a name that is no step upwards. -/
theorem place_of_name {path : Path} {front : List String} {last : String}
    (parts : path.parts = front ++ [last]) (down : last ≠ "..") :
    path.place.parts = (Place.descend { root := path.root } front).parts ++ [last] := by
  rw [place, parts, Place.descend_append, Place.descend, if_neg down, Place.descend]

/-- A file and its temporary name are at different places, even if the path ends with a step upwards. -/
theorem temporary_place_ne {path : Path} (named : path.name ≠ "") : path.temporary.place ≠ path.place := by
  rcases List.eq_nil_or_concat path.parts with none | ⟨front, last, parts⟩
  · rw [name, none] at named
    exact absurd rfl named
  rw [List.concat_eq_append] at parts
  have name : path.name = last := by rw [name, parts, List.getLast?_concat, Option.getD_some]
  have other : path.temporary.parts = front ++ [last ++ ".part"] := by
    rw [temporary, withName, parts, List.dropLast_concat, name]
  have longer (text : String) (short : text.toList.length < last.toList.length + 5) : last ++ ".part" ≠ text := by
    rintro rfl
    have : ".part".toList.length = 5 := rfl
    simp only [String.toList_append, List.length_append] at short
    omega
  have ends : path.temporary.place.parts =
      (Place.descend { root := path.root } front).parts ++ [last ++ ".part"] :=
    place_of_name other (longer ".." (Nat.lt_of_lt_of_le (by decide) (Nat.le_add_left ..)))
  intro same
  rw [same] at ends
  by_cases up : last = ".."
  · -- A step upwards drops the last part, or adds one that is another step upwards, or none at all.
    rw [place, parts, Place.descend_append, up, Place.descend, if_pos rfl] at ends
    split at ends
    · have length := congrArg List.length ends
      simp only [Place.descend, Place.parent, List.length_dropLast, List.length_append, List.length_singleton] at length
      omega
    · split at ends
      · exact absurd (List.append_cancel_left ends) (by decide)
      · exact absurd (List.self_eq_append_right.mp ends) (List.cons_ne_nil _ _)
  · rw [place_of_name parts up] at ends
    obtain ⟨-, equal⟩ := List.append_inj' ends rfl
    exact longer last (by omega) (List.cons.inj equal).1.symm

end Path

namespace Files

variable {files later : Files} {directory path target : Path} {place other : Place} {node : Node}
  {content piece written : ByteArray} {number : Nat}

/-- Every directory stays one. -/
def KeepsDirectories (files later : Files) : Prop :=
  ∀ place, files.node? place = some .directory → later.node? place = some .directory

theorem walk_mono (keeps : files.KeepsDirectories later) {start : Place} {parts : List String}
    (walked : files.walk path start parts = .ok place) : later.walk path start parts = .ok place := by
  induction parts generalizing start with
  | nil => exact walked
  | cons part rest ih =>
    unfold walk at walked ⊢
    split at walked
    · contradiction
    · contradiction
    · next stands =>
      rw [keeps start stands]
      dsimp only
      split at walked
      · next up =>
        rw [if_pos up]
        split at walked
        · next low => rw [if_pos low]; exact ih walked
        · next top =>
          rw [if_neg top]
          split at walked
          · next relative => rw [if_pos relative]; exact ih walked
          · next rooted => rw [if_neg rooted]; exact ih walked
      · next down =>
        rw [if_neg down]
        split at walked
        · contradiction
        · next short => rw [if_neg short]; exact ih walked

theorem locate_mono (keeps : files.KeepsDirectories later) (located : files.locate path = .ok place) :
    later.locate path = .ok place := by
  unfold locate at located ⊢
  split at located
  · contradiction
  · next plain =>
    rw [if_neg plain]
    split at located
    · contradiction
    · next short =>
      rw [if_neg short]
      exact walk_mono keeps located

theorem find_mono (keeps : files.KeepsDirectories later) (there : files.find path = .ok .directory) :
    later.find path = .ok .directory := by
  obtain ⟨place, located, -⟩ := bind_eq_ok.mp there
  obtain rfl := eq_place_of_locate located
  exact find_eq (locate_mono keeps located) (keeps _ (find_ok there))

theorem makeDirectories_eq (there : files.find path = .ok .directory) :
    files.makeDirectories path = .ok files := by
  obtain ⟨root, parts⟩ := path
  rw [makeDirectories]
  cases back : parts.reverse with
  | nil =>
    obtain rfl := List.reverse_eq_nil_iff.mp back
    rw [makeParts, ensureDirectory, there]
  | cons last above =>
    have whole : (last :: above).reverse = parts := by rw [← back, List.reverse_reverse]
    simp only [makeParts, ensureDirectory, whole, there]

theorem file_of_makeParts {root : String} {parts : List String}
    (made : files.makeParts root parts = .ok later)
    (stands : later.node? place = some (.file content)) : files.node? place = some (.file content) := by
  refine makeParts_induction (fun later => later.node? place = some (.file content) →
    files.node? place = some (.file content)) made id ?_ stands
  intro before above _ empty held stands
  by_cases same : place = ({ root := root, parts := above.reverse } : Path).place
  · rw [same, node?_put_self (isTop_of_node?_eq_none empty)] at stands
    cases stands
  · exact held (node?_put_of_ne same ▸ stands)

theorem isTop_of_free (free : files.isDirectoryAt place = false) : place.isTop = false := by
  refine Bool.eq_false_iff.mpr fun top => ?_
  rw [isDirectoryAt, node?_top top] at free
  contradiction

theorem isDirectoryAt_file (stands : files.node? place = some (.file content)) :
    files.isDirectoryAt place = false := by
  rw [isDirectoryAt, stands]

theorem isDirectoryAt_none (nothing : files.node? place = none) : files.isDirectoryAt place = false := by
  rw [isDirectoryAt, nothing]

theorem isFile_of_file (located : files.locate path = .ok place)
    (stands : files.node? place = some (.file content)) : files.isFile path = .ok true := by
  rw [isFile, find_eq located stands]

theorem isFile_of_none (located : files.locate path = .ok place) (nothing : files.node? place = none) :
    files.isFile path = .ok false := by
  have missing : files.find path = .error (.missing path.text) := by
    simp only [find, located, bind, Except.bind, nothing]
  rw [isFile, missing]

theorem size_of_file (located : files.locate path = .ok place)
    (stands : files.node? place = some (.file content)) : files.size path = .ok content.size := by
  rw [Files.size, find_eq located stands]
  rfl

theorem content?_of_file (located : files.locate path = .ok place)
    (stands : files.node? place = some (.file content)) : files.content? path = some content := by
  rw [content?, find_eq located stands]

theorem overwrite_end (content piece : ByteArray) : overwrite content content.size piece = content ++ piece := by
  unfold overwrite
  split
  · next empty =>
    have nothing : piece = .empty := ByteArray.size_eq_zero_iff.mp (beq_iff_eq.mp empty)
    rw [nothing, ByteArray.append_empty]
  · have rest : content.extract (content.size + piece.size) content.size = .empty :=
      ByteArray.extract_eq_empty_iff.mpr (by omega)
    have zeros : (⟨Array.replicate (content.size - content.size) 0⟩ : ByteArray) = .empty := by
      rw [Nat.sub_self]
      rfl
    rw [ByteArray.extract_zero_size, rest, zeros, ByteArray.append_empty, ByteArray.append_empty]

theorem create_eq (located : files.locate path = .ok place) (free : files.isDirectoryAt place = false) :
    files.create path = .ok (files.opened.length,
      { files.put place (.file .empty) with opened := files.opened ++ [⟨some place, 0⟩] }) := by
  have written : files.write path .empty = .ok (files.put place (.file .empty)) := by
    refine bind_eq_ok.mpr ⟨place, located, ?_⟩
    rw [free]
    rfl
  refine bind_eq_ok.mpr ⟨place, located, bind_eq_ok.mpr ⟨_, written, ?_⟩⟩
  rw [opened_put]
  rfl

theorem extend_eq (opened : files.opened[number]? = some ⟨some place, written.size⟩)
    (stands : files.node? place = some (.file written)) :
    files.extend number piece = { files.put place (.file (written ++ piece)) with
      opened := files.opened.set number ⟨some place, (written ++ piece).size⟩ } := by
  simp only [extend, opened, stands, overwrite_end, opened_put, ByteArray.size_append]

theorem rename_eq (source : files.locate path = .ok path.place)
    (located : files.locate target = .ok target.place)
    (stands : files.node? path.place = some (.file content))
    (free : files.isDirectoryAt target.place = false) (down : target.name ≠ "..")
    (apart : path.place ≠ target.place) :
    files.rename path target = .ok (((files.put target.place (.file content)).clear path.place).follow
      path.place (some target.place)) := by
  have moved : (do
      let source ← files.locate path
      let place ← files.locate target
      if source = place then return files
      else return ((files.put place (.file content)).clear source).follow source (some place)) =
        Except.ok (((files.put target.place (.file content)).clear path.place).follow path.place
          (some target.place)) :=
    bind_eq_ok.mpr ⟨_, source, bind_eq_ok.mpr ⟨_, located, by rw [if_neg apart]; rfl⟩⟩
  unfold rename
  rw [find_eq source stands]
  dsimp only
  rw [if_neg down]
  split
  · next there =>
    rw [isDirectoryAt_iff.mpr (find_ok there)] at free
    contradiction
  · exact moved

theorem remove_eq (located : files.locate path = .ok place) (free : files.isDirectoryAt place = false) :
    files.remove path = (files.clear place).follow place none := by
  simp only [remove, located, free, Bool.false_eq_true, ↓reduceIte]

/-- A directory can store a path: it is there, the path and its temporary name can be followed, no directory
stands at their ends, and the path ends in a name that is no step upwards. -/
structure CanStore (files : Files) (directory path : Path) : Prop where
  directory : files.find directory = .ok .directory
  located : files.locate path = .ok path.place
  temporary : files.locate path.temporary = .ok path.temporary.place
  free : files.isDirectoryAt path.place = false
  temporaryFree : files.isDirectoryAt path.temporary.place = false
  named : path.name ≠ ""
  down : path.name ≠ ".."

/-- A file is being written under the temporary name of a path at which nothing stands yet. -/
structure IsStoring (files : Files) (path : Path) (number : Nat) (written : ByteArray) : Prop where
  empty : files.node? path.place = none
  stands : files.node? path.temporary.place = some (.file written)
  opened : files.opened[number]? = some ⟨some path.temporary.place, written.size⟩

namespace CanStore

theorem apart (can : files.CanStore directory path) : path.temporary.place ≠ path.place :=
  Path.temporary_place_ne can.named

/-- A path can be stored to later on if nothing but it and its temporary name changes. -/
theorem of_same (can : files.CanStore directory path)
    (same : ∀ other, other ≠ path.place → other ≠ path.temporary.place →
      later.node? other = files.node? other)
    (free : later.isDirectoryAt path.place = false)
    (temporaryFree : later.isDirectoryAt path.temporary.place = false) : later.CanStore directory path := by
  have keeps : files.KeepsDirectories later := by
    intro place directory
    rw [same place, directory]
    · rintro rfl
      exact absurd (isDirectoryAt_iff.mpr directory) (Bool.eq_false_iff.mp can.free)
    · rintro rfl
      exact absurd (isDirectoryAt_iff.mpr directory) (Bool.eq_false_iff.mp can.temporaryFree)
  exact ⟨find_mono keeps can.directory, locate_mono keeps can.located, locate_mono keeps can.temporary, free, temporaryFree, can.named,
    can.down⟩

theorem file_or_none (can : files.CanStore directory path) :
    files.node? path.place = none ∨ ∃ content, files.node? path.place = some (.file content) := by
  cases stands : files.node? path.place with
  | none => exact .inl rfl
  | some node =>
    cases node with
    | file content => exact .inr ⟨content, rfl⟩
    | directory => exact absurd (isDirectoryAt_iff.mpr stands) (Bool.eq_false_iff.mp can.free)

/-- The temporary file is created. -/
theorem create (can : files.CanStore directory path) (empty : files.node? path.place = none) :
    ∃ number later, files.create path.temporary = .ok (number, later) ∧ later.CanStore directory path ∧
      later.IsStoring path number .empty := by
  refine ⟨_, _, create_eq can.temporary can.temporaryFree, ?_, ?_⟩
  · refine can.of_same (fun other _ different => node?_put_of_ne different) ?_ ?_
    · exact isDirectoryAt_none ((node?_put_of_ne can.apart.symm).trans empty)
    · exact isDirectoryAt_file (node?_put_self (isTop_of_free can.temporaryFree))
  · exact ⟨(node?_put_of_ne can.apart.symm).trans empty, node?_put_self (isTop_of_free can.temporaryFree),
      List.getElem?_concat_length⟩

/-- The temporary file is removed. -/
theorem remove (can : files.CanStore directory path) : (files.remove path.temporary).CanStore directory path ∧
    (files.remove path.temporary).node? path.place = files.node? path.place := by
  rw [remove_eq can.temporary can.temporaryFree]
  have same : (files.clear path.temporary.place).node? path.place = files.node? path.place :=
    node?_clear_of_ne can.apart.symm
  refine ⟨can.of_same (fun other _ different => node?_clear_of_ne different) ?_ ?_, same⟩
  · rw [isDirectoryAt, node?_follow, same]
    exact can.free
  · exact isDirectoryAt_none (node?_clear_self (isTop_of_free can.temporaryFree))

end CanStore

namespace IsStoring

/-- A piece is written to the temporary file. -/
theorem extend (storing : files.IsStoring path number written) (can : files.CanStore directory path)
    (piece : ByteArray) : (files.extend number piece).CanStore directory path ∧
      (files.extend number piece).IsStoring path number (written ++ piece) := by
  rw [extend_eq storing.opened storing.stands]
  have empty : (files.put path.temporary.place (.file (written ++ piece))).node? path.place = none :=
    (node?_put_of_ne can.apart.symm).trans storing.empty
  have stands : (files.put path.temporary.place (.file (written ++ piece))).node? path.temporary.place =
      some (.file (written ++ piece)) := node?_put_self (isTop_of_free can.temporaryFree)
  constructor
  · exact can.of_same (fun other _ different => node?_put_of_ne different) (isDirectoryAt_none empty)
      (isDirectoryAt_file stands)
  · refine ⟨empty, stands, List.getElem?_set_self ?_⟩
    exact (List.getElem?_eq_some_iff.mp storing.opened).1

/-- The temporary file gets its name. -/
theorem rename (storing : files.IsStoring path number written) (can : files.CanStore directory path) :
    ∃ later, files.rename path.temporary path = .ok later ∧ later.CanStore directory path ∧
      later.node? path.place = some (.file written) := by
  refine ⟨_, rename_eq can.temporary can.located storing.stands can.free can.down can.apart, ?_⟩
  have stands : ((files.put path.place (.file written)).clear path.temporary.place).node? path.place =
      some (.file written) :=
    (node?_clear_of_ne can.apart.symm).trans (node?_put_self (isTop_of_free can.free))
  refine ⟨can.of_same (fun other here there => ?_) (isDirectoryAt_file stands) ?_, stands⟩
  · exact (node?_clear_of_ne there).trans (node?_put_of_ne here)
  · exact isDirectoryAt_none (node?_clear_self (isTop_of_free can.temporaryFree))

end IsStoring

end Files

end Montage
