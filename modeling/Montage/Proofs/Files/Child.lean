import Montage.Proofs.Files.Draft
import Montage.Proofs.Files.Length

/-! # What stands directly in a directory

A name in a directory that is there can be followed unless it is too long or holds a null character. If there are no
directories in it, that is all that can keep a file from being created under the name and from getting another one.
-/

namespace Montage

namespace Path

variable {directory : Path} {name : String}

theorem intercalate_extend (separator : List Char) (front : List (List Char)) (last more : List Char) :
    separator.intercalate (front ++ [last ++ more]) = separator.intercalate (front ++ [last]) ++ more := by
  induction front with
  | nil => rw [List.nil_append, List.nil_append, List.intercalate_singleton, List.intercalate_singleton]
  | cons word front ih =>
    cases front with
    | nil =>
      simp only [List.cons_append, List.nil_append, List.intercalate_cons_cons, List.intercalate_singleton,
        List.append_assoc]
    | cons next front =>
      simp only [List.cons_append, List.intercalate_cons_cons, List.append_assoc] at ih ⊢
      rw [ih]

/-- The text of a path goes on with what is put to its last part. -/
theorem text_extend (root : String) (front : List String) (last more : String) :
    (⟨root, front ++ [last ++ more]⟩ : Path).text = (⟨root, front ++ [last]⟩ : Path).text ++ more := by
  have filled (part : String) : ¬ (root = "" ∧ front ++ [part] = []) := fun empty =>
    List.append_ne_nil_of_right_ne_nil _ (List.cons_ne_nil _ _) empty.2
  unfold text
  rw [if_neg (filled _), if_neg (filled _), ← String.toList_inj]
  simp only [String.toList_append, String.toList_intercalate, List.map_append, List.map_cons, List.map_nil,
    intercalate_extend, List.append_assoc]

theorem name_div (part : IsPart name) : (directory / name).name = name := by
  rw [div_part part, Path.name, List.getLast?_concat, Option.getD_some]

theorem length_partName (name : String) : (name ++ ".part").toList.length = name.toList.length + 5 := by
  rw [String.toList_append, List.length_append]
  rfl

theorem partName_ne {name step : String} (short : step.toList.length < 5) : name ++ ".part" ≠ step := by
  rintro rfl
  rw [length_partName] at short
  omega

theorem IsPart.partName (part : IsPart name) : IsPart (name ++ ".part") := by
  constructor
  · exact partName_ne (by decide)
  · exact partName_ne (by decide)
  · rw [String.toList_append, List.mem_append, not_or]
    exact ⟨part.whole, by decide⟩

theorem temporary_div (part : IsPart name) : (directory / name).temporary = directory / (name ++ ".part") := by
  rw [temporary, name_div part, div_part part, div_part part.partName, withName, List.dropLast_concat]

theorem text_temporary (part : IsPart name) :
    (directory / name).temporary.text = (directory / name).text ++ ".part" := by
  rw [temporary_div part, div_part part, div_part part.partName, text_extend]

theorem place_div (part : IsPart name) (down : name ≠ "..") : (directory / name).place =
    { directory.place with parts := directory.place.parts ++ [name] } := by
  rw [div_part part, place, Place.descend_append, Place.descend, if_neg down, Place.descend]
  rfl

end Path

namespace Files

variable {files later : Files} {directory path target : Path} {name : String}

/-- A place in which no directory stands. -/
def IsFlatAt (files : Files) (place : Place) : Prop :=
  ∀ part, part ≠ ".." → files.node? { place with parts := place.parts ++ [part] } ≠ some .directory

/-- A name is followed into a directory that is there, unless it is too long. -/
theorem locate_div (there : files.find directory = .ok .directory) (part : Path.IsPart name) :
    files.locate (directory / name) =
      if '\x00' ∈ (directory / name).text.toList then .error .holdsNull
      else if pathLimit ≤ (directory / name).text.utf8ByteSize ∨ nameLimit < name.utf8ByteSize then
        .error (.tooLong (directory / name).text)
      else .ok (directory / name).place := by
  obtain ⟨place, located, -⟩ := bind_eq_ok.mp there
  have walked : files.walk directory { root := directory.root } directory.parts = .ok directory.place := by
    rw [eq_place_of_locate located] at located
    unfold locate at located
    split at located
    · cases located
    · split at located
      · cases located
      · exact located
  have parts : (directory / name).parts = directory.parts ++ [name] := by rw [Path.div_part part]
  have root : (directory / name).root = directory.root := by rw [Path.div_part part]
  have below : (directory / name).place = Place.descend directory.place [name] := by
    rw [Path.place, root, parts, Place.descend_append]
    rfl
  unfold locate
  simp only [List.contains_iff_mem]
  split
  · rfl
  · by_cases beyond : pathLimit ≤ (directory / name).text.utf8ByteSize
    · rw [if_pos beyond, if_pos (.inl beyond)]
    · rw [if_neg beyond, below, root, parts, walk_append walked, walk, find_ok there, Place.descend]
      by_cases up : name = ".."
      · subst up
        have short : ¬ nameLimit < "..".utf8ByteSize := by decide
        simp only [beyond, short, if_true, if_false, or_self]
        split
        · rfl
        · split <;> rfl
      · simp only [beyond, up, if_false, false_or]
        rfl

/-- Only a path that cannot be followed for its length cannot be looked for. -/
theorem isFile_isError_iff_locate : (∃ fault, files.isFile path = .error fault) ↔
    ∃ text, files.locate path = .error (.tooLong text) := by
  cases located : files.locate path with
  | error fault =>
    have found : files.find path = .error fault := bind_eq_error.mpr (.inl located)
    rw [isFile, found]
    cases fault with
    | tooLong text => exact iff_of_true ⟨_, rfl⟩ ⟨text, rfl⟩
    | _ =>
      apply iff_of_false
      · rintro ⟨fault, beyond⟩
        cases beyond
      · rintro ⟨text, long⟩
        cases long
  | ok place =>
    apply iff_of_false
    · rintro ⟨fault, beyond⟩
      cases stands : files.node? place with
      | none =>
        rw [isFile_of_none located stands] at beyond
        contradiction
      | some node =>
        rw [isFile, find_eq located stands] at beyond
        cases node with
        | file | directory => contradiction
    · rintro ⟨text, long⟩
      cases long

/-- A name in a directory that is there cannot be looked for exactly if it is too long to be followed. -/
theorem isFile_isError_iff (there : files.find directory = .ok .directory) (filled : name ≠ "")
    (whole : '/' ∉ name.toList) : (∃ fault, files.isFile (directory / name) = .error fault) ↔
      '\x00' ∉ (directory / name).text.toList ∧
        (pathLimit ≤ (directory / name).text.utf8ByteSize ∨ nameLimit < name.utf8ByteSize) := by
  by_cases dot : name = "."
  · subst dot
    rw [Path.div_dot]
    have look : files.isFile directory = .ok false := by rw [isFile, there]
    obtain ⟨place, located, -⟩ := bind_eq_ok.mp there
    apply iff_of_false
    · rintro ⟨fault, beyond⟩
      cases look.symm.trans beyond
    · rintro ⟨plain, long | long⟩
      · unfold locate at located
        rw [if_neg (by simpa using plain), if_pos long] at located
        cases located
      · exact absurd long (by decide)
  · have located := locate_div there ⟨filled, dot, whole⟩
    rw [isFile_isError_iff_locate, located]
    split
    · next null =>
      apply iff_of_false
      · rintro ⟨text, beyond⟩
        cases beyond
      · intro both
        exact both.1 null
    · next plain =>
      split
      · next long => exact iff_of_true ⟨_, rfl⟩ ⟨plain, long⟩
      · next short =>
        apply iff_of_false
        · rintro ⟨text, beyond⟩
          cases beyond
        · intro both
          exact short both.2

/-- A name without a null character keeps a path without one. -/
theorem null_notMem_div (there : files.find directory = .ok .directory) (part : Path.IsPart name)
    (plain : '\x00' ∉ name.toList) : '\x00' ∉ (directory / name).text.toList := by
  obtain ⟨place, located, -⟩ := bind_eq_ok.mp there
  have above : '\x00' ∉ directory.text.toList := by
    intro null
    unfold locate at located
    rw [if_pos (by simpa using null)] at located
    cases located
  intro member
  rw [Path.div_part part] at member
  rcases Path.mem_text member with root | ⟨other, known, inside⟩ | slash | dot
  · exact above (Path.mem_text_of_mem (.inl root))
  · rcases List.mem_append.mp known with front | last
    · exact above (Path.mem_text_of_mem (.inr ⟨other, front, inside⟩))
    · obtain rfl := List.mem_singleton.mp last
      exact plain inside
  · cases slash
  · cases dot

/-- A name in a directory that is there can be looked for exactly if neither it nor the whole path is too long. -/
theorem isFile_isOk_iff (there : files.find directory = .ok .directory) (part : Path.IsPart name)
    (plain : '\x00' ∉ name.toList) : (∃ found, files.isFile (directory / name) = .ok found) ↔
      name.utf8ByteSize ≤ nameLimit ∧ (directory / name).text.utf8ByteSize < pathLimit := by
  have refused := isFile_isError_iff there part.filled part.whole
  rw [and_iff_right (null_notMem_div there part plain)] at refused
  cases look : files.isFile (directory / name) with
  | error fault =>
    have long := refused.mp ⟨fault, look⟩
    apply iff_of_false
    · rintro ⟨found, same⟩
      cases same
    · omega
  | ok found =>
    have short : ¬ (pathLimit ≤ (directory / name).text.utf8ByteSize ∨ nameLimit < name.utf8ByteSize) := by
      intro long
      obtain ⟨fault, same⟩ := refused.mpr long
      cases look.symm.trans same
    exact iff_of_true ⟨found, rfl⟩ (by omega)

/-- A name with too many octets is not followed into a directory that is there. -/
theorem isFile_of_long (there : files.find directory = .ok .directory) (part : Path.IsPart name)
    (plain : '\x00' ∉ name.toList) (long : nameLimit < name.utf8ByteSize) :
    files.isFile (directory / name) = .error (.tooLong (directory / name).text) := by
  have located := locate_div there part
  rw [if_neg (null_notMem_div there part plain), if_pos (.inr long)] at located
  rw [isFile, find, located]
  rfl

/-- A name that is not too long and is not that of a directory is that of a file if there is anything under it. -/
theorem isFile_div (there : files.find directory = .ok .directory) (part : Path.IsPart name)
    (plain : '\x00' ∉ name.toList) (other : files.node? (directory / name).place ≠ some .directory) :
    files.isFile (directory / name) =
      if pathLimit ≤ (directory / name).text.utf8ByteSize ∨ nameLimit < name.utf8ByteSize then
        .error (.tooLong (directory / name).text)
      else .ok (files.node? (directory / name).place).isSome := by
  have located := locate_div there part
  rw [if_neg (null_notMem_div there part plain)] at located
  split at located
  · next long =>
    rw [if_pos long, isFile, find, located]
    rfl
  · next short =>
    rw [if_neg short]
    cases stands : files.node? (directory / name).place with
    | none => exact isFile_of_none located stands
    | some node =>
      rw [isFile, find_eq located stands]
      cases node with
      | file content => rfl
      | directory => exact absurd stands other

/-- In a directory without directories a name that is not too long is that of a file if there is anything under it. -/
theorem isFile_eq (there : files.find directory = .ok .directory) (flat : files.IsFlatAt directory.place)
    (part : Path.IsPart name) (down : name ≠ "..") (plain : '\x00' ∉ name.toList) : files.isFile (directory / name) =
      if pathLimit ≤ (directory / name).text.utf8ByteSize ∨ nameLimit < name.utf8ByteSize then
        .error (.tooLong (directory / name).text)
      else .ok (files.node? (directory / name).place).isSome := by
  apply isFile_div there part plain
  rw [Path.place_div part down]
  exact flat name down

/-- What is directly below a place has its own name there. -/
theorem Place.eq_child_iff {below place : Place} (down : name ≠ "..") :
    below.isTop = false ∧ below.parent = place ∧ below.name = name ↔
      below = { place with parts := place.parts ++ [name] } := by
  constructor
  · rintro ⟨low, rfl, rfl⟩
    rcases List.eq_nil_or_concat below.parts with none | ⟨front, last, whole⟩
    · rw [Place.isTop, none] at low
      contradiction
    · rw [List.concat_eq_append] at whole
      rw [Place.parent, Path.name, whole, List.dropLast_concat, List.getLast?_concat, Option.getD_some, ← whole]
  · rintro rfl
    rw [Place.isTop, Place.parent, Path.name, List.dropLast_concat, List.getLast?_concat]
    exact ⟨by simp [down], rfl, rfl⟩

/-- The names in a directory that is there are those under which something stands. -/
theorem exists_list (there : files.find directory = .ok .directory) : ∃ names, files.list directory = .ok names ∧
    ∀ name, name ≠ ".." → (name ∈ names ↔
      (files.node? { directory.place with parts := directory.place.parts ++ [name] }).isSome = true) := by
  obtain ⟨place, located, -⟩ := bind_eq_ok.mp there
  obtain rfl := eq_place_of_locate located
  refine ⟨_, bind_eq_ok.mpr ⟨directory.place, located, by rw [find_ok there]; rfl⟩, fun name down => ?_⟩
  have low : Place.isTop { directory.place with parts := directory.place.parts ++ [name] } = false :=
    ((Place.eq_child_iff down).mpr rfl).1
  rw [node?_low low, List.mem_mergeSort, List.mem_filterMap, List.lookup_isSome_iff]
  refine exists_congr fun entry => and_congr_right fun _ => ?_
  rw [beq_iff_eq, eq_comm (b := entry.1), ← Place.eq_child_iff down]
  simp only [Option.ite_none_right_eq_some, Bool.and_eq_true, Bool.not_eq_true', beq_iff_eq, Option.some.injEq, and_assoc]

/-- A directory that can be listed is there. -/
theorem find_of_list {names : List String} (list : files.list directory = .ok names) :
    files.find directory = .ok .directory := by
  obtain ⟨place, located, found⟩ := bind_eq_ok.mp list
  split at found
  · next stands => exact find_eq located stands
  · cases found
  · cases found

/-- What stands in a directory in its order is listed as it stands. -/
theorem list_of_sorted {names : List String} (there : files.find directory = .ok .directory)
    (inside : (files.entries.filterMap fun entry =>
      if !entry.1.isTop && entry.1.parent == directory.place then some entry.1.name else none) = names)
    (sorted : names.Pairwise fun a b => nameLe a b) : files.list directory = .ok names := by
  obtain ⟨place, located, -⟩ := bind_eq_ok.mp there
  obtain rfl := eq_place_of_locate located
  apply bind_eq_ok.mpr
  refine ⟨directory.place, located, ?_⟩
  rw [find_ok there]
  dsimp only
  rw [inside, List.mergeSort_of_pairwise sorted]
  rfl

/-- A place is flat if no directory of the tree has it as its parent. -/
theorem isFlatAt_of_entries {place : Place}
    (apart : ∀ entry ∈ files.entries, entry.1.parent = place → entry.2 ≠ .directory) : files.IsFlatAt place := by
  intro part down stands
  obtain ⟨low, above, -⟩ := (Place.eq_child_iff down).mpr (rfl : { place with parts := place.parts ++ [part] } = _)
  rw [node?_low low] at stands
  obtain ⟨before, after, whole, -⟩ := List.lookup_eq_some_iff.mp stands
  exact apart _ (whole ▸ List.mem_append_right _ List.mem_cons_self) above rfl

/-- A name in a directory without directories can be opened anew exactly if it can be followed. -/
theorem create_isError_iff (there : files.find directory = .ok .directory) (flat : files.IsFlatAt directory.place)
    (part : Path.IsPart name) (down : name ≠ "..") : (∃ fault, files.create (directory / name) = .error fault) ↔
      '\x00' ∈ (directory / name).text.toList ∨ pathLimit ≤ (directory / name).text.utf8ByteSize ∨
        nameLimit < name.utf8ByteSize := by
  have located := locate_div there part
  have free : files.isDirectoryAt (directory / name).place = false := by
    rw [Path.place_div part down]
    exact Bool.eq_false_iff.mpr fun stands => flat name down (isDirectoryAt_iff.mp stands)
  split at located
  · next null =>
    exact iff_of_true ⟨.holdsNull, bind_eq_error.mpr (.inl located)⟩ (.inl null)
  · next plain =>
    split at located
    · next long =>
      exact iff_of_true ⟨.tooLong _, bind_eq_error.mpr (.inl located)⟩ (.inr long)
    · next short =>
      apply iff_of_false
      · rintro ⟨fault, refused⟩
        rw [create_eq located free] at refused
        cases refused
      · rintro (null | long)
        · exact plain null
        · exact short long

/-- A directory without directories can store a name if its temporary name can be opened anew. -/
theorem canStore_of_create (there : files.find directory = .ok .directory) (flat : files.IsFlatAt directory.place)
    (part : Path.IsPart name) (down : name ≠ "..") {opened : Nat × Files}
    (created : files.create (directory / name).temporary = .ok opened) :
    files.CanStore directory (directory / name) := by
  obtain ⟨place, temporary, -⟩ := bind_eq_ok.mp created
  have free (part : String) (own : Path.IsPart part) (down : part ≠ "..") :
      files.isDirectoryAt (directory / part).place = false := by
    rw [Path.place_div own down]
    exact Bool.eq_false_iff.mpr fun stands => flat part down (isDirectoryAt_iff.mp stands)
  have up : name ++ ".part" ≠ ".." := Path.partName_ne (by decide)
  have located : files.locate (directory / name) = .ok (directory / name).place := by
    have longer := locate_div there part.partName
    rw [← Path.temporary_div part, temporary] at longer
    split at longer
    · cases longer
    · next plain =>
      split at longer
      · cases longer
      · next short =>
        rw [Path.text_temporary part, String.toList_append, List.mem_append, not_or] at plain
        rw [Path.text_temporary part, String.utf8ByteSize_append, String.utf8ByteSize_append, not_or] at short
        rw [locate_div there part, if_neg plain.1, if_neg]
        rintro (long | long)
        · omega
        · omega
  constructor
  · exact there
  · exact located
  · exact locate_eq_place temporary
  · exact free name part down
  · rw [Path.temporary_div part]
    exact free _ part.partName up
  · rw [Path.name_div part]
    exact part.filled
  · rw [Path.name_div part]
    exact down

/-- A draft in a directory without directories gets its name. -/
theorem CanStore.rename {base : Files} {number : Nat} {content : ByteArray} (can : base.CanStore directory path)
    (draft : base.IsDraft files path.temporary number content) :
    ∃ later, files.rename path.temporary path = .ok later := by
  have keeps : base.KeepsDirectories files := keepsDirectories_of_same draft.free draft.others
  refine ⟨_, rename_eq draft.located (locate_mono keeps can.located) draft.stands ?_ can.down can.apart⟩
  rw [isDirectoryAt, draft.others path.place can.apart.symm]
  exact can.free

/-- Nothing gets the name of a directory, nor a name that is a step upwards. -/
theorem rename_isError (blocked : target.name = ".." ∨ files.find target = .ok .directory) :
    ∃ fault, files.rename path target = .error fault := by
  unfold rename
  split
  · exact ⟨_, rfl⟩
  · exact ⟨_, rfl⟩
  · exact ⟨_, rfl⟩
  · split
    · exact ⟨_, rfl⟩
    · next other =>
      rcases blocked with up | there
      · contradiction
      · rw [there]
        exact ⟨_, rfl⟩

theorem find_of_ensureDirectory (made : files.ensureDirectory path = .ok later) : later.find path = .ok .directory := by
  unfold ensureDirectory at made
  split at made
  · next there =>
    obtain rfl := Except.ok.inj made
    exact there
  · obtain ⟨place, located, made⟩ := bind_eq_ok.mp made
    split at made
    · contradiction
    · next empty =>
      obtain rfl := Except.ok.inj made
      have free := isDirectoryAt_none empty
      have keeps : files.KeepsDirectories (files.put place .directory) :=
        keepsDirectories_of_same free fun other different => node?_put_of_ne different
      exact find_eq (locate_mono keeps located) (node?_put_self (isTop_of_free free))

/-- A directory that was made is there. -/
theorem find_of_makeDirectories (made : files.makeDirectories path = .ok later) : later.find path = .ok .directory := by
  obtain ⟨root, parts⟩ := path
  unfold makeDirectories at made
  cases back : parts.reverse with
  | nil =>
    obtain rfl := List.reverse_eq_nil_iff.mp back
    exact find_of_ensureDirectory made
  | cons last above =>
    have whole : (last :: above).reverse = parts := by rw [← back, List.reverse_reverse]
    rw [back, makeParts] at made
    dsimp only at made
    rw [whole] at made
    split at made
    · obtain ⟨between, -, last⟩ := bind_eq_ok.mp made
      exact find_of_ensureDirectory last
    · exact find_of_ensureDirectory made

end Files

end Montage
