import Montage.Download.FileName
import Montage.Proofs.Files.Length
import Montage.Proofs.Files.Name
import Montage.Proofs.MediaType
import Montage.Proofs.Result
import Montage.Proofs.Text.Blank
import Montage.Proofs.Text.Letter
import Montage.Proofs.Text.Search

/-! # Names that can be stored

A name that is stored is never empty and has no slash, whatever a server says. It need not be fit for a file all the
same. Leading points are dropped before blanks are, so a point behind a blank comes up again; and if nothing is left of
a name, or nothing but its extension, the extension is put to the default name as it is.
-/

namespace Montage

/-- A path leads to something directly in a directory. -/
def Path.IsChildOf (path directory : Path) : Prop :=
  ∃ part, part ≠ ".." ∧ path = ⟨directory.root, directory.parts ++ [part]⟩

namespace Download

open Text (isBlank strip dropBlank)

variable {name extension given : String} {full : List Char} {url : String} {contentType disposition : Option String}

/-- A name under which a file can be stored. -/
structure IsStorable (name : String) : Prop where
  filled : name ≠ ""
  short : name.toList.length ≤ 255
  plain : ∀ c ∈ name.toList, 0x20 ≤ c.toNat ∧ c ∉ ['<', '>', ':', '"', '/', '\\', '|', '?', '*']
  visible : name.toList.head? ≠ some '.'
  noStep : name ≠ "." ∧ name ≠ ".."

/-- A point comes up at the start of a name when what stands before it is dropped: leading points, and then
blanks. -/
def HidesPoint (name : List Char) : Prop := ∃ points gap rest, name = points ++ (gap ++ '.' :: rest) ∧
  (∀ c ∈ points, c = '.') ∧ gap ≠ [] ∧ gap.length < maxNameLength ∧ ∀ c ∈ gap, isBlank c = true ∧ isRefused c = false

/-- The name of a response: the one in its header, or else the last part of its address. -/
def givenName (url : String) (disposition : Option String) : Except AddressFault String :=
  match headerName? disposition with
  | some name => .ok name
  | none => addressName url

/-- A name with the extension that it has to end with. -/
def completed (name extension : List Char) : List Char := if extension <:+ name then name else name ++ extension

/-- A character as it is written in a name. -/
def written (c : Char) : Char := if isRefused c then '_' else c

/-- What a name is cut to before it is trimmed. -/
def cut (name : List Char) : List Char := ((name.map written).dropWhile (· == '.')).take maxNameLength

/-- Nothing is left of a name, or nothing but its extension. -/
def FallsBack (full : List Char) (extension : String) : Prop := sanitize full = [] ∨ sanitize full = extension.toList

/-- What is stored of a name is fit for a file: the extension if nothing else is left, and what is left otherwise. -/
def StaysStorable (full : List Char) (extension : String) : Prop :=
  (FallsBack full extension → extension.toList.length + 8 ≤ 255 ∧ ∀ c ∈ extension.toList, isRefused c = false) ∧
    (¬ FallsBack full extension → ¬ HidesPoint full)

theorem sanitize_eq (name : List Char) : sanitize name = strip (cut name) := rfl

theorem resolveName_eq (url : String) (contentType disposition : Option String) :
    resolveName url contentType disposition =
      (givenName url disposition).map fun name => storedName name (extensionFor contentType name) := by
  unfold resolveName givenName
  cases headerName? disposition with
  | some name => rfl
  | none => cases addressName url <;> rfl

/-- A response has a name unless only its address could have one and cannot be read. -/
theorem isOk_givenName_iff : (∃ given, givenName url disposition = .ok given) ↔
    (headerName? disposition = none → ∃ path, Address.path url.toList = .ok path) := by
  unfold givenName
  constructor
  · rintro ⟨given, known⟩ unnamed
    rw [unnamed] at known
    obtain ⟨path, read, -⟩ := bind_eq_ok.mp known
    exact ⟨path, read⟩
  · intro readable
    split
    · exact ⟨_, rfl⟩
    · next unnamed =>
      obtain ⟨path, read⟩ := readable unnamed
      exact ⟨_, bind_eq_ok.mpr ⟨path, read, rfl⟩⟩

theorem isOk_resolveName_iff : (∃ name, resolveName url contentType disposition = .ok name) ↔
    (headerName? disposition = none → ∃ path, Address.path url.toList = .ok path) := by
  rw [← isOk_givenName_iff, resolveName_eq]
  cases givenName url disposition with
  | ok given => exact iff_of_true ⟨_, rfl⟩ ⟨given, rfl⟩
  | error fault => exact iff_of_false nofun nofun

instance : Decidable (FallsBack full extension) := inferInstanceAs (Decidable (_ ∨ _))

theorem toList_storedName (name extension : String) : (storedName name extension).toList =
    if FallsBack (completed name.toList extension.toList) extension then
      defaultName.toList ++ extension.toList else sanitize (completed name.toList extension.toList) := by
  have whole : (if extension.toList.isSuffixOf name.toList then name else name ++ extension).toList =
      completed name.toList extension.toList := by
    unfold completed
    simp only [List.isSuffixOf_iff_suffix]
    split
    · rfl
    · exact String.toList_append
  have falls : String.ofList (sanitize (completed name.toList extension.toList)) = "" ∨
      String.ofList (sanitize (completed name.toList extension.toList)) = extension ↔
        FallsBack (completed name.toList extension.toList) extension := by
    rw [FallsBack, String.ofList_eq_empty_iff, ← String.toList_inj, String.toList_ofList]
  unfold storedName
  dsimp only
  rw [whole]
  simp only [falls]
  split
  · exact String.toList_append
  · exact String.toList_ofList

theorem written_eq_point {c : Char} : written c = '.' ↔ c = '.' := by
  unfold written
  split
  · next refused =>
    constructor
    · intro other
      exact absurd other (by decide)
    · rintro rfl
      exact absurd refused (by decide)
  · rfl

theorem isRefused_written (c : Char) : isRefused (written c) = false := by
  unfold written
  split
  · rfl
  · next kept => exact Bool.eq_false_iff.mpr kept

/-- No blank is written that was not there. -/
theorem written_of_isBlank {c : Char} (blank : isBlank (written c) = true) : isRefused c = false ∧ written c = c := by
  unfold written at blank ⊢
  split at blank
  · exact absurd blank (by decide)
  · next kept => exact ⟨Bool.eq_false_iff.mpr kept, if_neg kept⟩

theorem mem_sanitize {c : Char} (member : c ∈ sanitize full) : isRefused c = false := by
  have inside : c ∈ full.map written :=
    (List.dropWhile_suffix _).subset (List.mem_of_mem_take ((Text.strip_infix (cut full)).subset member))
  obtain ⟨d, -, rfl⟩ := List.mem_map.mp inside
  exact isRefused_written d

theorem length_sanitize (name : List Char) : (sanitize name).length ≤ maxNameLength :=
  (Text.strip_infix (cut name)).length_le.trans (List.length_take_le _ _)

theorem map_written_of_kept {letters : List Char} (kept : ∀ c ∈ letters, isRefused c = false) :
    letters.map written = letters := by
  apply (List.map_congr_left _).trans (List.map_id _)
  intro c member
  exact if_neg (Bool.eq_false_iff.mp (kept c member))

theorem map_written_of_points {points : List Char} (dots : ∀ c ∈ points, c = '.') : points.map written = points := by
  apply map_written_of_kept
  intro c member
  rw [dots c member]
  rfl

/-- What is written as points, blanks and a point was that before. -/
theorem eq_of_map_written {name points gap more : List Char} (whole : name.map written = points ++ (gap ++ '.' :: more))
    (dots : ∀ c ∈ points, c = '.') (blank : ∀ c ∈ gap, isBlank c = true) :
    ∃ rest, name = points ++ (gap ++ '.' :: rest) ∧ ∀ c ∈ gap, isRefused c = false := by
  obtain ⟨front, later, rfl, rfl, behind⟩ := List.map_eq_append_iff.mp whole
  obtain ⟨middle, last, rfl, rfl, ending⟩ := List.map_eq_append_iff.mp behind
  obtain ⟨c, rest, rfl, point, -⟩ := List.map_eq_cons_iff.mp ending
  obtain rfl := written_eq_point.mp point
  have pointed : ∀ c ∈ front, c = '.' := fun c member => written_eq_point.mp (dots _ (List.mem_map_of_mem member))
  have kept : ∀ c ∈ middle, isRefused c = false :=
    fun c member => (written_of_isBlank (blank _ (List.mem_map_of_mem member))).1
  rw [map_written_of_points pointed, map_written_of_kept kept]
  exact ⟨rest, rfl, kept⟩

/-- What a name is cut to if its point comes up. -/
theorem cut_of_gap {points gap : List Char} (rest : List Char) (dots : ∀ c ∈ points, c = '.') (some : gap ≠ [])
    (short : gap.length < maxNameLength) (blank : ∀ c ∈ gap, isBlank c = true ∧ isRefused c = false) :
    ∃ more, cut (points ++ (gap ++ '.' :: rest)) = gap ++ '.' :: more := by
  have middle : gap.map written = gap := map_written_of_kept fun c member => (blank c member).2
  have solid : Text.StopsAt (· == '.') (gap ++ '.' :: rest.map written) := by
    cases gap with
    | nil => contradiction
    | cons c gap =>
      apply Text.stopsAt_cons.mpr
      have first := (blank c List.mem_cons_self).1
      rw [beq_eq_false_iff_ne]
      rintro rfl
      exact absurd first (by decide)
  have whole : (points ++ (gap ++ '.' :: rest)).map written = points ++ (gap ++ '.' :: rest.map written) := by
    rw [List.map_append, List.map_append, List.map_cons, map_written_of_points dots, middle]
    rfl
  obtain ⟨room, left⟩ : ∃ room, maxNameLength = gap.length + (room + 1) :=
    ⟨maxNameLength - gap.length - 1, by omega⟩
  refine ⟨(rest.map written).take room, ?_⟩
  rw [cut, whole, Text.dropWhile_append (by simpa using dots) solid, left, List.take_length_add_append,
    List.take_succ_cons]

/-- A name is cut to blanks and a point only if its point comes up. -/
theorem hidesPoint_of_cut {name gap rest : List Char} (whole : cut name = gap ++ '.' :: rest)
    (blank : ∀ c ∈ gap, isBlank c = true) : HidesPoint name := by
  generalize body_eq : (name.map written).dropWhile (· == '.') = body
  have cut_eq : cut name = body.take maxNameLength := by rw [cut, body_eq]
  have short : gap.length < maxNameLength := by
    have most := List.length_take_le maxNameLength body
    rw [← cut_eq, whole, List.length_append, List.length_cons] at most
    omega
  obtain ⟨more, split⟩ : ∃ more, body = gap ++ '.' :: more := by
    refine ⟨rest ++ body.drop maxNameLength, ?_⟩
    rw [← List.cons_append, ← List.append_assoc, ← whole, cut_eq, List.take_append_drop]
  have some : gap ≠ [] := by
    rintro rfl
    have first := List.head?_dropWhile_not (· == '.') (name.map written)
    rw [body_eq, split] at first
    simp at first
  have back : name.map written = (name.map written).takeWhile (· == '.') ++ (gap ++ '.' :: more) := by
    rw [← split, ← body_eq, List.takeWhile_append_dropWhile]
  have dots : ∀ c ∈ (name.map written).takeWhile (· == '.'), c = '.' :=
    fun c member => beq_iff_eq.mp (List.mem_takeWhile_imp (p := (· == '.')) member)
  obtain ⟨rest, known, kept⟩ := eq_of_map_written back dots blank
  exact ⟨_, gap, rest, known, dots, some, short, fun c member => ⟨blank c member, kept c member⟩⟩

/-- A trimmed name begins with a point exactly if one comes up behind blanks. -/
theorem head?_sanitize (name : List Char) : (sanitize name).head? = some '.' ↔ HidesPoint name := by
  rw [sanitize_eq, Text.head?_strip]
  constructor
  · intro point
    obtain ⟨rest, tail⟩ := List.head?_eq_some_iff.mp point
    have whole : cut name = (cut name).takeWhile isBlank ++ '.' :: rest :=
      tail ▸ List.takeWhile_append_dropWhile.symm
    exact hidesPoint_of_cut whole fun c member => List.mem_takeWhile_imp member
  · rintro ⟨points, gap, rest, rfl, dots, some, short, blank⟩
    obtain ⟨more, whole⟩ := cut_of_gap rest dots some short blank
    rw [whole, Text.dropBlank_append (fun c member => (blank c member).1) (Text.stopsAt_cons.mpr rfl)]
    rfl

theorem isRefused_eq_false_iff {c : Char} : isRefused c = false ↔
    0x20 ≤ c.toNat ∧ c ∉ ['<', '>', ':', '"', '/', '\\', '|', '?', '*'] := by
  simp [isRefused]

theorem isRefused_of_isAlphanum {c : Char} (letter : c.isAlphanum = true) : isRefused c = false := by
  rw [isRefused_eq_false_iff]
  constructor
  · have code := Text.toNat_of_isAlphanum letter
    omega
  · intro member
    have other : ['<', '>', ':', '"', '/', '\\', '|', '?', '*'].all (fun mark => !mark.isAlphanum) = true := by
      decide
    have plain := List.all_eq_true.mp other c member
    rw [letter] at plain
    contradiction

theorem isRefused_of_isExtension {extension : List Char} (shape : MediaType.IsExtension extension) :
    ∀ c ∈ extension, isRefused c = false := by
  intro c member
  rw [← List.cons_head?_tail shape.pointed] at member
  rcases List.mem_cons.mp member with rfl | letter
  · rfl
  · exact isRefused_of_isAlphanum (shape.plain c letter)

/-- An extension from the table has no slash in it, nor has one that was cut off a name. -/
theorem slash_notMem_extensionFor (contentType : Option String) (name : String) :
    '/' ∉ (extensionFor contentType name).toList := by
  intro member
  unfold extensionFor at member
  split at member
  · next extension known =>
    obtain ⟨_, -, typed⟩ := Option.bind_eq_some_iff.mp known
    have kept := isRefused_of_isExtension (MediaType.isExtension_of_extension? typed) '/' member
    exact absurd kept (by decide)
  · have inside := FileName.mem_extension member
    unfold Path.name at inside
    cases last : (Path.ofText name).parts.getLast? with
    | none =>
      rw [last, Option.getD_none] at inside
      exact absurd inside (by decide)
    | some part =>
      rw [last, Option.getD_some] at inside
      exact ((Path.ofText_isRead name).parts part (List.mem_of_getLast? last)).whole inside

/-- A name leads to something directly in a directory unless it is a step. -/
theorem div_isChildOf {directory : Path} (filled : name ≠ "") (whole : '/' ∉ name.toList) :
    (directory / name).IsChildOf directory ↔ name ≠ "." ∧ name ≠ ".." := by
  by_cases dot : name = "."
  · subst dot
    rw [ne_self_iff_false, false_and, iff_false]
    rintro ⟨part, -, same⟩
    have parts := congrArg (List.length ∘ Path.parts) ((Path.div_dot directory).symm.trans same)
    simp at parts
  · rw [Path.div_part ⟨filled, dot, whole⟩]
    constructor
    · rintro ⟨part, down, same⟩
      obtain rfl := List.singleton_inj.mp (List.append_cancel_left (congrArg Path.parts same))
      exact ⟨dot, down⟩
    · rintro ⟨-, down⟩
      exact ⟨name, down, rfl⟩

/-- Of a name that is left, only a point at its start can be wrong. -/
theorem isStorable_sanitize (some : sanitize full ≠ []) :
    IsStorable (String.ofList (sanitize full)) ↔ ¬ HidesPoint full := by
  rw [← head?_sanitize]
  constructor
  · intro storable point
    apply storable.visible
    rwa [String.toList_ofList]
  · intro visible
    constructor
    · rwa [ne_eq, String.ofList_eq_empty_iff]
    · rw [String.toList_ofList]
      exact length_sanitize full
    · intro c member
      rw [String.toList_ofList] at member
      exact isRefused_eq_false_iff.mp (mem_sanitize member)
    · rwa [String.toList_ofList]
    · constructor
      all_goals
        intro step
        apply visible
        rw [← String.toList_ofList (l := sanitize full), step]
        rfl

/-- The default name is followed by whatever the extension is. -/
theorem isStorable_default (extension : String) : IsStorable (defaultName ++ extension) ↔
    extension.toList.length + 8 ≤ 255 ∧ ∀ c ∈ extension.toList, isRefused c = false := by
  have letters : (defaultName ++ extension).toList = "download".toList ++ extension.toList := String.toList_append
  have size : (defaultName ++ extension).toList.length = extension.toList.length + 8 := by
    rw [letters, List.length_append, Nat.add_comm]
    rfl
  have first : (defaultName ++ extension).toList.head? = some 'd' := by
    rw [letters]
    rfl
  constructor
  · intro storable
    constructor
    · exact size ▸ storable.short
    · intro c member
      exact isRefused_eq_false_iff.mpr (storable.plain c (letters ▸ List.mem_append_right _ member))
  · rintro ⟨short, plain⟩
    constructor
    · intro empty
      rw [empty] at first
      contradiction
    · rwa [size]
    · intro c member
      rw [letters] at member
      rcases List.mem_append.mp member with front | back
      · have kept : "download".toList.all (fun c => !isRefused c) = true := by decide
        have plain := List.all_eq_true.mp kept c front
        exact isRefused_eq_false_iff.mp (by simpa using plain)
      · exact isRefused_eq_false_iff.mp (plain c back)
    · rw [first]
      decide
    · constructor
      all_goals
        intro step
        rw [step] at first
        contradiction

theorem isStorable_storedName (name extension : String) : IsStorable (storedName name extension) ↔
    StaysStorable (completed name.toList extension.toList) extension := by
  have letters := toList_storedName name extension
  generalize completed name.toList extension.toList = full at letters ⊢
  unfold StaysStorable
  by_cases back : FallsBack full extension
  · rw [if_pos back, ← String.toList_append, String.toList_inj] at letters
    rw [letters, isStorable_default]
    simp only [back, forall_const, not_true_eq_false, false_implies, and_true]
  · rw [if_neg back] at letters
    have same : storedName name extension = String.ofList (sanitize full) := by
      rw [← letters, String.ofList_toList]
    rw [same, isStorable_sanitize fun none => back (.inl none)]
    simp only [back, false_implies, not_false_eq_true, forall_const, true_and]

theorem storedName_ne_empty (name extension : String) : storedName name extension ≠ "" := by
  intro empty
  have letters := toList_storedName name extension
  rw [empty] at letters
  split at letters
  · exact absurd letters.symm (List.append_ne_nil_of_left_ne_nil (by decide) _)
  · next left => exact left (.inl letters.symm)

theorem slash_notMem_storedName {extension : String} (whole : '/' ∉ extension.toList) (name : String) :
    '/' ∉ (storedName name extension).toList := by
  rw [toList_storedName]
  split
  · rw [List.mem_append, not_or]
    exact ⟨by decide, whole⟩
  · intro member
    exact absurd (mem_sanitize member) (by decide)

/-- A name that was chosen is not empty and has no slash. -/
theorem part_of_resolveName (named : resolveName url contentType disposition = .ok name) :
    name ≠ "" ∧ '/' ∉ name.toList := by
  rw [resolveName_eq] at named
  cases known : givenName url disposition with
  | error fault =>
    rw [known] at named
    cases named
  | ok given =>
    rw [known] at named
    obtain rfl := Except.ok.inj named
    exact ⟨storedName_ne_empty given _, slash_notMem_storedName (slash_notMem_extensionFor contentType given) given⟩

/-- Of every response whose name can be told, the file gets a name that is not empty and has no slash. It is fit for a
file exactly if no point comes up again in it, or, where the name falls back, if the extension is fit for one. -/
theorem resolveName_isStorable (url : String) (contentType disposition : Option String)
    (readable : headerName? disposition = none → ∃ path, Address.path url.toList = .ok path) :
    ∃ given name, givenName url disposition = .ok given ∧ resolveName url contentType disposition = .ok name ∧
      name ≠ "" ∧ '/' ∉ name.toList ∧
      (∀ directory : Path, (directory / name).IsChildOf directory ↔ name ≠ "." ∧ name ≠ "..") ∧
      (IsStorable name ↔ StaysStorable
        (completed given.toList (extensionFor contentType given).toList) (extensionFor contentType given)) := by
  obtain ⟨given, known⟩ := isOk_givenName_iff.mpr readable
  have named : resolveName url contentType disposition = .ok (storedName given (extensionFor contentType given)) := by
    rw [resolveName_eq, known]
    rfl
  obtain ⟨filled, whole⟩ := part_of_resolveName named
  refine ⟨given, _, known, named, filled, whole, ?_, ?_⟩
  · intro directory
    exact div_isChildOf filled whole
  · exact isStorable_storedName given _

/-- A name from an address. -/
theorem clip_isStorable : Address.path "https://a.example/clip?v=1".toList = .ok "/clip".toList ∧
    resolveName "https://a.example/clip?v=1" (some "video/mp4") none = .ok "clip.mp4" ∧ IsStorable "clip.mp4" := by
  have path : Address.path "https://a.example/clip?v=1".toList = .ok "/clip".toList := by decide +kernel
  have stored : resolveName "https://a.example/clip?v=1" (some "video/mp4") none = .ok "clip.mp4" := by decide +kernel
  obtain ⟨given, name, known, same, -, -, -, storable⟩ :=
    resolveName_isStorable "https://a.example/clip?v=1" (some "video/mp4") none fun _ => ⟨_, path⟩
  obtain rfl := Except.ok.inj (stored.symm.trans same)
  have clip : givenName "https://a.example/clip?v=1" none = .ok "clip" := by decide +kernel
  obtain rfl := Except.ok.inj (clip.symm.trans known)
  refine ⟨path, stored, storable.mpr ⟨?_, fun _ => ?_⟩⟩
  · intro back
    exact absurd back (by decide +kernel)
  · rw [← head?_sanitize]
    decide +kernel

/-- A blank keeps two points from being dropped, and is dropped itself. -/
theorem blankedPoints_escape :
    resolveName "https://a.example/b.mp4" none (some "attachment; filename*=UTF-8''%20..") = .ok ".." ∧
      ¬ IsStorable ".." ∧ ¬ ((⟨"", ["temp"]⟩ : Path) / "..").IsChildOf ⟨"", ["temp"]⟩ := by
  refine ⟨by decide +kernel, fun storable => storable.noStep.2 rfl, fun child => ?_⟩
  exact ((div_isChildOf (by decide) (by decide)).mp child).2 rfl

end Download

end Montage
