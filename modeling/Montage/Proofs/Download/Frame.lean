import Montage.Proofs.Download.Atomic

/-! # What a download leaves alone

A call that runs alone changes what stands under two names only: the one that it stores its download under, and that
name with an ending of its own, under which the download is written first. The second name is not kept free for it. A
download that a server has given just this name is lost when the other one is written.
-/

namespace Montage.Download

variable {store : Store} {url name : String} {files later made : Files} {deeds : List Deed} {ending : Work Stored}
  {response : Response} {created : List (Path × Except FileFault Nat)}

/-- Every file is kept but the one that stands where a call stores its download. -/
def KeepsFiles (files : Files) (ending : Work Stored) (later : Files) : Prop :=
  ∀ place content, (∀ stored, ending = .done stored → place ≠ stored.path.place) →
    files.node? place = some (.file content) → later.node? place = some (.file content)

/-- What a call may change. -/
structure IsFramed (store : Store) (url : String) (files : Files) (deeds : List Deed) (ending : Work Stored)
    (later : Files) : Prop where
  /-- Every other place stays as it is. -/
  others : ∀ place, (∀ stored, ending = .done stored → place ≠ stored.path.place) →
    (∀ created ∈ creations deeds, place ≠ created.1.place) →
      files.Stays later store.directory.placesOnWay place
  /-- What a call tries to open is its own temporary name, which is not the name of the download. -/
  own : ∀ created ∈ creations deeds, (∀ stored, ending = .done stored → created.1.place ≠ stored.path.place) ∧
    ∃ name response, Finds url deeds name response ∧ created.1 = (store.directory / name).temporary
  /-- Nothing stands any more under a name that was opened. -/
  opened : ∀ path number, (path, .ok number) ∈ creations deeds → later.node? path.place = none
  /-- A name that could not be opened stays as it is. -/
  refused : ∀ path fault, (path, .error fault) ∈ creations deeds →
    files.Stays later store.directory.placesOnWay path.place

/-- A call keeps all other files exactly if no file stands under the temporary name that it opens. -/
theorem IsFramed.keepsFiles_iff (framed : IsFramed store url files deeds ending later) :
    KeepsFiles files ending later ↔ ∀ path number content, (path, .ok number) ∈ creations deeds →
      files.node? path.place ≠ some (.file content) := by
  constructor
  · intro keeps path number content opened stands
    have kept := keeps path.place content (framed.own _ opened).1 stands
    rw [framed.opened path number opened] at kept
    contradiction
  · intro free place content apart stands
    by_cases temporary : ∃ created ∈ creations deeds, place = created.1.place
    · obtain ⟨⟨path, answer⟩, member, rfl⟩ := temporary
      cases answer with
      | ok number => exact absurd stands (free path number content member)
      | error fault => exact (framed.refused path fault member).file_iff.mpr stands
    · exact (framed.others place apart fun created member same => temporary ⟨created, member, same⟩).file_iff.mpr stands

/-- A call that opens nothing changes nothing but directories. -/
theorem IsFramed.of_unopened (none : creations deeds = [])
    (stays : ∀ place, files.Stays later store.directory.placesOnWay place) :
    IsFramed store url files deeds ending later := by
  constructor
  · exact fun place _ _ => stays place
  · rw [none]
    exact fun _ member => absurd member List.not_mem_nil
  · rw [none]
    exact fun _ _ member => absurd member List.not_mem_nil
  · rw [none]
    exact fun _ _ member => absurd member List.not_mem_nil

/-- A call that opens its temporary name, or tries to. -/
theorem IsFramed.of_opened {answer : Except FileFault Nat} (finds : Finds url deeds name response)
    (opens : creations deeds = [((store.directory / name).temporary, answer)])
    (apart : ∀ stored, ending = .done stored → (store.directory / name).temporary.place ≠ stored.path.place)
    (others : ∀ place, (∀ stored, ending = .done stored → place ≠ stored.path.place) →
      place ≠ (store.directory / name).temporary.place → files.Stays later store.directory.placesOnWay place)
    (opened : ∀ number, answer = .ok number → later.node? (store.directory / name).temporary.place = none)
    (refused : ∀ fault, answer = .error fault →
      files.Stays later store.directory.placesOnWay (store.directory / name).temporary.place) :
    IsFramed store url files deeds ending later := by
  constructor
  · intro place free different
    rw [opens, List.forall_mem_singleton] at different
    exact others place free different
  · rw [opens, List.forall_mem_singleton]
    exact ⟨apart, name, response, finds, rfl⟩
  · intro path number member
    rw [opens] at member
    obtain ⟨rfl, same⟩ := Prod.mk.inj (List.mem_singleton.mp member)
    exact opened number same.symm
  · intro path fault member
    rw [opens] at member
    obtain ⟨rfl, same⟩ := Prod.mk.inj (List.mem_singleton.mp member)
    exact refused fault same.symm

theorem isFramed_of_writes (grows : ∀ place, files.Stays made store.directory.placesOnWay place)
    (finds : Finds url deeds name response) (same : creations deeds = created)
    (writes : Writes store (store.directory / name) response made
      (fun size => Stored.mk (store.directory / name) name size false) created ending later) :
    IsFramed store url files deeds ending later := by
  cases writes with
  | unopened => exact .of_unopened same grows
  | refused broken nothing =>
    refine .of_opened finds same (fun stored done => absurd done (broken stored)) (fun place _ _ => grows place) ?_ ?_
    · rintro _ ⟨⟩
    · exact fun _ _ => grows _
  | givenUp broken named loses =>
    refine .of_opened finds same (fun stored done => absurd done (broken stored)) (fun place _ other => ?_) ?_ ?_
    · rw [Files.Stays, loses.others place other]
      exact grows place
    · exact fun _ _ => loses.gone
    · rintro _ ⟨⟩
  | stored named complete limit content gone others =>
    refine .of_opened finds same ?_ (fun place free other => ?_) ?_ ?_
    · rintro _ ⟨rfl⟩
      exact Path.temporary_place_ne named
    · rw [Files.Stays, others place (free _ rfl) other]
      exact grows place
    · exact fun _ _ => gone
    · rintro _ ⟨⟩

theorem isFramed_of_transfer (does : (transfer store url).Does deeds ending) (ended : ending.isEnded = true)
    (leads : Deed.Leads files deeds later) : IsFramed store url files deeds ending later := by
  obtain ⟨made, grows, course⟩ := course_of_transfer does ended leads
  cases course with
  | before broken none => exact .of_unopened none grows
  | writes finds writes => exact isFramed_of_writes grows finds rfl writes
  | reuses finds reuses =>
    obtain ⟨content, found, none, rfl, rfl⟩ := reuses
    exact .of_unopened none grows

/-- A call that runs alone changes nothing but its own two names, whatever it is answered and wherever it is
cancelled. It keeps all other files exactly if no file stands under the temporary name that it opens. -/
theorem transfer_isFramed (does : (transfer store url).Does deeds ending) (ended : ending.isEnded = true)
    (leads : Deed.Leads files deeds later) : IsFramed store url files deeds ending later ∧
      (KeepsFiles files ending later ↔ ∀ path number content, (path, .ok number) ∈ creations deeds →
        files.node? path.place ≠ some (.file content)) :=
  have framed := isFramed_of_transfer does ended leads
  ⟨framed, framed.keepsFiles_iff⟩

/-- The file of another download is kept. -/
theorem neighbour_isFramed : ∃ files deeds later,
    files.content? (Path.ofText "temp" / "a.mp4") = some ⟨#[9]⟩ ∧
    (transfer (.ofSettings {}) "https://a.example/b.mp4").Does deeds
      (.done ⟨Path.ofText "temp" / "b.mp4", "b.mp4", 1, false⟩) ∧
    Deed.Leads files deeds later ∧ IsFramed (.ofSettings {}) "https://a.example/b.mp4" files deeds
      (.done ⟨Path.ofText "temp" / "b.mp4", "b.mp4", 1, false⟩) later ∧
    later.content? (Path.ofText "temp" / "a.mp4") = some ⟨#[9]⟩ := by
  have ends : stored? ((transfer (.ofSettings {}) "https://a.example/b.mp4").played
      (answering { body := [⟨#[1]⟩] } { entries := [({ parts := ["temp"] }, .directory),
        ({ parts := ["temp", "a.mp4"] }, .file ⟨#[9]⟩)] })).2.1 =
          some ⟨Path.ofText "temp" / "b.mp4", "b.mp4", 1, false⟩ := by
    decide +kernel
  obtain ⟨deeds, does, leads⟩ := does_answering ends
  exact ⟨_, deeds, _, by decide +kernel, does, leads, (transfer_isFramed does rfl leads).1, by decide +kernel⟩

/-- A response that names itself like the temporary file of another download. -/
def partNamed : Response where
  headers := [("content-disposition", "attachment; filename=\"b.mp4.part\"")]
  body := [⟨#[1, 2]⟩]

/-- The files when that response was stored. -/
def partFiles : Files :=
  ((transfer (.ofSettings {}) "https://a.example/a.mp4").played (answering partNamed {})).2.2

/-- A download that a server has named like the temporary file of another one is lost when that one is written. -/
theorem partName_lost : ∃ before deeds later,
    (transfer (.ofSettings {}) "https://a.example/a.mp4").Does before
      (.done ⟨Path.ofText "temp" / "b.mp4.part", "b.mp4.part", 2, false⟩) ∧ Deed.Leads {} before partFiles ∧
    (transfer (.ofSettings {}) "https://a.example/b.mp4").Does deeds
      (.done ⟨Path.ofText "temp" / "b.mp4", "b.mp4", 1, false⟩) ∧ Deed.Leads partFiles deeds later ∧
    partFiles.content? (Path.ofText "temp" / "b.mp4.part") = some ⟨#[1, 2]⟩ ∧
    ¬KeepsFiles partFiles (.done ⟨Path.ofText "temp" / "b.mp4", "b.mp4", 1, false⟩) later := by
  have first : stored? ((transfer (.ofSettings {}) "https://a.example/a.mp4").played
      (answering partNamed {})).2.1 = some ⟨Path.ofText "temp" / "b.mp4.part", "b.mp4.part", 2, false⟩ := by
    decide +kernel
  have second : stored? ((transfer (.ofSettings {}) "https://a.example/b.mp4").played
      (answering { body := [⟨#[3]⟩] } partFiles)).2.1 = some ⟨Path.ofText "temp" / "b.mp4", "b.mp4", 1, false⟩ := by
    decide +kernel
  obtain ⟨before, stores, leads⟩ := does_answering first
  obtain ⟨deeds, writes, goes⟩ := does_answering second
  have content : partFiles.content? (Path.ofText "temp" / "b.mp4.part") = some ⟨#[1, 2]⟩ := by decide +kernel
  refine ⟨before, deeds, _, stores, leads, writes, goes, content, fun keeps => ?_⟩
  have kept := keeps _ _ (by rintro _ ⟨rfl⟩; decide) (Files.content?_eq_some_iff.mp content).2
  have lost : (((transfer (.ofSettings {}) "https://a.example/b.mp4").played
      (answering { body := [⟨#[3]⟩] } partFiles)).2.2.node? (Path.ofText "temp" / "b.mp4.part").place).isNone := by
    decide +kernel
  rw [kept] at lost
  exact Bool.false_ne_true lost

end Montage.Download
