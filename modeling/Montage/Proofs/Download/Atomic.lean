import Montage.Proofs.Download.Alone
import Montage.Proofs.Download.Sharing

/-! # Downloads as a whole or not at all

A call that runs alone and stores a download leaves the whole body under its final name, and a call that does not
store one leaves the final name as it was. Either way nothing is left under the temporary name, as soon as the call
has tried to open it. The limit of the store is checked with every piece, so a body without pieces is never checked:
it is stored even where the limit is below zero.
-/

namespace Montage.Download

variable {store : Store} {url : String} {files later made : Files} {deeds : List Deed} {ending : Work Stored}

/-- A call stores its download as a whole or not at all. -/
structure IsAtomic (store : Store) (url : String) (files : Files) (deeds : List Deed) (ending : Work Stored)
    (later : Files) : Prop where
  /-- A download that was not there before is the body of the last response, under the name that it gives. -/
  fresh : ∀ stored, ending = .done stored → stored.reused = false → ∃ response,
    Finds url deeds stored.name response ∧ stored.path = store.directory / stored.name ∧
      response.failure = none ∧ later.content? stored.path = some (joined response.body) ∧
        stored.size = (joined response.body).size ∧ (stored.size ≤ store.limit ∨ response.body = []) ∧
          later.content? stored.path.temporary = none
  /-- A download that was there before stays what it was. -/
  reused : ∀ stored, ending = .done stored → stored.reused = true → ∃ response content,
    Finds url deeds stored.name response ∧ stored.path = store.directory / stored.name ∧
      files.node? stored.path.place = some (.file content) ∧ later.content? stored.path = some content ∧
        stored.size = content.size
  /-- A call that stores nothing leaves the final name alone. -/
  broken : (∀ stored, ending ≠ .done stored) → ∀ name response, Finds url deeds name response →
    files.Stays later store.directory.placesOnWay (store.directory / name).place
  /-- Nothing is left under a name that the call tried to open, which is its own temporary one. -/
  cleared : ∀ created ∈ creations deeds, later.content? created.1 = none ∧ ∃ name response,
    Finds url deeds name response ∧ created.1 = (store.directory / name).temporary

theorem Finds.unique {name other : String} {response answer : Response} (finds : Finds url deeds name response)
    (same : Finds url deeds other answer) : name = other ∧ response = answer := by
  obtain rfl := Option.some.inj (finds.last.symm.trans same.last)
  exact ⟨Except.ok.inj (finds.named.symm.trans same.named), rfl⟩

/-- A call that stores nothing and leaves nothing under its temporary name. -/
theorem IsAtomic.of_broken (broken : ∀ stored, ending ≠ .done stored)
    (stays : ∀ name response, Finds url deeds name response →
      files.Stays later store.directory.placesOnWay (store.directory / name).place)
    (cleared : ∀ created ∈ creations deeds, later.content? created.1 = none ∧ ∃ name response,
      Finds url deeds name response ∧ created.1 = (store.directory / name).temporary) :
    IsAtomic store url files deeds ending later where
  fresh stored done := absurd done (broken stored)
  reused stored done := absurd done (broken stored)
  broken _ := stays
  cleared := cleared

theorem isAtomic_of_writes {name : String} {response : Response} {created : List (Path × Except FileFault Nat)}
    (grows : ∀ place, files.Stays made store.directory.placesOnWay place) (finds : Finds url deeds name response)
    (same : creations deeds = created)
    (writes : Writes store (store.directory / name) response made
      (fun size => Stored.mk (store.directory / name) name size false) created ending later) :
    IsAtomic store url files deeds ending later := by
  cases writes with
  | unopened broken =>
    refine .of_broken broken (fun _ _ _ => grows _) ?_
    rw [same]
    exact fun _ member => absurd member List.not_mem_nil
  | refused broken nothing =>
    refine .of_broken broken (fun _ _ _ => grows _) ?_
    rw [same, List.forall_mem_singleton]
    exact ⟨nothing, name, response, finds, rfl⟩
  | givenUp broken named loses =>
    refine .of_broken broken (fun other answer found => ?_) ?_
    · obtain ⟨rfl, rfl⟩ := finds.unique found
      rw [Files.Stays, loses.others _ (Path.temporary_place_ne named).symm]
      exact grows _
    · rw [same, List.forall_mem_singleton]
      exact ⟨Files.content?_of_gone loses.gone, name, response, finds, rfl⟩
  | stored named complete limit content gone others =>
    constructor
    · rintro _ ⟨rfl⟩ -
      exact ⟨response, finds, rfl, complete, content, rfl, limit, Files.content?_of_gone gone⟩
    · rintro _ ⟨rfl⟩ reused
      contradiction
    · exact fun broken => absurd rfl (broken _)
    · rw [same, List.forall_mem_singleton]
      exact ⟨Files.content?_of_gone gone, name, response, finds, rfl⟩

theorem isAtomic_of_reuses {name : String} {response : Response}
    (grows : ∀ place, files.Stays made store.directory.placesOnWay place) (finds : Finds url deeds name response)
    (reuses : Reuses store name made (creations deeds) ending later) :
    IsAtomic store url files deeds ending later := by
  obtain ⟨content, found, none, rfl, rfl⟩ := reuses
  have stands := Files.find_ok found
  constructor
  · rintro _ ⟨rfl⟩ fresh
    contradiction
  · rintro _ ⟨rfl⟩ -
    refine ⟨response, content, finds, rfl, (grows _).file_iff.mp stands, ?_, rfl⟩
    rw [Files.content?, found]
  · exact fun broken => absurd rfl (broken _)
  · rw [none]
    exact fun _ member => absurd member List.not_mem_nil

/-- Surroundings with some files that answer every request with one response. -/
def answering (response : Response) (files : Files) : World where
  files := files
  exchange _ := .response response
  turn _ := { outcome := .finished 1 }

/-- What a call comes to in surroundings that answer it with one response. -/
theorem does_answering {response : Response} {stored : Stored}
    (ends : stored? ((transfer store url).played (answering response files)).2.1 = some stored) :
    ∃ deeds, (transfer store url).Does deeds (.done stored) ∧
      Deed.Leads files deeds ((transfer store url).played (answering response files)).2.2 :=
  ⟨_, eq_done_of_stored? ends ▸ Work.does_played _ _,
    Work.leads_played (transfer store url) (answering response files)⟩

end Montage.Download
