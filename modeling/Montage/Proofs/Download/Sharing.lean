import Montage.Proofs.Download.Stage
import Mathlib.Data.List.Infix

/-! # Downloads that share a name

Calls whose responses are stored under the same name share its temporary name too. As long as no two of them
write at once, each of them stores its whole body, takes the file that is there, or fails with the fault of
its own response; and a file that a call has ended with stays what it is. Two calls that write at once write
to the same temporary file, and the one that ends first takes it away from the other.
-/

namespace Montage.Download

variable {store : Store} {name : String} {response : Response} {made : Files}
  {answers : Nat → (step : Step) → step.Answer → Prop} {start crew next : Crew Stored}
  {responses : Nat → Response} {urls : Nat → String} {number : Nat}

/-- What a turn of one call comes to. -/
theorem Stage.turn (stage : Stage store name (answers number) response crew.files (crew.works number))
    (can : crew.files.CanStore store.directory (store.directory / name))
    (turn : crew.Turn answers number next) :
    Outcome store name (answers number) response crew.files (crew.works number) (next.works number)
      next.files := by
  cases turn with
  | starts goes =>
    rw [Crew.works_afterTurn_self]
    exact stage.starts can goes
  | resumes waiting waits comes goes =>
    rw [Crew.works_afterTurn_self]
    exact stage.resumes can waiting waits comes goes

/-- At most one of the calls is writing. -/
def IsAlone (store : Store) (name : String) (crew : Crew Stored) : Prop :=
  ∀ one other, IsWriting store name (crew.works one) → IsWriting store name (crew.works other) → one = other

/-- A complete content: it was there at first, or it is the whole body of a response without a fault. -/
def IsComplete (store : Store) (responses : Nat → Response) (start : Files) (path : Path)
    (content : ByteArray) : Prop :=
  start.node? path.place = some (.file content) ∨
    ∃ number, responseFault? store (responses number) = none ∧ content = joined (responses number).body

/-- Every call is at some stage, and what is stored is complete. -/
structure IsSound (store : Store) (name : String) (answers : Nat → (step : Step) → step.Answer → Prop)
    (responses : Nat → Response) (start : Files) (crew : Crew Stored) : Prop where
  can : crew.files.CanStore store.directory (store.directory / name)
  stages : ∀ number, Stage store name (answers number) (responses number) crew.files (crew.works number)
  complete : ∀ content, crew.files.node? (store.directory / name).place = some (.file content) →
    IsComplete store responses start (store.directory / name) content

/-- A turn of one call leaves the others where they are, and leaves alone what is stored. -/
theorem IsSound.turn (sound : IsSound store name answers responses start.files crew)
    (alone : IsAlone store name crew) (still : IsAlone store name next)
    (turn : crew.Turn answers number next) : IsSound store name answers responses start.files next ∧
      ∀ content, crew.files.node? (store.directory / name).place = some (.file content) →
        next.files.node? (store.directory / name).place = some (.file content) := by
  have outcome := (sound.stages number).turn sound.can turn
  refine ⟨⟨outcome.can, fun other => ?_, fun content stands => ?_⟩, fun content stands => ?_⟩
  · by_cases same : other = number
    · rw [same]
      exact outcome.stage
    · rw [turn.works_of_ne same]
      have stage := sound.stages other
      rcases outcome.alone with files | ⟨empty, busy⟩
      · rw [files]
        exact stage
      · -- The other call is not writing, or both would be, before the turn or after it.
        refine stage.of_idle empty fun writing => ?_
        rcases busy with busy | busy
        · exact absurd (alone other number writing busy) same
        · exact absurd (still other number (by rwa [turn.works_of_ne same]) busy) same
  · rcases outcome.complete content stands with old | ⟨fine, body⟩
    · exact sound.complete content old
    · exact .inr ⟨number, fine, body⟩
  · rcases outcome.alone with files | ⟨empty, -⟩
    · rwa [files]
    · rw [empty] at stands
      contradiction

/-- After the first turn every call is at some stage. -/
theorem isSound_first (begins : ∀ number, start.works number = transfer store (urls number))
    (finds : ∀ number, (seek (urls number)).Yields (answers number) (name, responses number))
    (makes : start.files.makeDirectories store.directory = .ok made)
    (can : made.CanStore store.directory (store.directory / name))
    (turn : start.Turn answers number next) :
    IsSound store name answers responses start.files next := by
  have outcome : Outcome store name (answers number) (responses number) made (start.works number)
      (next.works number) next.files := by
    cases turn with
    | starts goes =>
      rw [Crew.works_afterTurn_self]
      rw [begins number] at goes
      exact outcome_begins makes can (finds number) goes
    | resumes waiting waits =>
      rw [begins number, transfer_eq] at waiting
      cases waiting
      contradiction
  refine ⟨outcome.can, fun other => ?_, fun content stands => ?_⟩
  · by_cases same : other = number
    · rw [same]
      exact outcome.stage
    · rw [turn.works_of_ne same, begins other]
      exact .fresh (finds other)
  · rcases outcome.complete content stands with old | ⟨fine, body⟩
    · exact .inl (Files.file_of_makeParts makes old)
    · exact .inr ⟨number, fine, body⟩

/-- How a call stands, and what it has come to for good. -/
inductive Fate (store : Store) (name : String) (responses : Nat → Response) (start : Files) (number : Nat)
    (later : Files) : Work Stored → Prop
  /-- The call has not begun. -/
  | fresh {url : String} : Fate store name responses start number later (transfer store url)
  /-- The call waits for its server. -/
  | waits {work : Work Stored} (waits : work.waits) : Fate store name responses start number later work
  | done {stored : Stored} {content : ByteArray} (path : stored.path = store.directory / name)
      (complete : IsComplete store responses start stored.path content) (size : stored.size = content.size)
      (holds : later.content? stored.path = some content) :
      Fate store name responses start number later (.done stored)
  | failed {fault : JobFault} (own : responseFault? store (responses number) = some fault)
      (coded : IsDownloadFault fault) : Fate store name responses start number later (.failed fault)
  | cancelled : Fate store name responses start number later .cancelled

/-- What is stored stays what it is, whatever turns the calls take. -/
theorem IsSound.keeps (sound : IsSound store name answers responses start.files crew)
    (alone : IsAlone store name crew) (turns : crew.Turns answers (IsAlone store name) next) :
    IsSound store name answers responses start.files next ∧
      ∀ content, crew.files.node? (store.directory / name).place = some (.file content) →
        next.files.node? (store.directory / name).place = some (.file content) := by
  refine (turns.keeps (fun next => IsSound store name answers responses start.files next ∧
    ∀ content, crew.files.node? (store.directory / name).place = some (.file content) →
      next.files.node? (store.directory / name).place = some (.file content)) alone ?_ ?_).2
  · exact ⟨sound, fun _ => id⟩
  · intro between after number alone still holds turn
    obtain ⟨sound, stands⟩ := holds.1.turn alone still turn
    exact ⟨sound, fun content here => stands content (holds.2 content here)⟩

theorem isAlone_fresh (begins : ∀ number, start.works number = transfer store (urls number)) :
    IsAlone store name start := by
  rintro one other ⟨response, number, size, pieces, same⟩
  rw [begins, transfer_eq, storing_eq] at same
  cases same

/-- Calls are fresh, or each of them is at some stage. -/
theorem isSound_of_turns (begins : ∀ number, start.works number = transfer store (urls number))
    (finds : ∀ number, (seek (urls number)).Yields (answers number) (name, responses number))
    (makes : start.files.makeDirectories store.directory = .ok made)
    (can : made.CanStore store.directory (store.directory / name))
    (turns : start.Turns answers (IsAlone store name) crew) : IsAlone store name crew ∧
      (crew = start ∨ IsSound store name answers responses start.files crew) := by
  refine turns.keeps (fun crew => crew = start ∨ IsSound store name answers responses start.files crew)
    (isAlone_fresh begins) ?_ ?_
  · exact .inl rfl
  · intro between after number alone still holds turn
    rcases holds with rfl | sound
    · exact .inr (isSound_first begins finds makes can turn)
    · exact .inr (sound.turn alone still turn).1

/-- Any number of downloads whose responses are stored under one name take turns in any order, and no two of
them write at once. Then each of them, when it has begun, waits for its server, was cancelled, has failed with
the coded fault of its own response, or has ended with a path that holds one complete content from then on. -/
theorem transfers_share {later : Crew Stored}
    (begins : ∀ number, start.works number = transfer store (urls number))
    (finds : ∀ number, (seek (urls number)).Yields (answers number) (name, responses number))
    (declares : ∀ number fault, checkDeclared store (responses number) = .failed fault → IsDownloadFault fault)
    (makes : start.files.makeDirectories store.directory = .ok made)
    (can : made.CanStore store.directory (store.directory / name))
    (turns : start.Turns answers (IsAlone store name) crew)
    (more : crew.Turns answers (IsAlone store name) later) (number : Nat) :
    Fate store name responses start.files number later.files (crew.works number) := by
  obtain ⟨alone, rfl | sound⟩ := isSound_of_turns begins finds makes can turns
  · rw [begins number]
    exact .fresh
  · obtain ⟨sound', stays⟩ := sound.keeps alone more
    have still := turns.still number
    rw [begins number] at still
    have stage := sound.stages number
    generalize crew.works number = work at still stage
    cases stage with
    | fresh => exact .fresh
    | seeking finds =>
      rcases still with same | still
      · rw [same]
        exact .fresh
      · cases finds with
        | done | tells => contradiction
        | cancelled => exact .cancelled
        | waits waits => exact .waits (Option.isSome_iff_ne_none.mpr waits)
    | storing => exact .waits (waits_storing ..)
    | done path size stands =>
      have complete := sound.complete _ stands
      have holds := Files.content?_of_file sound'.can.located (stays _ stands)
      rw [← path] at complete holds
      exact .done path complete size holds
    | failed own => exact .failed own (isDownloadFault_of_responseFault? (declares number) own)
    | cancelled => exact .cancelled

/-- The address of two downloads. -/
def rivalAddress : String := "https://a.example/b.mp4"

/-- What the server answers: two octets to the first download, and one to the second. -/
def rivalResponse : Nat → Response
  | 0 => { body := [⟨#[0]⟩, ⟨#[0]⟩] }
  | _ => { body := [⟨#[1]⟩] }

/-- The surroundings of one of the downloads. -/
def rivalWorld (number : Nat) : World where
  exchange _ := .response (rivalResponse number)
  turn _ := { outcome := .finished 1 }

/-- Downloads from one address that have not begun. -/
def rivals : Crew Stored where
  files := {}
  works _ := transfer (.ofSettings {}) rivalAddress

theorem rivals_yield (number : Nat) :
    (seek rivalAddress).Yields (rivalWorld number).Answers ("b.mp4", rivalResponse number) := by
  have first : Destination.checkFirst rivalAddress.toList = .ok () := by decide +kernel
  have origin : Address.checkOrigin rivalAddress = .ok () := by decide +kernel
  have named : resolveName rivalAddress none none = .ok "b.mp4" := by decide +kernel
  have answered : ∀ answer, (rivalWorld number).Answers (.request rivalAddress []) answer →
      answer = .arrived (.response (rivalResponse number)) ∨ answer = .cancelled := by
    rintro answer ⟨later, comes⟩
    cases comes
    exact .inl rfl
  cases number with
  | zero | succ => exact seek_yields first answered rfl rfl origin rfl rfl named

theorem rivals_fine (number : Nat) : responseFault? (.ofSettings {}) (rivalResponse number) = none := by
  cases number with
  | zero => exact show responseFault? (.ofSettings {}) (rivalResponse 0) = none by decide +kernel
  | succ => exact show responseFault? (.ofSettings {}) (rivalResponse 1) = none by decide +kernel

/-- The download that a work has ended with. -/
def stored? : Work Stored → Option Stored
  | .done stored => some stored
  | _ => none

theorem eq_done_of_stored? {work : Work Stored} {stored : Stored} (ends : stored? work = some stored) :
    work = .done stored := by
  cases work with
  | done => exact congrArg Work.done (Option.some.inj ends)
  | failed | cancelled | ask => contradiction

/-- The fault that a work has ended with. -/
def failed? : Work Stored → Option JobFault
  | .failed fault => some fault
  | _ => none

theorem eq_failed_of_failed? {work : Work Stored} {fault : JobFault} (ends : failed? work = some fault) :
    work = .failed fault := by
  cases work with
  | failed => exact congrArg Work.failed (Option.some.inj ends)
  | done | cancelled | ask => contradiction

/-- Whether a work waits for a piece of a response. -/
def isReceiving : Work Stored → Bool
  | .ask .receive _ => true
  | _ => false

theorem isReceiving_of_isWriting {work : Work Stored} (writing : IsWriting store name work) :
    isReceiving work = true := by
  obtain ⟨response, number, size, pieces, rfl⟩ := writing
  rw [storing_eq]
  rfl

theorem rivals_isAlone {numbers : List Nat} (two : ∀ number ∈ numbers, number = 0 ∨ number = 1)
    (one : (isReceiving ((rivals.played rivalWorld numbers).works 0) &&
      isReceiving ((rivals.played rivalWorld numbers).works 1)) = false) :
    IsAlone store name (rivals.played rivalWorld numbers) := by
  have known : ∀ number, IsWriting store name ((rivals.played rivalWorld numbers).works number) →
      number = 0 ∨ number = 1 := by
    intro number writing
    by_contra other
    have apart : number ∉ numbers := fun member => other (two number member)
    rw [Crew.works_played apart] at writing
    exact absurd (isReceiving_of_isWriting writing) Bool.false_ne_true
  intro first second here there
  have receiving := isReceiving_of_isWriting here
  have other := isReceiving_of_isWriting there
  rcases known first here with rfl | rfl <;> rcases known second there with rfl | rfl
  · rfl
  · rw [receiving, other] at one
    contradiction
  · rw [receiving, other] at one
    contradiction
  · rfl

/-- Both downloads ask for a response, but the second one gets it when the first has ended. -/
theorem rivals_share : ∃ crew,
    rivals.Turns (fun number => (rivalWorld number).Answers) (IsAlone (.ofSettings {}) "b.mp4") crew ∧
      (∀ number, Fate (.ofSettings {}) "b.mp4" rivalResponse rivals.files number crew.files
        (crew.works number)) ∧
      (stored? (crew.works 0)).map (·.reused) = some false ∧
      (stored? (crew.works 1)).map (·.reused) = some true := by
  have alone : ∀ front ∈ [0, 1, 0, 0, 0, 0, 1].inits, (∀ number ∈ front, number = 0 ∨ number = 1) ∧
      (isReceiving ((rivals.played rivalWorld front).works 0) &&
        isReceiving ((rivals.played rivalWorld front).works 1)) = false := by
    decide +kernel
  have turns : rivals.Turns (fun number => (rivalWorld number).Answers) (IsAlone (.ofSettings {}) "b.mp4")
      (rivals.played rivalWorld [0, 1, 0, 0, 0, 0, 1]) := by
    refine Crew.turns_played fun front shorter => ?_
    obtain ⟨two, one⟩ := alone front ((List.mem_inits _ _).mpr shorter)
    exact rivals_isAlone two one
  have ends : (stored? ((rivals.played rivalWorld [0, 1, 0, 0, 0, 0, 1]).works 0)).map (·.reused) = some false ∧
      (stored? ((rivals.played rivalWorld [0, 1, 0, 0, 0, 0, 1]).works 1)).map (·.reused) = some true := by
    decide +kernel
  refine ⟨_, turns, fun number => ?_, ends⟩
  have declares : ∀ number fault, checkDeclared (.ofSettings {}) (rivalResponse number) = .failed fault →
      IsDownloadFault fault := by
    intro number fault refused
    cases number with
    | zero | succ => cases refused
  refine transfers_share (fun _ => rfl) rivals_yield declares rfl ?_ turns .rest number
  constructor
  · rfl
  · rfl
  · rfl
  · rfl
  · rfl
  · decide
  · decide

/-- When both of them write at once, the second download writes over the file that the first one has ended
with, and then it fails because its temporary file is not there any more. -/
theorem rivals_clash : ∃ crew stored message content,
    rivals.Turns (fun number => (rivalWorld number).Answers) (fun _ => True) crew ∧
      (∀ number, (seek rivalAddress).Yields (rivalWorld number).Answers ("b.mp4", rivalResponse number)) ∧
      (∀ number, responseFault? (.ofSettings {}) (rivalResponse number) = none) ∧
      crew.works 0 = .done stored ∧ crew.files.content? stored.path = some content ∧
      ¬IsComplete (.ofSettings {}) rivalResponse rivals.files stored.path content ∧
      crew.works 1 = .failed (.plain .missingFile message) := by
  obtain ⟨first, second, mixed⟩ :
      stored? ((rivals.played rivalWorld [0, 1, 0, 1, 0, 0, 0, 1, 1]).works 0) =
          some ⟨Path.ofText "temp" / "b.mp4", "b.mp4", 2, false⟩ ∧
        failed? ((rivals.played rivalWorld [0, 1, 0, 1, 0, 0, 0, 1, 1]).works 1) =
          some (.plain .missingFile
            "[Errno 2] No such file or directory: 'temp/b.mp4.part' -> 'temp/b.mp4'") ∧
        (rivals.played rivalWorld [0, 1, 0, 1, 0, 0, 0, 1, 1]).files.content?
          (Path.ofText "temp" / "b.mp4") = some ⟨#[1, 0]⟩ := by
    decide +kernel
  have clash : ¬IsComplete (.ofSettings {}) rivalResponse rivals.files (Path.ofText "temp" / "b.mp4")
      ⟨#[1, 0]⟩ := by
    rintro (there | ⟨number, -, whole⟩)
    · have empty : rivals.files.node? (Path.ofText "temp" / "b.mp4").place = none := by rfl
      rw [empty] at there
      cases there
    · cases number with
      | zero => exact absurd whole (by decide)
      | succ =>
        have other : (⟨#[1, 0]⟩ : ByteArray) ≠ joined (rivalResponse 1).body := by decide
        exact other whole
  exact ⟨_, _, _, _, Crew.turns_played fun _ _ => trivial, rivals_yield, rivals_fine,
    eq_done_of_stored? first, mixed, clash, eq_failed_of_failed? second⟩

end Montage.Download
