import Montage.Processing.Order
import Montage.Proofs.Assets.Confinement
import Montage.Proofs.Composition.Lookup
import Montage.Proofs.Job.Record
import Montage.Proofs.Job.Turn

/-! # Scenes that cannot be composed

A composing job looks up its assets before it does anything else. A job of which an asset is refused costs
nothing: it tells that it started and why it ends, and leaves its surroundings as they are.
-/

namespace Montage

/-- The data of the events that tell of a refused asset. -/
def AssetFault.codeData (fault : AssetFault) : Option Json :=
  fault.code?.map fun code => .obj [("code", .str code)]

/-- The code of a refused asset goes with the fault of its job. -/
theorem AssetFault.toJob_data (fault : AssetFault) : fault.toJob.data = fault.codeData := by
  cases fault <;> rfl

namespace Workshop

variable {settings : Settings} {job : ComposeJob} {id : String} {workshop : Workshop} {number : Nat}
  {record : Job} {fault : AssetFault}

/-- Nothing happens before the assets of a composing job are looked up. -/
theorem advance_compose {service : JobService} {world : World}
    (refused : Composition.compile (AssetLibrary.ofSettings settings world.files).resolver settings
      job.scene job.kind = .error (.asset fault)) :
    ((Order.compose job).work settings id).advance (answer? number) (service, world) =
      (.failed fault.toJob, service, world) := by
  simp only [Order.work, Processing.compose, bind, Work.bind, Work.clock, Work.files, Work.perform,
    Work.advance, answer?, World.answer?, Option.map_some, refused, Work.ofExcept]
  rfl

/-- What a workshop is after the turn of a job whose asset was refused: the surroundings are what they were,
so nothing was downloaded, no engine was called and no file was changed, and the job has started, told the
fault with its code, and ended with it. -/
structure FailsFast (workshop later : Workshop) (number : Nat) (record : Job) (fault : AssetFault) :
    Prop where
  world : later.world = workshop.world
  work : later.works = workshop.works.set number (.failed fault.toJob)
  task : later.service.stage number = .ended
  job : ∃ after, later.service.registry.records[number]? = some after ∧ after.state = .failed ∧
    after.result = record.result ∧ after.error = some fault.toJob.label ∧
    after.stream.accepted = record.stream.accepted ++
      [workshop.world.now.event .processing "Job started" none,
        workshop.world.now.event .error s!"Failed: {fault.toJob.message}" fault.codeData,
        workshop.world.now.event .failed fault.toJob.label fault.codeData] ∧
    after.stream.terminal = some (workshop.world.now.event .failed fault.toJob.label fault.codeData)

/-- A composing job fails in the turn in which it starts if one of its assets is refused. -/
theorem visit_compose (holds : workshop.service.Holds number {} record)
    (going : record.stream.terminal = none)
    (work : workshop.works[number]? = some ((Order.compose job).work settings id))
    (refused : Composition.compile (AssetLibrary.ofSettings settings workshop.world.files).resolver settings
      job.scene job.kind = .error (.asset fault)) :
    FailsFast workshop (workshop.visit number) number record fault := by
  have started : (workshop.service.start workshop.world.now number).Holds number
      { stage := .started } (record.start workshop.world.now) := by
    rw [JobService.start, if_pos holds.stage, holds.isStopping, if_neg Bool.false_ne_true]
    exact (holds.setJob _).setTask _
  have visited : workshop.visit number =
      { service := (workshop.service.start workshop.world.now number).fail workshop.world.now number
          fault.toJob
        works := workshop.works.set number (.failed fault.toJob)
        world := workshop.world } := by
    unfold visit
    simp only [started.stage, work, started.isStopping, proceed, advance_compose refused, settle]
    rfl
  have opened : (record.start workshop.world.now).stream.terminal = none := Stream.publish_terminal going _
  have ended := started.endTask rfl fun job => job.failWith workshop.world.now fault.toJob
  rw [visited]
  refine ⟨rfl, rfl, ended.stage, _, ended.job, rfl, rfl, rfl, ?_, ?_⟩
  · rw [Job.failWith_accepted opened, Job.start_accepted going, List.append_assoc, AssetFault.toJob_data]
    rfl
  · rw [← AssetFault.toJob_data]
    exact Stream.publish_terminal (Job.tell_open opened rfl _ _) _

end Workshop

namespace Processing

/-- How the assets of a composing job decide what becomes of it, with some settings and files. -/
structure AssetsDecide (settings : Settings) (files : Files) (job : ComposeJob) : Prop where
  /-- A fault of an asset ends composing exactly if it is that of the first asset that is refused. -/
  first : ∀ fault, Composition.compile (AssetLibrary.ofSettings settings files).resolver settings
      job.scene job.kind = .error (.asset fault) ↔
    AssetRequest.FirstFault (AssetLibrary.ofSettings settings files).resolver
      (job.scene.requests settings) fault
  /-- There is such a fault exactly if some asset is refused. -/
  any : (∃ fault, Composition.compile (AssetLibrary.ofSettings settings files).resolver settings
      job.scene job.kind = .error (.asset fault)) ↔
    ∃ request ∈ job.scene.requests settings, ∃ fault,
      request.lookup (AssetLibrary.ofSettings settings files).resolver = .error fault
  /-- An asset whose paths can be followed is refused exactly if its names do not pass or there is no file. -/
  unresolved : ∀ request ∈ job.scene.requests settings,
    request.IsReachable (AssetLibrary.ofSettings settings files) →
      ((∃ fault, request.lookup (AssetLibrary.ofSettings settings files).resolver = .error fault) ↔
        ¬request.Resolves (AssetLibrary.ofSettings settings files))
  /-- The fault has a code unless it is that of a path too long to be followed. -/
  coded : ∀ fault, AssetRequest.FirstFault (AssetLibrary.ofSettings settings files).resolver
      (job.scene.requests settings) fault →
    (fault.code? = none ↔ ∃ text, fault = .unreachable (.tooLong text))
  /-- A job with such a scene that starts with these files costs nothing, and ends with the fault. -/
  fails : ∀ (workshop : Workshop) (number : Nat) (id : String) (record : Job) (fault : AssetFault),
    workshop.world.files = files → workshop.service.Holds number {} record →
    record.stream.terminal = none →
    workshop.works[number]? = some ((Order.compose job).work settings id) →
    Composition.compile (AssetLibrary.ofSettings settings files).resolver settings job.scene job.kind =
      .error (.asset fault) →
    Workshop.FailsFast workshop (workshop.visit number) number record fault

/-- Whatever a scene asks for and whatever files there are, the first asset that is refused ends composing
before anything else is done. -/
theorem assets_decide (settings : Settings) (files : Files) (job : ComposeJob) :
    AssetsDecide settings files job where
  first fault := (Composition.compile_eq_asset_error _).trans Composition.resolveAssets_eq_error
  any := by
    rw [← Composition.exists_firstFault]
    exact exists_congr fun _ =>
      (Composition.compile_eq_asset_error _).trans Composition.resolveAssets_eq_error
  unresolved request _ reachable := AssetRequest.refused_iff reachable
  coded fault := by
    rintro ⟨_, request, _, -, -, refused⟩
    exact AssetRequest.code?_eq_none refused
  fails workshop number id record fault := by
    rintro rfl holds going work refused
    exact Workshop.visit_compose holds going work refused

/-- A shelf of two stickers. -/
def twoStickers : Files where
  entries := [(⟨"", ["assets"]⟩, .directory), (⟨"", ["assets", "stickers"]⟩, .directory),
    (⟨"", ["assets", "stickers", "star.png"]⟩, .file ByteArray.empty),
    (⟨"", ["assets", "stickers", "moon.webp"]⟩, .file ByteArray.empty)]

/-- A job with stickers of some names. -/
def stickerJob (names : List String) : ComposeJob where
  scene := { stickers := names.map fun name => { name := name } }
  kind := .image
  url := "https://cdn.example.com/night.png"

/-- A workshop beside that shelf to which a job was submitted. -/
def workshopOf (job : ComposeJob) : Workshop :=
  let world : World :=
    { files := twoStickers, exchange := fun _ => .response {}, turn := fun _ => { outcome := .finished 1 } }
  (({ world := world } : Workshop).order {} (.compose job)).1

/-- A job that was submitted is queued, and has told nothing else. -/
theorem workshopOf_holds (job : ComposeJob) : ∃ record, (workshopOf job).service.Holds 0 {} record ∧
    record.stream.terminal = none ∧
    record.stream.accepted.map (fun event => (event.phase, event.data)) = [(.queue, none)] ∧
    (workshopOf job).works[0]? = some ((Order.compose job).work {} "job-1") :=
  ⟨_, ⟨rfl, rfl⟩, rfl, rfl, rfl⟩

/-- Of a star, a sun and a name that does not pass, the star is found, and the job fails for the sun before
the name is looked at. -/
theorem sun_decides :
    ∃ record, (workshopOf (stickerJob ["star", "sun", "no star"])).service.Holds 0 {} record ∧
      record.stream.terminal = none ∧
      Composition.compile (AssetLibrary.ofSettings {} twoStickers).resolver {}
        (stickerJob ["star", "sun", "no star"]).scene .image = .error (.asset (.missingSticker "sun")) ∧
      (AssetFault.missingSticker "sun").code? = some "MISSING_ASSET" ∧
      Workshop.FailsFast (workshopOf (stickerJob ["star", "sun", "no star"]))
        ((workshopOf (stickerJob ["star", "sun", "no star"])).visit 0) 0 record (.missingSticker "sun") := by
  obtain ⟨record, holds, going, -, work⟩ := workshopOf_holds (stickerJob ["star", "sun", "no star"])
  have decides := assets_decide {} twoStickers (stickerJob ["star", "sun", "no star"])
  have found : (AssetRequest.sticker "star").lookup (AssetLibrary.ofSettings {} twoStickers).resolver =
      .ok "assets/stickers/star.png" := by decide +kernel
  have refused : (AssetRequest.sticker "sun").lookup (AssetLibrary.ofSettings {} twoStickers).resolver =
      .error (.missingSticker "sun") := by decide +kernel
  have fails := (decides.first (.missingSticker "sun")).mpr
    ⟨[.sticker "star"], .sticker "sun", [.sticker "no star"], rfl,
      List.forall_mem_singleton.mpr ⟨_, found⟩, refused⟩
  exact ⟨record, holds, going, fails, rfl, decides.fails _ 0 "job-1" record _ rfl holds going work fails⟩

/-- A name of one letter, again and again. -/
def monotone (count : Nat) : String := String.ofList (List.replicate count 'a')

theorem utf8ByteSize_monotone (count : Nat) : (monotone count).utf8ByteSize = count := by
  rw [monotone, AssetName.utf8ByteSize_replicate]
  exact Nat.mul_one count

theorem isValid_monotone {count : Nat} (some : count ≠ 0) : AssetName.isValid (monotone count) = true :=
  AssetName.isValid_iff.mpr (.inl (AssetName.isProper_replicate some (by decide)))

/-- A job that asks for a sticker whose name passes and is too long for the name of a file does not end with
the fault of a missing asset, and tells no code. -/
theorem uncoded_of_long {name : String} (passes : AssetName.isValid name = true)
    (long : Files.nameLimit < (name ++ ".webp").utf8ByteSize) :
    ∃ text, Composition.compile (AssetLibrary.ofSettings {} twoStickers).resolver {}
        (stickerJob [name]).scene .image = .error (.asset (.unreachable (.tooLong text))) ∧
      ∃ after, ((workshopOf (stickerJob [name])).visit 0).service.registry.records[0]? = some after ∧
        after.stream.accepted.map (fun event => (event.phase, event.data)) =
          [(.queue, none), (.processing, none), (.error, none), (.failed, none)] := by
  have there : twoStickers.find (AssetLibrary.ofSettings {} twoStickers).stickersDir = .ok .directory := by
    rw [show (AssetLibrary.ofSettings {} twoStickers).stickersDir = ⟨"", ["assets", "stickers"]⟩ by decide]
    rfl
  have refused := AssetLibrary.sticker_of_long there passes long
  have first : AssetRequest.FirstFault (AssetLibrary.ofSettings {} twoStickers).resolver
      ((stickerJob [name]).scene.requests {}) _ := ⟨[], .sticker name, [], rfl, List.forall_mem_nil _, refused⟩
  have fails := (Composition.compile_eq_asset_error .image).mpr (Composition.resolveAssets_eq_error.mpr first)
  obtain ⟨record, holds, going, queued, work⟩ := workshopOf_holds (stickerJob [name])
  have failed := Workshop.visit_compose holds going work fails
  obtain ⟨after, here, -, -, -, told, -⟩ := failed.job
  refine ⟨_, fails, after, here, ?_⟩
  rw [told, List.map_append, queued]
  rfl

/-- No file has a name as long as that of a sticker, and yet the job that asks for it ends with an error that
has no code. -/
theorem monotone_uncoded :
    AssetName.isValid (monotone 252) = true ∧
    (∀ entry ∈ twoStickers.entries, entry.1.name.utf8ByteSize < (monotone 252).utf8ByteSize) ∧
    ∃ text, Composition.compile (AssetLibrary.ofSettings {} twoStickers).resolver {}
        (stickerJob [monotone 252]).scene .image = .error (.asset (.unreachable (.tooLong text))) ∧
      ∃ after, ((workshopOf (stickerJob [monotone 252])).visit 0).service.registry.records[0]? = some after ∧
        after.stream.accepted.map (fun event => (event.phase, event.data)) =
          [(.queue, none), (.processing, none), (.error, none), (.failed, none)] := by
  have passes : AssetName.isValid (monotone 252) = true := isValid_monotone (by decide)
  have long : Files.nameLimit < (monotone 252 ++ ".webp").utf8ByteSize := by
    rw [String.utf8ByteSize_append, utf8ByteSize_monotone]
    decide
  have short : ∀ entry ∈ twoStickers.entries, entry.1.name.utf8ByteSize < 252 := by decide
  refine ⟨passes, ?_, uncoded_of_long passes long⟩
  rwa [utf8ByteSize_monotone]

end Processing

end Montage
