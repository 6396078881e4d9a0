import Montage.Download.Transfer
import Montage.Proofs.Files.Storing
import Montage.Proofs.Work.Turn

/-! # The stages of a download

A download makes the directory, seeks its response and stores it. While it stores, it waits before every
piece of the body and before the end, with a part of the body under the temporary name. What one turn of it
comes to is decided by its own response and by the file that it finds, as long as nobody else writes.
-/

namespace Montage.Download

variable {store : Store} {name url : String} {response : Response} {files later made : Files}
  {rest : Work Stored} {expected : (step : Step) → step.Answer → Prop}

/-- The fault of a body of which some octets have arrived. -/
def bodyFault? (store : Store) (failure : Option String) (size : Nat) : List ByteArray → Option JobFault
  | [] => failure.map fun reason => .service (.ofMessage .download ("Download failed: " ++ reason))
  | piece :: rest =>
    if store.limit < (size + piece.size : Nat) then
      some (.service (.ofMessage .download ("Media too large: exceeds " ++ store.limitText)))
    else bodyFault? store failure (size + piece.size) rest

/-- The fault of a response, whatever else goes on. -/
def responseFault? (store : Store) (response : Response) : Option JobFault :=
  match checkDeclared store response with
  | .failed fault => some fault
  | _ => bodyFault? store response.failure 0 response.body

/-- A fault with the code of downloads. -/
def IsDownloadFault (fault : JobFault) : Prop := ∃ message, fault = .service (.ofMessage .download message)

theorem not_isDownloadFault_plain (kind : PlainKind) (message : String) : ¬ IsDownloadFault (.plain kind message) := by
  rintro ⟨other, same⟩
  cases same

theorem isDownloadFault_of_bodyFault? {failure : Option String} {size : Nat} {pieces : List ByteArray}
    {fault : JobFault} (failing : bodyFault? store failure size pieces = some fault) : IsDownloadFault fault := by
  induction pieces generalizing size with
  | nil =>
    obtain ⟨reason, -, same⟩ := Option.map_eq_some_iff.mp failing
    exact ⟨_, same.symm⟩
  | cons piece rest ih =>
    rw [bodyFault?] at failing
    split at failing
    · exact ⟨_, (Option.some.inj failing).symm⟩
    · exact ih failing

theorem isDownloadFault_of_responseFault? {fault : JobFault}
    (declares : ∀ fault, checkDeclared store response = .failed fault → IsDownloadFault fault)
    (failing : responseFault? store response = some fault) : IsDownloadFault fault := by
  unfold responseFault? at failing
  split at failing
  · next refused => exact declares fault (Option.some.inj failing ▸ refused)
  · exact isDownloadFault_of_bodyFault? failing

/-- The octets of a body in one piece. -/
def joined (pieces : List ByteArray) : ByteArray := pieces.foldr (· ++ ·) .empty

/-- Whether a work has succeeded or failed before it does anything. -/
def IsDecided {α : Type} (work : Work α) : Prop :=
  (∃ value, work = .done value) ∨ ∃ fault, work = .failed fault

theorem IsDecided.bind {α β : Type} {work : Work α} {next : α → Work β} (first : IsDecided work)
    (second : ∀ value, IsDecided (next value)) : IsDecided (work.bind next) := by
  rcases first with ⟨value, rfl⟩ | ⟨fault, rfl⟩
  · exact second value
  · exact .inr ⟨fault, rfl⟩

theorem IsDecided.ofExcept {ε α : Type} (toFault : ε → JobFault) (result : Except ε α) :
    IsDecided (Work.ofExcept toFault result) := by
  cases result with
  | ok value => exact .inl ⟨value, rfl⟩
  | error fault => exact .inr ⟨_, rfl⟩

theorem checkDeclared_isDecided (store : Store) (response : Response) :
    IsDecided (checkDeclared store response) := by
  have declared : IsDecided (declaredSize response) := by
    unfold declaredSize
    split
    · split
      · exact .bind (.ofExcept _ _) fun n => .inl ⟨_, rfl⟩
      · exact .inl ⟨_, rfl⟩
    · exact .inl ⟨_, rfl⟩
  refine declared.bind fun size => ?_
  cases size with
  | none => exact .inl ⟨_, rfl⟩
  | some size =>
    dsimp only
    split
    · exact .bind (.ofExcept _ _) fun text => .inr ⟨_, rfl⟩
    · exact .inl ⟨_, rfl⟩

/-- A download before its response is stored: the name and the response that an address leads to. -/
def seek (url : String) : Work (String × Response) := do
  tell s!"Starting download from URL: {url}"
  Work.ofExcept DestinationFault.toJob (Destination.checkFirst url.toList)
  let response ← request url (redirectLimit + 1) []
  if response.isSuccess then
    let name ← Work.ofExcept AddressFault.toJob
      (resolveName url (response.header? "content-type") (response.header? "content-disposition"))
    tell s!"Fetched media metadata: {name}"
    return (name, response)
  else fail (s!"Download failed with HTTP {response.status}: " ++ url)

/-- The rest of a download that seeks its response. -/
def seeking (store : Store) (work : Work (String × Response)) : Work Stored :=
  work.bind fun found => storeResponse store found.1 found.2

theorem transfer_eq (store : Store) (url : String) :
    transfer store url = (Work.makeDirectories store.directory).bind fun _ => seeking store (seek url) := by
  unfold transfer seeking seek
  simp only [bind, pure, Work.bind_assoc]
  iterate 4 refine Work.bind_congr fun _ => ?_
  split
  · rw [Work.bind_assoc]
    rfl
  · rfl

/-- A call whose request is answered at once by a response. -/
theorem seek_yields {exchange : Exchange} (first : Destination.checkFirst url.toList = .ok ())
    (answered : ∀ answer, expected (.request url []) answer → answer = .arrived exchange ∨ answer = .cancelled)
    (headers : exchange.checkHeaders = .ok ()) (received : exchange.received = .ok response)
    (origin : Address.checkOrigin url = .ok ()) (final : response.redirect? = none)
    (success : response.isSuccess = true)
    (named : resolveName url (response.header? "content-type") (response.header? "content-disposition") =
      .ok name) : (seek url).Yields expected (name, response) := by
  unfold seek
  rw [first]
  refine .tells (.waits (Option.some_ne_none _) fun answer comes => ?_)
  rcases answered answer comes with rfl | rfl
  · simp only [bind, pure, Work.bind, Work.ofAwaited, headers, received, origin, final, success, named, Work.ofExcept]
    rw [if_pos trivial]
    exact .tells .done
  · exact .cancelled

/-- The last part of a call: its temporary file gets the name of the download when the body is written, and
is given up however that ends. -/
def finishing (store : Store) (name : String) (writing : Work Nat) : Work Stored :=
  let path := store.directory / name
  (Work.ensuring (Work.remove path.temporary) (writing.bind fun size =>
    (Work.rename path.temporary path).bind fun _ => .done size)).bind fun size =>
      (tell s!"Successfully downloaded: {name}").bind fun _ =>
        .done { path := path, name := name, size := size }

/-- A call that has created its temporary file and waits for what comes after `size` octets. -/
def storing (store : Store) (name : String) (response : Response) (number size : Nat)
    (pieces : List ByteArray) : Work Stored :=
  finishing store name (writeBody store number response.failure size pieces)

/-- How the body goes on when what it waited for has arrived. -/
def afterPiece (store : Store) (response : Response) (number size : Nat) : List ByteArray → Work Nat
  | [] =>
    match response.failure with
    | some reason => failTransport reason
    | none => .done size
  | piece :: rest =>
    if store.limit < (size + piece.size : Nat) then fail ("Media too large: exceeds " ++ store.limitText)
    else (Work.extend number piece).bind fun _ =>
      writeBody store number response.failure (size + piece.size) rest

theorem storing_eq (number size : Nat) (pieces : List ByteArray) :
    storing store name response number size pieces = .ask .receive fun answer =>
      finishing store name ((Work.ofAwaited answer).bind fun _ =>
        afterPiece store response number size pieces) := by
  cases pieces <;> rfl

theorem storeBody_eq {path : Path} (named : path.name ≠ "") : storeBody store path response =
    Work.ensuring (Work.remove path.temporary) ((Work.create path.temporary).bind fun number =>
      (writeBody store number response.failure 0 response.body).bind fun size =>
        (Work.rename path.temporary path).bind fun _ => .done size) := by
  unfold storeBody partialPath
  rw [if_neg named]
  rfl

theorem waits_storing (store : Store) (name : String) (response : Response) (number size : Nat)
    (pieces : List ByteArray) : (storing store name response number size pieces).waits := by
  cases pieces <;> rfl

/-- A call has created its temporary file and not given it up yet. -/
def IsWriting (store : Store) (name : String) (work : Work Stored) : Prop :=
  ∃ response number size pieces, work = storing store name response number size pieces

/-- How far a call is. -/
inductive Stage (store : Store) (name : String) (expected : (step : Step) → step.Answer → Prop)
    (response : Response) (files : Files) : Work Stored → Prop
  | fresh {url : String} (finds : (seek url).Yields expected (name, response)) :
      Stage store name expected response files (transfer store url)
  | seeking {work : Work (String × Response)} (finds : work.Yields expected (name, response)) :
      Stage store name expected response files (seeking store work)
  | storing {number : Nat} {written : ByteArray} {pieces : List ByteArray}
      (holds : files.IsStoring (store.directory / name) number written)
      (whole : written ++ joined pieces = joined response.body)
      (fault : bodyFault? store response.failure written.size pieces = responseFault? store response) :
      Stage store name expected response files (storing store name response number written.size pieces)
  | done {content : ByteArray} {stored : Stored} (path : stored.path = store.directory / name)
      (size : stored.size = content.size)
      (stands : files.node? (store.directory / name).place = some (.file content)) :
      Stage store name expected response files (.done stored)
  | failed {fault : JobFault} (own : responseFault? store response = some fault) :
      Stage store name expected response files (.failed fault)
  | cancelled : Stage store name expected response files .cancelled

/-- What a turn of a call comes to: how far the call is then, and what became of the files. -/
structure Outcome (store : Store) (name : String) (expected : (step : Step) → step.Answer → Prop)
    (response : Response) (files : Files) (before rest : Work Stored) (later : Files) : Prop where
  stage : Stage store name expected response later rest
  can : later.CanStore store.directory (store.directory / name)
  complete : ∀ content, later.node? (store.directory / name).place = some (.file content) →
    files.node? (store.directory / name).place = some (.file content) ∨
      responseFault? store response = none ∧ content = joined response.body
  /-- Only a call that is writing before or after its turn changes files, as long as nothing is stored. -/
  alone : later = files ∨ files.node? (store.directory / name).place = none ∧
    (IsWriting store name before ∨ IsWriting store name rest)

theorem outcome_stores {before : Work Stored} (can : files.CanStore store.directory (store.directory / name))
    (goes : (storeResponse store name response).Goes files rest later) :
    Outcome store name expected response files before rest later := by
  rcases can.file_or_none with empty | ⟨content, stands⟩
  · have fresh := goes.isFile (Files.isFile_of_none can.located empty)
    simp only [Bool.false_eq_true, ↓reduceIte] at fresh
    rcases checkDeclared_isDecided store response with ⟨_, fine⟩ | ⟨fault, large⟩
    · rw [fine] at fresh
      have begun := fresh.emit
      obtain ⟨number, between, created, can', holds⟩ := can.create empty
      have waiting : (storing store name response number 0 response.body).Goes between rest later := by
        rw [storeBody_eq can.named] at begun
        exact begun.create created
      obtain ⟨rfl, rfl⟩ := waiting.of_still (by rw [waits_storing, Bool.or_true])
      have writing : IsWriting store name (storing store name response number 0 response.body) :=
        ⟨response, number, 0, response.body, rfl⟩
      have fault : bodyFault? store response.failure 0 response.body = responseFault? store response := by
        rw [responseFault?, fine]
      have stage : Stage store name expected response later
          (storing store name response number ByteArray.empty.size response.body) :=
        .storing holds ByteArray.empty_append fault
      refine ⟨stage, can', fun content stands => ?_, .inr ⟨empty, .inr writing⟩⟩
      rw [holds.empty] at stands
      cases stands
    · rw [large] at fresh
      obtain ⟨rfl, rfl⟩ := fresh.of_still rfl
      have own : responseFault? store response = some fault := by rw [responseFault?, large]
      exact ⟨.failed own, can, fun _ => .inl, .inl rfl⟩
  · have reused := (goes.isFile (Files.isFile_of_file can.located stands)).emit.look
    dsimp only [Work.bind] at reused
    rw [Files.size_of_file can.located stands] at reused
    obtain ⟨rfl, rfl⟩ := reused.of_still rfl
    exact ⟨.done rfl rfl stands, can, fun _ => .inl, .inl rfl⟩

/-- What a call comes to that seeks its response. -/
theorem outcome_seeks {before : Work Stored} {work : Work (String × Response)}
    (can : files.CanStore store.directory (store.directory / name))
    (finds : work.Yields expected (name, response)) (goes : (seeking store work).Goes files rest later) :
    Outcome store name expected response files before rest later := by
  induction finds with
  | done => exact outcome_stores can goes
  | cancelled =>
    obtain ⟨rfl, rfl⟩ := goes.of_still rfl
    exact ⟨.cancelled, can, fun _ => .inl, .inl rfl⟩
  | tells later ih => exact ih (Work.Goes.emit goes)
  | @waits step next waits answered ih =>
    obtain ⟨rfl, rfl⟩ := goes.of_still (Option.isSome_iff_ne_none.mpr waits)
    exact ⟨.seeking (.waits waits answered), can, fun _ => .inl, .inl rfl⟩

/-- What the first turn of a call comes to, which makes the directory if it is not there. -/
theorem outcome_begins {before : Work Stored} (makes : files.makeDirectories store.directory = .ok made)
    (can : made.CanStore store.directory (store.directory / name))
    (finds : (seek url).Yields expected (name, response)) (goes : (transfer store url).Goes files rest later) :
    Outcome store name expected response made before rest later := by
  rw [transfer_eq] at goes
  exact outcome_seeks can finds (goes.makeDirectories makes)

/-- What a call does when it gives up its temporary file. -/
theorem outcome_gives_up {before : Work Stored} (can : files.CanStore store.directory (store.directory / name))
    (empty : files.node? (store.directory / name).place = none) (writing : IsWriting store name before)
    (stage : Stage store name expected response (files.remove (store.directory / name).temporary) rest) :
    Outcome store name expected response files before rest (files.remove (store.directory / name).temporary) := by
  obtain ⟨can', same⟩ := can.remove
  refine ⟨stage, can', fun content stands => ?_, .inr ⟨empty, .inl writing⟩⟩
  rw [same, empty] at stands
  contradiction

/-- At the end of its body a call fails, or gives the temporary file its name. -/
theorem outcome_ends {before : Work Stored} {number : Nat} {written : ByteArray}
    (can : files.CanStore store.directory (store.directory / name))
    (holds : files.IsStoring (store.directory / name) number written) (whole : written = joined response.body)
    (fault : bodyFault? store response.failure written.size [] = responseFault? store response)
    (writing : IsWriting store name before)
    (goes : (finishing store name (afterPiece store response number written.size [])).Goes files rest later) :
    Outcome store name expected response files before rest later := by
  rw [bodyFault?] at fault
  rw [afterPiece] at goes
  cases failing : response.failure with
  | some reason =>
    rw [failing] at fault goes
    obtain ⟨rfl, rfl⟩ := goes.remove.of_still rfl
    exact outcome_gives_up can holds.empty writing (.failed fault.symm)
  | none =>
    rw [failing] at fault goes
    obtain ⟨between, renamed, can, stands⟩ := holds.rename can
    obtain ⟨rfl, rfl⟩ := (goes.rename renamed).remove.emit.of_still rfl
    obtain ⟨can', same⟩ := can.remove
    rw [stands] at same
    refine ⟨.done rfl rfl same, can', fun content there => ?_, .inr ⟨holds.empty, .inl writing⟩⟩
    rw [same] at there
    cases there
    exact .inr ⟨fault.symm, whole⟩

/-- After a piece of its body a call fails, or writes the piece and waits for what comes next. -/
theorem outcome_writes {before : Work Stored} {number : Nat} {written piece : ByteArray}
    {more : List ByteArray} (can : files.CanStore store.directory (store.directory / name))
    (holds : files.IsStoring (store.directory / name) number written)
    (whole : written ++ joined (piece :: more) = joined response.body)
    (fault : bodyFault? store response.failure written.size (piece :: more) = responseFault? store response)
    (writing : IsWriting store name before)
    (goes : (finishing store name (afterPiece store response number written.size (piece :: more))).Goes files
      rest later) : Outcome store name expected response files before rest later := by
  rw [bodyFault?] at fault
  rw [afterPiece] at goes
  split at fault
  · next large =>
    rw [if_pos large] at goes
    obtain ⟨rfl, rfl⟩ := goes.remove.of_still rfl
    exact outcome_gives_up can holds.empty writing (.failed fault.symm)
  · next small =>
    rw [if_neg small] at goes
    obtain ⟨can', holds'⟩ := holds.extend can piece
    rw [← ByteArray.size_append] at fault goes
    have waiting : (storing store name response number (written ++ piece).size more).Goes
        (files.extend number piece) rest later := goes.extend
    obtain ⟨rfl, rfl⟩ := waiting.of_still (by rw [waits_storing, Bool.or_true])
    have whole' : written ++ piece ++ joined more = joined response.body := by
      rw [ByteArray.append_assoc]
      exact whole
    refine ⟨.storing holds' whole' fault, can', fun content there => ?_, .inr ⟨holds.empty, .inl writing⟩⟩
    rw [holds'.empty] at there
    contradiction

/-- A call is woken by the next piece of its body, by the end of the body, or by its cancellation. -/
theorem outcome_resumes {number : Nat} {written : ByteArray} {pieces : List ByteArray} {step : Step}
    {next : step.Answer → Work Stored} {answer : step.Answer}
    (can : files.CanStore store.directory (store.directory / name))
    (holds : files.IsStoring (store.directory / name) number written)
    (whole : written ++ joined pieces = joined response.body)
    (fault : bodyFault? store response.failure written.size pieces = responseFault? store response)
    (waiting : storing store name response number written.size pieces = .ask step next)
    (goes : (next answer).Goes files rest later) :
    Outcome store name expected response files (storing store name response number written.size pieces) rest
      later := by
  have writing : IsWriting store name (storing store name response number written.size pieces) :=
    ⟨response, number, written.size, pieces, rfl⟩
  rw [storing_eq] at waiting
  cases waiting
  cases answer with
  | cancelled =>
    obtain ⟨rfl, rfl⟩ := goes.remove.of_still rfl
    exact outcome_gives_up can holds.empty writing .cancelled
  | arrived =>
    cases pieces with
    | nil =>
      have body : written = joined response.body := ByteArray.append_empty.symm.trans whole
      exact outcome_ends can holds body fault writing goes
    | cons piece more => exact outcome_writes can holds whole fault writing goes

/-- As long as nothing is stored, only a call that is writing depends on the files. -/
theorem Stage.of_idle {work : Work Stored} (stage : Stage store name expected response files work)
    (empty : files.node? (store.directory / name).place = none) (idle : ¬IsWriting store name work) :
    Stage store name expected response later work := by
  cases stage with
  | fresh finds => exact .fresh finds
  | seeking finds => exact .seeking finds
  | storing => exact absurd ⟨_, _, _, _, rfl⟩ idle
  | done path size stands =>
    rw [empty] at stands
    contradiction
  | failed own => exact .failed own
  | cancelled => exact .cancelled

theorem Stage.of_still {before : Work Stored} (stage : Stage store name expected response files before)
    (can : files.CanStore store.directory (store.directory / name)) (still : before.isEnded || before.waits)
    (goes : before.Goes files rest later) : Outcome store name expected response files before rest later := by
  obtain ⟨rfl, rfl⟩ := goes.of_still still
  exact ⟨stage, can, fun _ => .inl, .inl rfl⟩

theorem Stage.starts {before : Work Stored} (stage : Stage store name expected response files before)
    (can : files.CanStore store.directory (store.directory / name)) (goes : before.Goes files rest later) :
    Outcome store name expected response files before rest later := by
  cases stage with
  | fresh finds => exact outcome_begins (Files.makeDirectories_eq can.directory) can finds goes
  | seeking finds => exact outcome_seeks can finds goes
  | storing holds whole fault =>
    exact Stage.of_still (.storing holds whole fault) can (by rw [waits_storing, Bool.or_true]) goes
  | done path size stands => exact Stage.of_still (.done path size stands) can rfl goes
  | failed own => exact Stage.of_still (.failed own) can rfl goes
  | cancelled => exact Stage.of_still .cancelled can rfl goes

theorem Stage.resumes {before : Work Stored} (stage : Stage store name expected response files before)
    (can : files.CanStore store.directory (store.directory / name)) {step : Step}
    {next : step.Answer → Work Stored} {answer : step.Answer} (waiting : before = .ask step next)
    (waits : step.cancellation? ≠ none) (comes : expected step answer)
    (goes : (next answer).Goes files rest later) : Outcome store name expected response files before rest later := by
  cases stage with
  | fresh finds =>
    have makes : step = .makeDirectories store.directory := by
      rw [transfer_eq] at waiting
      cases waiting
      rfl
    exact absurd (makes ▸ rfl) waits
  | seeking finds =>
    cases finds with
    | done =>
      have look : step = .files := by cases waiting; rfl
      exact absurd (look ▸ rfl) waits
    | cancelled => contradiction
    | @tells phase message data next later =>
      have tells : step = .emit phase message data := by cases waiting; rfl
      exact absurd (tells ▸ rfl) waits
    | waits _ answered =>
      cases waiting
      exact outcome_seeks can (answered answer comes) goes
  | storing holds whole fault => exact outcome_resumes can holds whole fault waiting goes
  | done | failed | cancelled => contradiction

end Montage.Download
