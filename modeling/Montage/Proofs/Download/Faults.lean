import Montage.Proofs.Download.Declared
import Montage.Proofs.Download.Seeking
import Montage.Proofs.Files.Child

/-! # Faults of downloads

A download that fails should fail with the coded fault of downloads. Only failures of the transport, refused answers and
sizes get it: what goes wrong with the address of a redirection, with the name of a response, with the digits of its
size, or with a file keeps its own fault. Each of these causes is told here from what a call is answered and from the
files, and there is no other one.
-/

namespace Montage.Download

variable {store : Store} {url name : String} {path : Path} {response : Response} {files later made : Files}
  {deeds first second : List Deed}

/-- A call has ended with a download, or with the coded fault of downloads. -/
def IsAnswered {α : Type} : Work α → Prop
  | .done _ => True
  | .failed fault => IsDownloadFault fault
  | .cancelled | .ask .. => False

/-- A work, unless it was cancelled, was answered exactly if nothing strays. -/
def Settles {α : Type} (strays : Prop) (work : Work α) : Prop := work = .cancelled ∨ (IsAnswered work ↔ ¬ strays)

namespace Settles

variable {α β : Type} {strays : Prop} {fault : JobFault}

theorem answered {work : Work α} (answered : IsAnswered work) (fine : ¬ strays) : Settles strays work :=
  .inr (iff_of_true answered fine)

theorem strayed (other : ¬ IsDownloadFault fault) (astray : strays) : Settles strays (.failed fault : Work α) :=
  .inr (iff_of_false other (not_not.mpr astray))

/-- What breaks off the rest of a work settles as it does. -/
theorem breaks {left : Work α} {rest : Work β} (settles : Settles strays left) (breaks : left.Breaks rest) :
    Settles strays rest := by
  cases breaks with
  | cancelled => exact .inl rfl
  | failed fault =>
    rcases settles with other | settles
    · cases other
    · exact .inr settles

end Settles

/-- What the writing of a body comes to: it is cancelled, it fails with the fault of the body, or it is complete. -/
theorem ends_of_writeBody {number size : Nat} {pieces : List ByteArray} {rest : Work Nat}
    (does : (writeBody store number response.failure size pieces).Does deeds rest) (ended : rest.isEnded = true)
    (leads : Deed.Leads files deeds later) : rest = .cancelled ∨
      (∃ fault, bodyFault? store response.failure size pieces = some fault ∧ rest = .failed fault) ∨
      bodyFault? store response.failure size pieces = none ∧ ∃ total, rest = .done total := by
  induction pieces generalizing files size deeds with
  | nil =>
    rw [writeBody_eq] at does
    rcases Work.alone_receive_bind does ended leads with ⟨-, rfl, -⟩ | ⟨others, rfl, arrived, goes⟩
    · exact .inl rfl
    · rw [afterPiece] at arrived
      rw [bodyFault?]
      cases failing : response.failure with
      | some reason =>
        rw [failing] at arrived
        obtain ⟨rfl, rfl⟩ := arrived.of_isEnded rfl
        exact .inr (.inl ⟨_, rfl, rfl⟩)
      | none =>
        rw [failing] at arrived
        obtain ⟨rfl, rfl⟩ := arrived.of_isEnded rfl
        exact .inr (.inr ⟨rfl, size, rfl⟩)
  | cons piece pieces ih =>
    rw [writeBody_eq] at does
    rcases Work.alone_receive_bind does ended leads with ⟨-, rfl, -⟩ | ⟨others, rfl, arrived, goes⟩
    · exact .inl rfl
    · rw [afterPiece] at arrived
      rw [bodyFault?]
      split at arrived
      · next large =>
        obtain ⟨rfl, rfl⟩ := arrived.of_isEnded rfl
        rw [if_pos large]
        exact .inr (.inl ⟨_, rfl, rfl⟩)
      · next fits =>
        obtain ⟨answer, others, rfl, writing⟩ := (Work.does_ask_iff ended).mp arrived
        rw [if_neg fits]
        cases goes with
        | deed takes goes => exact ih writing goes

/-- What storing a body under a path comes to, with the fault if there is one. -/
inductive Lands (store : Store) (path : Path) (response : Response) (files : Files) : Work Nat → Prop
  | cancelled : Lands store path response files .cancelled
  | unopened {fault : FileFault} (refused : files.create path.temporary = .error fault) :
      Lands store path response files (.failed fault.toJob)
  | refused {fault : JobFault} {opened : Nat × Files} (created : files.create path.temporary = .ok opened)
      (own : bodyFault? store response.failure 0 response.body = some fault) :
      Lands store path response files (.failed fault)
  | unnamed {fault : FileFault} {opened : Nat × Files} {between : Files} {number : Nat} {content : ByteArray}
      (created : files.create path.temporary = .ok opened)
      (fine : bodyFault? store response.failure 0 response.body = none)
      (draft : files.IsDraft between path.temporary number content)
      (refused : between.rename path.temporary path = .error fault) :
      Lands store path response files (.failed fault.toJob)
  | stored {size : Nat} {opened : Nat × Files} {between later : Files} {number : Nat} {content : ByteArray}
      (created : files.create path.temporary = .ok opened)
      (fine : bodyFault? store response.failure 0 response.body = none)
      (draft : files.IsDraft between path.temporary number content)
      (renamed : between.rename path.temporary path = .ok later) : Lands store path response files (.done size)

theorem lands_of_storing {rest : Work Nat} (ended : rest.isEnded = true) (leads : Deed.Leads files deeds later)
    (does : ((Work.create path.temporary).bind fun number =>
      (writeBody store number response.failure 0 response.body).bind fun size =>
        (Work.rename path.temporary path).bind fun _ => .done size).Does deeds rest) :
    Lands store path response files rest := by
  obtain ⟨answer, others, rfl, creating⟩ := (Work.does_ask_iff ended).mp does
  cases leads with
  | deed takes leads =>
    rcases takes.create with ⟨number, rfl, created⟩ | ⟨fault, rfl, refused, rfl⟩
    · have begun : ((writeBody store number response.failure 0 response.body).bind fun size =>
          (Work.rename path.temporary path).bind fun _ => .done size).Does others rest := creating
      rcases (Work.does_bind_iff ended).mp begun with
        ⟨first, second, size, rfl, writing, naming⟩ | ⟨left, writing, breaks⟩
      · obtain ⟨between, goes, moves⟩ := Deed.leads_append_iff.mp leads
        obtain ⟨-, content, draft, -⟩ := draft_of_writeBody (Files.isDraft_create created) rfl writing rfl goes
        have fine : bodyFault? store response.failure 0 response.body = none := by
          rcases ends_of_writeBody writing rfl goes with other | ⟨fault, -, other⟩ | ⟨fine, -⟩
          · cases other
          · cases other
          · exact fine
        obtain ⟨answer, last, rfl, moving⟩ := (Work.does_ask_iff ended).mp naming
        cases moves with
        | deed takes ends =>
          rcases takes.rename with ⟨rfl, renamed⟩ | ⟨fault, rfl, refused, rfl⟩
          · obtain ⟨rfl, rfl⟩ := moving.of_isEnded rfl
            exact .stored created fine draft renamed
          · obtain ⟨rfl, rfl⟩ := moving.of_isEnded rfl
            exact .unnamed created fine draft refused
      · rcases ends_of_writeBody writing breaks.isEnded_left leads with rfl | ⟨fault, own, rfl⟩ | ⟨-, total, rfl⟩
        · cases breaks
          exact .cancelled
        · cases breaks
          exact .refused created own
        · cases breaks
    · obtain ⟨rfl, rfl⟩ := creating.of_isEnded rfl
      exact .unopened refused

theorem lands_of_storeBody (named : path.name ≠ "") {rest : Work Nat}
    (does : (storeBody store path response).Does deeds rest) (ended : rest.isEnded = true)
    (leads : Deed.Leads files deeds later) : Lands store path response files rest := by
  rw [storeBody_eq named] at does
  obtain ⟨first, second, left, rfl, stopped, storing, removing⟩ := Work.does_ensuring does ended
  obtain ⟨between, goes, -⟩ := Deed.leads_append_iff.mp leads
  obtain ⟨answer, others, rfl, ending⟩ := (Work.does_ask_iff ended).mp removing
  obtain ⟨rfl, rfl⟩ := ending.of_isEnded stopped
  exact lands_of_storing stopped goes storing

/-- Why a response cannot be stored under a name, other than for its body: the path is too long to be followed, its
declared size cannot be read or told, its temporary name cannot be opened, or the name is a step and no name. -/
inductive Derails (store : Store) (files : Files) (name : String) (response : Response) : Prop
  | path (plain : '\x00' ∉ (store.directory / name).text.toList)
      (long : Files.pathLimit ≤ (store.directory / name).text.utf8ByteSize ∨ Files.nameLimit < name.utf8ByteSize) :
      Derails store files name response
  | size (fresh : files.isFile (store.directory / name) = .ok false) (unsayable : IsUnsayable store response) :
      Derails store files name response
  | opening (fresh : files.isFile (store.directory / name) = .ok false)
      (fits : checkDeclared store response = .done ()) (child : name ≠ "." ∧ name ≠ "..")
      (long : '\x00' ∈ (store.directory / name).temporary.text.toList ∨
        Files.pathLimit ≤ (store.directory / name).temporary.text.utf8ByteSize ∨
          Files.nameLimit < (name ++ ".part").utf8ByteSize) : Derails store files name response
  | step (fresh : files.isFile (store.directory / name) = .ok false)
      (fits : checkDeclared store response = .done ()) (step : name = "." ∨ name = "..")
      (goes : (store.directory / name).name = "" ∨
        (∃ fault, files.create (store.directory / name).temporary = .error fault) ∨
          bodyFault? store response.failure 0 response.body = none) : Derails store files name response

/-- A new name derails exactly if its temporary name cannot be opened, or if it is a step and nothing else fails. -/
theorem derails_iff (there : files.find store.directory = .ok .directory)
    (flat : files.IsFlatAt store.directory.place) (filled : name ≠ "") (whole : '/' ∉ name.toList)
    (fresh : files.isFile (store.directory / name) = .ok false) (fits : checkDeclared store response = .done ())
    (sayable : ¬ IsUnsayable store response) : Derails store files name response ↔
      ((store.directory / name).name = "" ∨
        ∃ fault, files.create (store.directory / name).temporary = .error fault) ∨
      ((name = "." ∨ name = "..") ∧ bodyFault? store response.failure 0 response.body = none) := by
  have opens (child : name ≠ "." ∧ name ≠ "..") := by
    have part : Path.IsPart name := ⟨filled, child.1, whole⟩
    have opens := Files.create_isError_iff there flat part.partName (Path.partName_ne (by decide))
    rwa [← Path.temporary_div part] at opens
  constructor
  · rintro (⟨plain, long⟩ | ⟨-, unsayable⟩ | ⟨-, -, child, long⟩ | ⟨-, -, step, goes⟩)
    · obtain ⟨fault, beyond⟩ := (Files.isFile_isError_iff there filled whole).mpr ⟨plain, long⟩
      cases fresh.symm.trans beyond
    · exact absurd unsayable sayable
    · exact .inl (.inr ((opens child).mpr long))
    · rcases goes with unnamed | refused | fine
      · exact .inl (.inl unnamed)
      · exact .inl (.inr refused)
      · exact .inr ⟨step, fine⟩
  · intro causes
    by_cases step : name = "." ∨ name = ".."
    · refine .step fresh fits step ?_
      rcases causes with (unnamed | refused) | ⟨-, fine⟩
      · exact .inl unnamed
      · exact .inr (.inl refused)
      · exact .inr (.inr fine)
    · have child := not_or.mp step
      rcases causes with (unnamed | refused) | ⟨up, -⟩
      · rw [Path.name_div ⟨filled, child.1, whole⟩] at unnamed
        exact absurd unnamed filled
      · exact .opening fresh fits child ((opens child).mp refused)
      · exact absurd up step

/-- A body gets its name unless that is a step. -/
theorem rename_isError_iff (there : files.find store.directory = .ok .directory)
    (flat : files.IsFlatAt store.directory.place) (filled : name ≠ "") (whole : '/' ∉ name.toList)
    {opened : Nat × Files} {between : Files} {number : Nat} {content : ByteArray}
    (created : files.create (store.directory / name).temporary = .ok opened)
    (draft : files.IsDraft between (store.directory / name).temporary number content) :
    (∃ fault, between.rename (store.directory / name).temporary (store.directory / name) = .error fault) ↔
      name = "." ∨ name = ".." := by
  constructor
  · rintro ⟨fault, refused⟩
    by_contra step
    obtain ⟨noDot, down⟩ := not_or.mp step
    have can := Files.canStore_of_create there flat ⟨filled, noDot, whole⟩ down created
    obtain ⟨renamed, fine⟩ := can.rename draft
    cases refused.symm.trans fine
  · intro step
    apply Files.rename_isError
    rcases step with rfl | rfl
    · right
      rw [Path.div_dot] at draft ⊢
      exact Files.find_mono (Files.keepsDirectories_of_same draft.free draft.others) there
    · left
      exact Path.name_div ⟨filled, by decide, whole⟩

theorem settles_of_lands {rest : Work Nat} (there : files.find store.directory = .ok .directory)
    (flat : files.IsFlatAt store.directory.place) (filled : name ≠ "") (whole : '/' ∉ name.toList)
    (fresh : files.isFile (store.directory / name) = .ok false) (fits : checkDeclared store response = .done ())
    (sayable : ¬ IsUnsayable store response) (named : (store.directory / name).name ≠ "")
    (lands : Lands store (store.directory / name) response files rest) :
    Settles (Derails store files name response) rest := by
  have causes := derails_iff there flat filled whole fresh fits sayable
  cases lands with
  | cancelled => exact .inl rfl
  | unopened refused =>
    exact .strayed (not_isDownloadFault_plain _ _) (causes.mpr (.inl (.inr ⟨_, refused⟩)))
  | refused created own =>
    refine .answered (isDownloadFault_of_bodyFault? own) fun derails => ?_
    rcases causes.mp derails with (unnamed | ⟨fault, refused⟩) | ⟨-, fine⟩
    · exact named unnamed
    · cases created.symm.trans refused
    · cases own.symm.trans fine
  | unnamed created fine draft refused =>
    have step := (rename_isError_iff there flat filled whole created draft).mp ⟨_, refused⟩
    exact .strayed (not_isDownloadFault_plain _ _) (causes.mpr (.inr ⟨step, fine⟩))
  | stored created fine draft renamed =>
    refine .answered trivial fun derails => ?_
    rcases causes.mp derails with (unnamed | ⟨fault, refused⟩) | ⟨step, -⟩
    · exact named unnamed
    · cases created.symm.trans refused
    · obtain ⟨fault, refused⟩ := (rename_isError_iff there flat filled whole created draft).mpr step
      cases renamed.symm.trans refused

/-- What a new download comes to. -/
theorem settles_of_fresh {rest : Work Stored} (there : files.find store.directory = .ok .directory)
    (flat : files.IsFlatAt store.directory.place) (filled : name ≠ "") (whole : '/' ∉ name.toList)
    (fresh : files.isFile (store.directory / name) = .ok false) (fits : checkDeclared store response = .done ())
    (sayable : ¬ IsUnsayable store response) (ended : rest.isEnded = true) (leads : Deed.Leads files deeds later)
    (does : ((storeBody store (store.directory / name) response).bind fun size =>
      (tell s!"Successfully downloaded: {name}").bind fun _ =>
        .done ⟨store.directory / name, name, size, false⟩).Does deeds rest) :
    Settles (Derails store files name response) rest := by
  by_cases named : (store.directory / name).name = ""
  · have causes := derails_iff there flat filled whole fresh fits sayable
    unfold storeBody partialPath at does
    rw [if_pos named] at does
    obtain ⟨rfl, rfl⟩ := does.of_isEnded rfl
    exact .strayed (not_isDownloadFault_plain _ _) (causes.mpr (.inl (.inl named)))
  · rcases (Work.does_bind_iff ended).mp does with
      ⟨first, second, size, rfl, storing, telling⟩ | ⟨left, storing, breaks⟩
    · obtain ⟨between, goes, ends⟩ := Deed.leads_append_iff.mp leads
      have lands := lands_of_storeBody named storing rfl goes
      obtain ⟨_, _, told, -⟩ := alone_tell_bind telling ended ends
      obtain ⟨rfl, rfl⟩ := told.of_isEnded rfl
      rcases settles_of_lands there flat filled whole fresh fits sayable named lands with other | settles
      · cases other
      · exact .inr settles
    · have lands := lands_of_storeBody named storing breaks.isEnded_left leads
      exact (settles_of_lands there flat filled whole fresh fits sayable named lands).breaks breaks

/-- What a response comes to that is stored under a name in a directory without directories. -/
theorem settles_of_storeResponse {rest : Work Stored} (there : files.find store.directory = .ok .directory)
    (flat : files.IsFlatAt store.directory.place) (filled : name ≠ "") (whole : '/' ∉ name.toList)
    (does : (storeResponse store name response).Does deeds rest) (ended : rest.isEnded = true)
    (leads : Deed.Leads files deeds later) : Settles (Derails store files name response) rest := by
  obtain ⟨others, rfl, looked, goes⟩ := Work.alone_isFile_bind does ended leads
  cases look : files.isFile (store.directory / name) with
  | error fault =>
    rw [look] at looked
    obtain ⟨rfl, rfl⟩ := looked.of_isEnded rfl
    obtain ⟨plain, long⟩ := (Files.isFile_isError_iff there filled whole).mp ⟨fault, look⟩
    exact .strayed (not_isDownloadFault_plain _ _) (.path plain long)
  | ok found =>
    rw [look] at looked
    have followed (plain : '\x00' ∉ (store.directory / name).text.toList) :
        ¬ (Files.pathLimit ≤ (store.directory / name).text.utf8ByteSize ∨ Files.nameLimit < name.utf8ByteSize) := by
      intro long
      obtain ⟨fault, beyond⟩ := (Files.isFile_isError_iff there filled whole).mpr ⟨plain, long⟩
      cases look.symm.trans beyond
    cases found with
    | true =>
      obtain ⟨content, stands⟩ := Files.find_of_isFile look
      obtain ⟨_, -, -, rfl, -⟩ := reuses_of_find stands looked ended goes
      refine .answered trivial ?_
      rintro (⟨plain, long⟩ | ⟨fresh, -⟩ | ⟨fresh, -, -, -⟩ | ⟨fresh, -, -, -⟩)
      · exact followed plain long
      all_goals cases look.symm.trans fresh
    | false =>
      have checking : ((checkDeclared store response).bind fun _ => (tell s!"Streaming media to: {name}").bind fun _ =>
          (storeBody store (store.directory / name) response).bind fun size =>
            (tell s!"Successfully downloaded: {name}").bind fun _ =>
              .done ⟨store.directory / name, name, size, false⟩).Does others rest := looked
      have checks := checks_checkDeclared store response
      generalize checked : checkDeclared store response = work at checks checking
      cases checks with
      | fits sayable =>
        obtain ⟨_, _, told, goes⟩ := alone_tell_bind checking ended goes
        exact settles_of_fresh there flat filled whole look checked sayable ended goes told
      | refused coded sayable =>
        obtain ⟨rfl, rfl⟩ := checking.of_isEnded rfl
        refine .answered coded ?_
        rintro (⟨plain, long⟩ | ⟨-, unsayable⟩ | ⟨-, fits, -, -⟩ | ⟨-, fits, -, -⟩)
        · exact followed plain long
        · exact sayable unsayable
        · cases checked.symm.trans fits
        · cases checked.symm.trans fits
      | strays other unsayable =>
        obtain ⟨rfl, rfl⟩ := checking.of_isEnded rfl
        exact .strayed other (.size look unsayable)

/-- Why a call fails with another fault than that of downloads: something has led it astray, the last response has no
name because its address cannot be read, or it derails when it is stored. -/
inductive Strays (store : Store) (url : String) (files : Files) (deeds : List Deed) : Prop
  | astray (astray : IsLedAstray deeds) : Strays store url files deeds
  | nameless {response : Response} (last : response? deeds = some response) (success : response.isSuccess = true)
      (unnamed : headerName? (response.header? "content-disposition") = none)
      (unreadable : ∀ path, Address.path url.toList ≠ .ok path) : Strays store url files deeds
  | derails {name : String} {response : Response} (finds : Finds url deeds name response)
      (success : response.isSuccess = true) (derails : Derails store files name response) : Strays store url files deeds

theorem strays_congr (led : IsLedAstray first ↔ IsLedAstray second) (same : response? first = response? second) :
    Strays store url files first ↔ Strays store url files second := by
  constructor
  · rintro (astray | ⟨last, success, unnamed, unreadable⟩ | ⟨⟨last, named⟩, success, derails⟩)
    · exact .astray (led.mp astray)
    · exact .nameless (same ▸ last) success unnamed unreadable
    · exact .derails ⟨same ▸ last, named⟩ success derails
  · rintro (astray | ⟨last, success, unnamed, unreadable⟩ | ⟨⟨last, named⟩, success, derails⟩)
    · exact .astray (led.mpr astray)
    · exact .nameless (same ▸ last) success unnamed unreadable
    · exact .derails ⟨same ▸ last, named⟩ success derails

/-- What is done before a request does not lead astray. -/
theorem strays_own_append (own : ∀ deed ∈ first, deed.step.isRequest = false) :
    Strays store url files (first ++ second) ↔ Strays store url files second := by
  apply strays_congr
  · rw [isLedAstray_append, or_iff_right (not_isLedAstray_of_own own)]
  · rw [response?_append, response?_eq_none own, Option.or_none]

/-- Nor does what is done after the last one. -/
theorem strays_append_own (own : ∀ deed ∈ second, deed.step.isRequest = false) :
    Strays store url files (first ++ second) ↔ Strays store url files first := by
  apply strays_congr
  · rw [isLedAstray_append, or_iff_left (not_isLedAstray_of_own own)]
  · rw [response?_append, response?_eq_none own, Option.none_or]

/-- A call that has found its response strays exactly if it derails. -/
theorem strays_iff_derails (fine : ¬ IsLedAstray deeds) (finds : Finds url deeds name response)
    (success : response.isSuccess = true) :
    Strays store url files deeds ↔ Derails store files name response := by
  constructor
  · rintro (astray | ⟨last, -, unnamed, unreadable⟩ | ⟨found, -, derails⟩)
    · exact absurd astray fine
    · obtain rfl := Option.some.inj (finds.last.symm.trans last)
      obtain ⟨path, read⟩ := isOk_resolveName_iff.mp ⟨name, finds.named⟩ unnamed
      exact absurd read (unreadable path)
    · obtain ⟨rfl, rfl⟩ := finds.unique found
      exact derails
  · intro derails
    exact .derails finds success derails

/-- A call that has not found a response strays exactly if it was not refused with the coded fault. -/
theorem settles_of_seeks {fault : JobFault} (seeks : Seeks url deeds (.failed fault)) :
    Settles (Strays store url files deeds) (.failed fault : Work Stored) := by
  cases seeks with
  | refused coded fine unmet =>
    refine .answered coded ?_
    rintro (astray | ⟨last, success, -, -⟩ | ⟨found, success, -⟩)
    · exact fine astray
    · cases (unmet _ last).symm.trans success
    · cases (unmet _ found.last).symm.trans success
  | astray other astray => exact .strayed other (.astray astray)
  | nameless other last success unnamed unreadable =>
    exact .strayed other (.nameless last success unnamed unreadable)

/-- A call that runs alone, to an address that is accepted, with a directory for downloads that can be made and has no
directories in it: unless it was cancelled, it ends with a download or with the coded fault of downloads exactly if
nothing strays. -/
theorem transfer_settles {ending : Work Stored} (does : (transfer store url).Does deeds ending)
    (ended : ending.isEnded = true) (leads : Deed.Leads files deeds later)
    (accepted : Destination.checkFirst url.toList = .ok ()) (origin : Address.checkOrigin url = .ok ())
    (makes : files.makeDirectories store.directory = .ok made) (flat : made.IsFlatAt store.directory.place) :
    ending = .cancelled ∨ (IsAnswered ending ↔ ¬ Strays store url made deeds) := by
  rw [transfer_eq, seek_eq accepted] at does
  obtain ⟨answer, others, rfl, making⟩ := (Work.does_ask_iff ended).mp does
  cases leads with
  | deed takes goes =>
    rcases takes.makeDirectories with ⟨rfl, same⟩ | ⟨fault, -, refused, -⟩
    · obtain rfl := Except.ok.inj (makes.symm.trans same)
      obtain ⟨told, others, rfl, -, seeking, goes⟩ := Work.alone_ask_quiet making ended goes rfl
      have own : ∀ deed ∈ [(⟨.makeDirectories store.directory, .ok ()⟩ : Deed), ⟨.emit .download _ none, told⟩],
          deed.step.isRequest = false := by simp [Step.isRequest]
      rw [show (_ :: _ :: others : List Deed) = [_, _] ++ others from rfl, strays_own_append own]
      rcases (Work.does_bind_iff ended).mp seeking with
        ⟨first, second, found, rfl, seeks, stores⟩ | ⟨left, seeks, breaks⟩
      · cases seeks_of_request origin seeks rfl with
        | finds fine finds success =>
          obtain ⟨between, here, there⟩ := Deed.leads_append_iff.mp goes
          obtain rfl := here.quiet ((seeking_only_quiet url).does seeks)
          obtain ⟨filled, whole⟩ := part_of_resolveName finds.named
          rw [strays_append_own ((storeResponse_only_own _ _ _).does stores), strays_iff_derails fine finds success]
          exact settles_of_storeResponse (Files.find_of_makeDirectories makes) flat filled whole stores ended there
      · have seeks := seeks_of_request origin seeks breaks.isEnded_left
        cases breaks with
        | cancelled => exact .inl rfl
        | failed fault => exact settles_of_seeks seeks
    · cases makes.symm.trans refused

theorem does_storeResponse_of_refused {fault : JobFault} (fresh : made.isFile (store.directory / name) = .ok false)
    (refused : checkDeclared store response = .failed fault) :
    (storeResponse store name response).Does [⟨.files, made⟩] (.failed fault) := by
  have looked : (Work.isFile (store.directory / name)).Does [⟨.files, made⟩] (.done false) := by
    refine .step ?_
    change (Work.ofExcept FileFault.toJob (made.isFile (store.directory / name))).Does [] _
    rw [fresh]
    exact .nothing _
  refine looked.bind ?_
  change (if false = true then _ else (checkDeclared store response).bind fun _ => _ : Work Stored).Does [] _
  rw [if_neg Bool.false_ne_true, refused]
  exact .nothing _

/-- A call fails with the fault of a declared size that is refused. -/
theorem exists_does_of_refused {fault : JobFault} (makes : files.makeDirectories store.directory = .ok made)
    (seeks : (seek url).Does deeds (.done (name, response))) (leads : Deed.Leads made deeds made)
    (fresh : made.isFile (store.directory / name) = .ok false)
    (refused : checkDeclared store response = .failed fault) :
    ∃ deeds, (transfer store url).Does deeds (.failed fault) ∧ Deed.Leads files deeds made ∧
      response? deeds = some response := by
  have making : Deed.Takes files ⟨.makeDirectories store.directory, .ok ()⟩ made := by
    have answers : (answering {} files).answer? (.makeDirectories store.directory) =
        some (.ok (), answering {} made) := by
      simp only [World.answer?, World.changeFiles, answering, makes]
      rfl
    exact .atOnce rfl answers
  have looking : Deed.Takes made ⟨.files, made⟩ made := by
    have answers : (answering {} made).answer? .files = some (made, answering {} made) := rfl
    exact .atOnce rfl answers
  refine ⟨⟨.makeDirectories store.directory, .ok ()⟩ :: (deeds ++ [⟨.files, made⟩]), ?_, ?_, ?_⟩
  · rw [transfer_eq]
    refine .step ?_
    change (seeking store (seek url)).Does _ _
    exact seeks.bind (does_storeResponse_of_refused fresh refused)
  · exact .deed making (Deed.leads_append_iff.mpr ⟨made, leads, .deed looking (.nothing made)⟩)
  · rw [← List.singleton_append, response?_append, response?_append, (finds_of_seek seeks).last]
    rfl

/-- What is there when the directory for downloads was made and nothing else. -/
def emptyStore : Files := { entries := [(⟨"", ["temp"]⟩, .directory)] }

theorem makes_emptyStore : ({} : Files).makeDirectories (Store.ofSettings {}).directory = .ok emptyStore := by
  have place : (Store.ofSettings {}).directory = ⟨"", ["temp"]⟩ := by decide
  rw [place]
  rfl

theorem emptyStore_isFlat : emptyStore.IsFlatAt (Store.ofSettings {}).directory.place := by
  have place : (Store.ofSettings {}).directory.place = ⟨"", ["temp"]⟩ := by decide
  apply Files.isFlatAt_of_entries
  intro entry member above
  obtain rfl := List.mem_singleton.mp member
  rw [place] at above
  exact absurd above (by decide)

/-- A response with a size above the limit. -/
theorem largeSize_settles : ∃ deeds later,
    (transfer (.ofSettings {}) "https://a.example/b.mp4").Does deeds
      (.failed (.service (.ofMessage .download "Media too large: 9.31 GB exceeds 500 MB"))) ∧
    Deed.Leads {} deeds later ∧ Destination.checkFirst "https://a.example/b.mp4".toList = .ok () ∧
    Address.checkOrigin "https://a.example/b.mp4" = .ok () ∧
    ({} : Files).makeDirectories (Store.ofSettings {}).directory = .ok emptyStore ∧
    emptyStore.IsFlatAt (Store.ofSettings {}).directory.place ∧
    ¬ Strays (.ofSettings {}) "https://a.example/b.mp4" emptyStore deeds := by
  have ends : failed? ((transfer (.ofSettings {}) "https://a.example/b.mp4").played
      (answering { headers := [("content-length", "9999999999")] } {})).2.1 =
        some (.service (.ofMessage .download "Media too large: 9.31 GB exceeds 500 MB")) := by
    decide +kernel
  have accepted : Destination.checkFirst "https://a.example/b.mp4".toList = .ok () := by decide +kernel
  have origin : Address.checkOrigin "https://a.example/b.mp4" = .ok () := by decide +kernel
  have does := Work.does_played (transfer (.ofSettings {}) "https://a.example/b.mp4")
    (answering { headers := [("content-length", "9999999999")] } {})
  rw [eq_failed_of_failed? ends] at does
  have leads := Work.leads_played (transfer (.ofSettings {}) "https://a.example/b.mp4")
    (answering { headers := [("content-length", "9999999999")] } {})
  refine ⟨_, _, does, leads, accepted, origin, makes_emptyStore, emptyStore_isFlat, ?_⟩
  rcases transfer_settles does rfl leads accepted origin makes_emptyStore emptyStore_isFlat with other | settles
  · cases other
  · exact settles.mp ⟨_, rfl⟩

theorem header?_single {value : String} (same : (name.toLower == name) = true) :
    ({ headers := [(name, value)] } : Response).header? name = some value := by
  simp only [Response.header?, List.filter_cons, same, if_true, List.filter_nil, List.map_cons, List.map_nil]
  simp

theorem checkHeaders_single {value : String} (plain : headerFault? name.toList = none)
    (sendable : headerFault? value.toList = none) :
    (Exchange.response { headers := [(name, value)] }).checkHeaders = .ok () := by
  have none : ({ headers := [(name, value)] } : Response).headerFault? = none := by
    simp only [Response.headerFault?, List.flatMap_cons, List.flatMap_nil, List.append_nil, List.findSome?_cons, plain,
      sendable, List.findSome?_nil]
  simp only [Exchange.checkHeaders, none]

theorem received_single {value : String} (other : (name.toLower == "content-encoding") = false) :
    (Exchange.response { headers := [(name, value)] }).received = .ok { headers := [(name, value)] } := by
  have none : ({ headers := [(name, value)] } : Response).header? "content-encoding" = none := by
    simp only [Response.header?, List.filter_cons, other, Bool.false_eq_true, if_false, List.filter_nil]
  have packed : ({ headers := [(name, value)] } : Response).codings = [] := by
    rw [Response.codings, none]
    decide
  simp only [Exchange.received, Response.unpacked, packed, List.getLast?_nil]

/-- The digits of a power of ten that is beyond every double. -/
def hugeDigits : List Char := '1' :: List.replicate 309 '0'

/-- A response that declares a size beyond every double. -/
def hugeResponse : Response := { headers := [("content-length", String.ofList hugeDigits)] }

theorem hugeResponse_isUnsayable : IsUnsayable (.ofSettings {}) hugeResponse := by
  have read : readInteger hugeDigits = .ok (10 ^ 309) := by decide +kernel
  have run : Text.isDigitRun hugeDigits = true := by decide +kernel
  have large : (Store.ofSettings {}).limit < ((10 ^ 309 : Nat) : Int) := by decide +kernel
  have beyond : overflowBound ≤ 10 ^ 309 := by
    unfold overflowBound
    decide +kernel
  have digits : (String.ofList hugeDigits).toList = hugeDigits := String.toList_ofList
  refine ⟨String.ofList hugeDigits, header?_single (by decide +kernel), ?_, .inr (.inr ⟨10 ^ 309, ?_, large, beyond⟩)⟩
  · rw [digits]
    exact run
  · rw [digits]
    exact (readInteger_eq_ok_iff.mp read).1

theorem exists_does_hugeResponse : ∃ deeds,
    (seek "https://a.example/b.mp4").Does deeds (.done ("b.mp4", hugeResponse)) ∧
      ∀ files, Deed.Leads files deeds files := by
  have sendable : headerFault? (String.ofList hugeDigits).toList = none := by
    rw [String.toList_ofList]
    decide +kernel
  apply exists_does_seek
  · decide +kernel
  · decide +kernel
  · exact checkHeaders_single (by decide +kernel) sendable
  · exact received_single (by decide +kernel)
  · rfl
  · rfl
  · decide +kernel

/-- A size above the limit that is beyond every double as well: the coded fault cannot even be worded. -/
theorem hugeResponse_strays : ∃ deeds fault,
    (transfer (.ofSettings {}) "https://a.example/b.mp4").Does deeds (.failed fault) ∧
    Deed.Leads {} deeds emptyStore ∧ response? deeds = some hugeResponse ∧
    Destination.checkFirst "https://a.example/b.mp4".toList = .ok () ∧
    Address.checkOrigin "https://a.example/b.mp4" = .ok () ∧
    ({} : Files).makeDirectories (Store.ofSettings {}).directory = .ok emptyStore ∧
    emptyStore.IsFlatAt (Store.ofSettings {}).directory.place ∧ ¬ IsAnswered (.failed fault : Work Stored) := by
  obtain ⟨fault, refused, other⟩ := strays_of_isUnsayable hugeResponse_isUnsayable
  obtain ⟨sought, seeks, quiet⟩ := exists_does_hugeResponse
  have fresh : emptyStore.isFile ((Store.ofSettings {}).directory / "b.mp4") = .ok false := by
    decide +kernel
  obtain ⟨deeds, does, leads, last⟩ := exists_does_of_refused makes_emptyStore seeks (quiet _) fresh refused
  exact ⟨deeds, fault, does, leads, last, by decide +kernel, by decide +kernel, makes_emptyStore, emptyStore_isFlat,
    other⟩

end Montage.Download
