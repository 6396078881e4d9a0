import Montage.Proofs.Download.Stage
import Montage.Proofs.Files.Draft
import Montage.Proofs.Work.Alone

/-! # A download alone

A download that runs alone ends in one of four ways. It ends before it has opened its temporary file, it uses the
file that it finds, it gives up the temporary file, or the body that it has received gets the name of the download.
Every one of them says what stands at each place afterwards.
-/

namespace Montage

/-- The response that came in with a deed. -/
def Deed.response? : Deed → Option Response
  | ⟨.request .., .arrived exchange⟩ => exchange.received.toOption
  | _ => none

/-- The attempt to open a file anew that a deed is, with what came of it. -/
def Deed.creation? : Deed → Option (Path × Except FileFault Nat)
  | ⟨.create path, answer⟩ => some (path, answer)
  | _ => none

namespace Download

variable {store : Store} {url name : String} {path : Path} {response : Response} {files later made : Files}
  {deeds first second : List Deed} {rest : Work Stored}

/-- The last response that came in. -/
def response? (deeds : List Deed) : Option Response := deeds.reverse.findSome? Deed.response?

/-- The attempts to open files anew, with what came of them. -/
def creations (deeds : List Deed) : List (Path × Except FileFault Nat) := deeds.filterMap Deed.creation?

/-- A call was answered by a response that is stored under a name. -/
structure Finds (url : String) (deeds : List Deed) (name : String) (response : Response) : Prop where
  last : response? deeds = some response
  named : resolveName url (response.header? "content-type") (response.header? "content-disposition") = .ok name

theorem response?_append (first second : List Deed) :
    response? (first ++ second) = (response? second).or (response? first) := by
  rw [response?, List.reverse_append, List.findSome?_append]
  rfl

theorem response?_eq_none (others : ∀ deed ∈ deeds, deed.step.isRequest = false) : response? deeds = none := by
  refine List.findSome?_eq_none_iff.mpr fun deed member => ?_
  obtain ⟨step, answer⟩ := deed
  have other := others _ (List.mem_reverse.mp member)
  cases step with
  | request => contradiction
  | _ => rfl

theorem creations_append (first second : List Deed) :
    creations (first ++ second) = creations first ++ creations second := List.filterMap_append

theorem creations_of_quiet (quiet : ∀ deed ∈ deeds, deed.step.isQuiet = true) : creations deeds = [] := by
  refine List.filterMap_eq_nil_iff.mpr fun deed member => ?_
  obtain ⟨step, answer⟩ := deed
  have quiet := quiet _ member
  cases step with
  | create => contradiction
  | _ => rfl

theorem discard_only_quiet (failure : Option String) (pieces : List ByteArray) :
    (discard failure pieces).Only (·.isQuiet = true) := by
  have received : Work.receive.Only (·.isQuiet = true) := .bind (.perform rfl) fun _ => .ofAwaited _
  induction pieces with
  | nil =>
    refine received.bind fun _ => ?_
    cases failure with
    | none => exact .done ()
    | some reason => exact .failed _
  | cons piece rest ih => exact received.bind fun _ => ih

theorem checkTarget_only_quiet (target : String) : (checkTarget target).Only (·.isQuiet = true) := by
  unfold checkTarget
  split
  · exact .failed _
  · exact .ofExcept _ _

/-- What follows a response: the redirection that it asks for, if it asks for one. -/
def follow (url : String) (left : Nat) (redirects : List String) (response : Response) : Work Response :=
  match response.redirect? with
  | none => .done response
  | some target => (checkTarget target).bind fun _ => (discard response.failure response.body).bind fun _ =>
      request url left (redirects ++ [target])

/-- What follows the answer to a request. -/
def afterExchange (url : String) (left : Nat) (redirects : List String) (exchange : Exchange) : Work Response :=
  (Work.ofExcept HeaderFault.toJob exchange.checkHeaders).bind fun _ =>
    match exchange.received with
    | .error reason => failTransport reason
    | .ok response => (Work.ofExcept AddressFault.toJob (Address.checkOrigin url)).bind fun _ =>
        follow url left redirects response

theorem request_succ (url : String) (left : Nat) (redirects : List String) : request url (left + 1) redirects =
    (Work.perform (.request url redirects)).bind fun answer =>
      (Work.ofAwaited answer).bind (afterExchange url left redirects) := rfl

theorem request_only_quiet (url : String) (left : Nat) (redirects : List String) :
    (request url left redirects).Only (·.isQuiet = true) := by
  induction left generalizing redirects with
  | zero => exact .failed _
  | succ left ih =>
    have follows (response : Response) : (follow url left redirects response).Only (·.isQuiet = true) := by
      unfold follow
      split
      · exact .done response
      · exact .bind (checkTarget_only_quiet _) fun _ => .bind (discard_only_quiet _ _) fun _ => ih _
    rw [request_succ]
    refine .bind (.perform rfl) fun answer => .bind (.ofAwaited answer) fun exchange => ?_
    refine .bind (.ofExcept _ _) fun _ => ?_
    split
    · exact .failed _
    · exact .bind (.ofExcept _ _) fun _ => follows _

/-- Seeking a response changes no files. -/
theorem seek_only_quiet (url : String) : (seek url).Only (·.isQuiet = true) := by
  refine .bind (.emit rfl) fun _ => .bind (.ofExcept _ _) fun _ => .bind (request_only_quiet _ _ _) fun response => ?_
  split
  · exact .bind (.ofExcept _ _) fun name => .bind (.emit rfl) fun _ => .done _
  · exact .failed _

/-- A request yields the last response that came in. -/
theorem response?_of_request {left : Nat} {redirects : List String}
    (does : (request url left redirects).Does deeds (.done response)) : response? deeds = some response := by
  induction left generalizing redirects deeds with
  | zero => cases does
  | succ left ih =>
    rw [request_succ] at does
    obtain ⟨answer, others, rfl, answered⟩ := Work.does_perform_bind does
    obtain ⟨exchange, rfl, arrived⟩ := Work.does_ofAwaited_bind answered
    obtain ⟨-, -, checked⟩ := Work.does_ofExcept_bind arrived
    split at checked
    · cases checked
    · next found received =>
      obtain ⟨-, -, sound⟩ := Work.does_ofExcept_bind checked
      unfold follow at sound
      split at sound
      · obtain ⟨rfl, same⟩ := sound.of_isEnded rfl
        cases same
        simp only [response?, List.reverse_singleton, List.findSome?_singleton, Deed.response?, received]
        rfl
      · obtain ⟨front, back, -, rfl, -, discarding⟩ := Work.does_bind_done sound
        obtain ⟨middle, last, -, rfl, -, again⟩ := Work.does_bind_done discarding
        rw [← List.append_assoc, ← List.cons_append, response?_append, ih again, Option.some_or]

/-- What is sought is found with the last response that came in. -/
theorem finds_of_seek (does : (seek url).Does deeds (.done (name, response))) : Finds url deeds name response := by
  have sought : ((tell s!"Starting download from URL: {url}").bind fun _ =>
      (Work.ofExcept DestinationFault.toJob (Destination.checkFirst url.toList)).bind fun _ =>
        (request url (redirectLimit + 1) []).bind fun response =>
          if response.isSuccess then
            (Work.ofExcept AddressFault.toJob (resolveName url (response.header? "content-type")
              (response.header? "content-disposition"))).bind fun name =>
                (tell s!"Fetched media metadata: {name}").bind fun _ => .done (name, response)
          else fail (s!"Download failed with HTTP {response.status}: " ++ url)).Does deeds (.done (name, response)) := does
  obtain ⟨-, others, rfl, told⟩ := Work.does_perform_bind sought
  obtain ⟨-, -, checked⟩ := Work.does_ofExcept_bind told
  obtain ⟨requested, rest, found, rfl, asked, answered⟩ := Work.does_bind_done checked
  split at answered
  · obtain ⟨resolved, named, calling⟩ := Work.does_ofExcept_bind answered
    obtain ⟨-, last, rfl, ending⟩ := Work.does_perform_bind calling
    obtain ⟨rfl, same⟩ := ending.of_isEnded rfl
    cases same
    refine ⟨?_, named⟩
    rw [← List.singleton_append, response?_append, response?_append, response?_of_request asked]
    rfl
  · cases answered

theorem writeBody_eq (number size : Nat) (pieces : List ByteArray) :
    writeBody store number response.failure size pieces =
      Work.receive.bind fun _ => afterPiece store response number size pieces := by
  cases pieces <;> rfl

/-- What becomes of a body before its next piece: the writing breaks off, the body is complete, or a piece that fits
is written. -/
inductive Round (store : Store) (response : Response) (number size : Nat) (files later : Files) (rest : Work Nat) :
    List ByteArray → List Deed → Prop
  | brokenOff {pieces : List ByteArray} {deeds : List Deed} (broken : ∀ total, rest ≠ .done total)
      (none : creations deeds = []) (same : later = files) :
      Round store response number size files later rest pieces deeds
  | complete {deeds : List Deed} (fine : response.failure = none) (done : rest = .done size)
      (none : creations deeds = []) (same : later = files) :
      Round store response number size files later rest [] deeds
  | written {piece : ByteArray} {pieces : List ByteArray} {deeds others : List Deed}
      (fits : size + piece.size ≤ store.limit) (created : creations deeds = creations others)
      (writing : (writeBody store number response.failure (size + piece.size) pieces).Does others rest)
      (goes : Deed.Leads (files.extend number piece) others later) :
      Round store response number size files later rest (piece :: pieces) deeds

theorem round_of_writeBody {number size : Nat} {pieces : List ByteArray} {rest : Work Nat}
    (does : (writeBody store number response.failure size pieces).Does deeds rest) (ended : rest.isEnded = true)
    (leads : Deed.Leads files deeds later) : Round store response number size files later rest pieces deeds := by
  rw [writeBody_eq] at does
  rcases Work.alone_receive_bind does ended leads with ⟨rfl, rfl, rfl⟩ | ⟨others, rfl, arrived, goes⟩
  · exact .brokenOff (by rintro _ ⟨⟩) rfl rfl
  · cases pieces with
    | nil =>
      rw [afterPiece] at arrived
      split at arrived
      · obtain ⟨rfl, rfl⟩ := arrived.of_isEnded rfl
        cases goes
        exact .brokenOff (by rintro _ ⟨⟩) rfl rfl
      · next fine =>
        obtain ⟨rfl, rfl⟩ := arrived.of_isEnded rfl
        cases goes
        exact .complete fine rfl rfl rfl
    | cons piece pieces =>
      rw [afterPiece] at arrived
      split at arrived
      · obtain ⟨rfl, rfl⟩ := arrived.of_isEnded rfl
        cases goes
        exact .brokenOff (by rintro _ ⟨⟩) rfl rfl
      · next fits =>
        obtain ⟨answer, others, rfl, writing⟩ := (Work.does_ask_iff ended).mp arrived
        cases goes with
        | deed takes goes =>
          obtain rfl := takes.extend
          refine .written (Int.not_lt.mp fits) ?_ writing goes
          rfl

/-- While a body is written, its draft holds what has arrived. It holds the whole body if the writing succeeds. -/
theorem draft_of_writeBody {draft : Path} {number size : Nat} {written : ByteArray} {pieces : List ByteArray}
    {base : Files} {rest : Work Nat} (drafts : base.IsDraft files draft number written) (same : size = written.size)
    (does : (writeBody store number response.failure size pieces).Does deeds rest) (ended : rest.isEnded = true)
    (leads : Deed.Leads files deeds later) : creations deeds = [] ∧ ∃ whole, base.IsDraft later draft number whole ∧
      ∀ total, rest = .done total → response.failure = none ∧ whole = written ++ joined pieces ∧
        total = whole.size ∧ (total ≤ store.limit ∨ pieces = []) := by
  induction pieces generalizing files size written deeds with
  | nil =>
    cases round_of_writeBody does ended leads with
    | brokenOff broken none unchanged =>
      subst unchanged
      exact ⟨none, written, drafts, fun total done => absurd done (broken total)⟩
    | complete fine done none unchanged =>
      subst unchanged done
      refine ⟨none, written, drafts, ?_⟩
      rintro _ ⟨rfl⟩
      exact ⟨fine, ByteArray.append_empty.symm, same, .inr rfl⟩
  | cons piece pieces ih =>
    cases round_of_writeBody does ended leads with
    | brokenOff broken none unchanged =>
      subst unchanged
      exact ⟨none, written, drafts, fun total done => absurd done (broken total)⟩
    | written fits created writing goes =>
      have longer : size + piece.size = (written ++ piece).size := by rw [same, ByteArray.size_append]
      obtain ⟨none, whole, holds, complete⟩ := ih (drafts.extend piece) longer writing goes
      refine ⟨created.trans none, whole, holds, fun total done => ?_⟩
      obtain ⟨fine, full, size, limit⟩ := complete total done
      refine ⟨fine, full.trans (ByteArray.append_assoc ..), size, .inl ?_⟩
      rcases limit with below | rfl
      · exact below
      · -- The last piece: the limit was checked with it.
        have last : written ++ piece ++ joined [] = written ++ piece := ByteArray.append_empty
        rw [size, full, last, ← longer]
        exact fits

/-- What storing a body under a path comes to: the temporary file is not even opened, or it cannot be, or it is given
up in the end, or it gets the path. -/
inductive Writes {α : Type} (store : Store) (path : Path) (response : Response) (files : Files) (value : Nat → α) :
    List (Path × Except FileFault Nat) → Work α → Files → Prop
  | unopened {rest : Work α} (broken : ∀ found, rest ≠ .done found) :
      Writes store path response files value [] rest files
  | refused {rest : Work α} {fault : FileFault} (broken : ∀ found, rest ≠ .done found)
      (nothing : files.content? path.temporary = none) :
      Writes store path response files value [(path.temporary, .error fault)] rest files
  | givenUp {rest : Work α} {number : Nat} {later : Files} (broken : ∀ found, rest ≠ .done found)
      (named : path.name ≠ "") (loses : files.Loses later path.temporary.place) :
      Writes store path response files value [(path.temporary, .ok number)] rest later
  | stored {number : Nat} {later : Files} (named : path.name ≠ "") (complete : response.failure = none)
      (limit : (joined response.body).size ≤ store.limit ∨ response.body = [])
      (content : later.content? path = some (joined response.body))
      (gone : later.node? path.temporary.place = none)
      (others : ∀ other, other ≠ path.place → other ≠ path.temporary.place → later.node? other = files.node? other) :
      Writes store path response files value [(path.temporary, .ok number)]
        (.done (value (joined response.body).size)) later

/-- What comes to nothing else comes to nothing in the end. -/
theorem Writes.of_breaks {α β : Type} {value : Nat → α} {other : Nat → β} {created : List (Path × Except FileFault Nat)}
    {left : Work α} {rest : Work β} (writes : Writes store path response files value created left later)
    (breaks : left.Breaks rest) : Writes store path response files other created rest later := by
  cases writes with
  | unopened => exact .unopened breaks.ne_done
  | refused _ nothing => exact .refused breaks.ne_done nothing
  | givenUp _ named loses => exact .givenUp breaks.ne_done named loses
  | stored => cases breaks

/-- What storing a body has come to before it removes its temporary file. -/
inductive Drafts (store : Store) (path : Path) (response : Response) (files : Files) :
    List (Path × Except FileFault Nat) → Work Nat → Files → Prop
  | refused {rest : Work Nat} {fault : FileFault} (broken : ∀ size, rest ≠ .done size)
      (refused : files.create path.temporary = .error fault) :
      Drafts store path response files [(path.temporary, .error fault)] rest files
  | opened {rest : Work Nat} {number : Nat} {written : ByteArray} {later : Files} (broken : ∀ size, rest ≠ .done size)
      (drafts : files.IsDraft later path.temporary number written) :
      Drafts store path response files [(path.temporary, .ok number)] rest later
  | renamed {number : Nat} {between later : Files} (complete : response.failure = none)
      (limit : (joined response.body).size ≤ store.limit ∨ response.body = [])
      (drafts : files.IsDraft between path.temporary number (joined response.body))
      (renamed : between.rename path.temporary path = .ok later) :
      Drafts store path response files [(path.temporary, .ok number)] (.done (joined response.body).size) later

theorem Writes.of_done {β : Type} {other : Nat → β} {created : List (Path × Except FileFault Nat)} {size : Nat}
    (writes : Writes store path response files id created (.done size) later) :
    Writes store path response files other created (.done (other size)) later := by
  cases writes with
  | unopened broken | refused broken | givenUp broken => exact absurd rfl (broken size)
  | stored named complete limit content gone others => exact .stored named complete limit content gone others

theorem drafts_of_storeBody {rest : Work Nat} (ended : rest.isEnded = true) (leads : Deed.Leads files deeds later)
    (does : ((Work.create path.temporary).bind fun number =>
      (writeBody store number response.failure 0 response.body).bind fun size =>
        (Work.rename path.temporary path).bind fun _ => .done size).Does deeds rest) :
    Drafts store path response files (creations deeds) rest later := by
  obtain ⟨answer, others, rfl, creating⟩ := (Work.does_ask_iff ended).mp does
  cases leads with
  | deed takes leads =>
    rcases takes.create with ⟨number, rfl, created⟩ | ⟨fault, rfl, refused, rfl⟩
    · have drafts := Files.isDraft_create created
      have begun : ((writeBody store number response.failure 0 response.body).bind fun size =>
          (Work.rename path.temporary path).bind fun _ => .done size).Does others rest := creating
      have created (none : creations others = []) :
          creations (⟨.create path.temporary, .ok number⟩ :: others) = [(path.temporary, .ok number)] := by
        change _ :: creations others = _
        rw [none]
      rcases (Work.does_bind_iff ended).mp begun with
        ⟨first, second, size, rfl, writing, naming⟩ | ⟨left, writing, breaks⟩
      · obtain ⟨between, goes, moves⟩ := Deed.leads_append_iff.mp leads
        obtain ⟨none, whole, holds, complete⟩ := draft_of_writeBody drafts rfl writing rfl goes
        obtain ⟨fine, full, rfl, limit⟩ := complete size rfl
        obtain rfl : whole = joined response.body := full.trans ByteArray.empty_append
        obtain ⟨answer, last, rfl, moving⟩ := (Work.does_ask_iff ended).mp naming
        cases moves with
        | deed takes ends =>
          rcases takes.rename with ⟨rfl, renamed⟩ | ⟨fault, rfl, -, rfl⟩
          · obtain ⟨rfl, rfl⟩ := moving.of_isEnded rfl
            cases ends
            rw [created (by rw [creations_append, none]; rfl)]
            exact .renamed fine limit holds renamed
          · obtain ⟨rfl, rfl⟩ := moving.of_isEnded rfl
            cases ends
            rw [created (by rw [creations_append, none]; rfl)]
            exact .opened nofun holds
      · obtain ⟨none, whole, holds, -⟩ := draft_of_writeBody drafts rfl writing breaks.isEnded_left leads
        rw [created none]
        exact .opened breaks.ne_done holds
    · obtain ⟨rfl, rfl⟩ := creating.of_isEnded rfl
      cases leads
      exact .refused nofun refused

theorem writes_of_storeBody {rest : Work Nat} (does : (storeBody store path response).Does deeds rest)
    (ended : rest.isEnded = true) (leads : Deed.Leads files deeds later) :
    Writes store path response files id (creations deeds) rest later := by
  by_cases named : path.name = ""
  · unfold storeBody partialPath at does
    rw [if_pos named] at does
    obtain ⟨rfl, rfl⟩ := does.of_isEnded rfl
    cases leads
    exact .unopened nofun
  · rw [storeBody_eq named] at does
    obtain ⟨first, second, left, rfl, stopped, storing, removing⟩ := Work.does_ensuring does ended
    obtain ⟨between, goes, removes⟩ := Deed.leads_append_iff.mp leads
    obtain ⟨answer, others, rfl, ending⟩ := (Work.does_ask_iff ended).mp removing
    obtain ⟨rfl, rfl⟩ := ending.of_isEnded stopped
    have created : creations (first ++ [⟨.remove path.temporary, answer⟩]) = creations first := by
      rw [creations_append]
      exact List.append_nil _
    rw [created]
    cases removes with
    | deed takes ends =>
      cases ends
      obtain rfl := takes.remove
      have drafts := drafts_of_storeBody stopped goes storing
      generalize creations first = created at drafts ⊢
      cases drafts with
      | refused broken refused =>
        have nothing := Files.content?_remove files path.temporary
        rw [Files.remove_of_create_error refused] at nothing ⊢
        exact .refused broken nothing
      | opened broken drafts => exact .givenUp broken named drafts.remove
      | renamed complete limit drafts renamed =>
        obtain ⟨found, gone, others⟩ := drafts.rename renamed (Path.temporary_place_ne named)
        refine .stored named complete limit ?_ ?_ fun other fromPath fromTemporary => ?_
        · exact Files.content?_remove_of_none gone found
        · exact Files.node?_remove_of_none gone
        · exact (Files.node?_remove_of_ne fromTemporary).trans (others other fromPath fromTemporary)

/-- A file that is there already is used as it is. -/
def Reuses (store : Store) (name : String) (files : Files) (created : List (Path × Except FileFault Nat))
    (rest : Work Stored) (later : Files) : Prop :=
  ∃ content, files.find (store.directory / name) = .ok (.file content) ∧ created = [] ∧
    rest = .done ⟨store.directory / name, name, content.size, true⟩ ∧ later = files

theorem alone_tell_bind {message : String} {next : Unit → Work Stored}
    (does : ((tell message).bind next).Does deeds rest) (ended : rest.isEnded = true)
    (leads : Deed.Leads files deeds later) : ∃ others, creations deeds = creations others ∧
      (next ()).Does others rest ∧ Deed.Leads files others later := by
  obtain ⟨_, others, rfl, -, told, goes⟩ := Work.alone_ask_quiet does ended leads rfl
  exact ⟨others, rfl, told, goes⟩

theorem reuses_of_find {content : ByteArray} (found : files.find (store.directory / name) = .ok (.file content))
    (does : ((tell s!"File already exists, skipping download: {name}").bind fun _ => Work.files.bind fun seen =>
      (Work.ofExcept FileFault.toJob (seen.size (store.directory / name))).bind fun size =>
        .done ⟨store.directory / name, name, size, true⟩).Does deeds rest)
    (ended : rest.isEnded = true) (leads : Deed.Leads files deeds later) :
    Reuses store name files (creations deeds) rest later := by
  obtain ⟨others, created, told, goes⟩ := alone_tell_bind does ended leads
  obtain ⟨last, rfl, looked, ends⟩ := Work.alone_files_bind told ended goes
  have size : files.size (store.directory / name) = .ok content.size := by
    unfold Files.size
    rw [found]
    rfl
  rw [size] at looked
  obtain ⟨rfl, rfl⟩ := looked.of_isEnded rfl
  cases ends
  exact ⟨content, found, created, rfl, rfl⟩

/-- A fresh response comes to what storing its body comes to, unless it declares too large a size. -/
theorem writes_of_fresh (does : ((checkDeclared store response).bind fun _ =>
      (tell s!"Streaming media to: {name}").bind fun _ =>
        (storeBody store (store.directory / name) response).bind fun size =>
          (tell s!"Successfully downloaded: {name}").bind fun _ =>
            .done ⟨store.directory / name, name, size, false⟩).Does deeds rest)
    (ended : rest.isEnded = true) (leads : Deed.Leads files deeds later) :
    Writes store (store.directory / name) response files
      (fun size => Stored.mk (store.directory / name) name size false) (creations deeds) rest later := by
  rcases checkDeclared_isDecided store response with ⟨_, fine⟩ | ⟨fault, large⟩
  · rw [fine] at does
    obtain ⟨others, created, told, goes⟩ := alone_tell_bind does ended leads
    rw [created]
    rcases (Work.does_bind_iff ended).mp told with
      ⟨first, second, size, rfl, storing, succeeding⟩ | ⟨left, storing, breaks⟩
    · obtain ⟨between, stores, ends⟩ := Deed.leads_append_iff.mp goes
      obtain ⟨last, quiet, done, stopped⟩ := alone_tell_bind succeeding ended ends
      obtain ⟨rfl, rfl⟩ := done.of_isEnded rfl
      cases stopped
      rw [creations_append, quiet]
      rw [show creations [] = [] from rfl, List.append_nil]
      exact (writes_of_storeBody storing rfl stores).of_done
    · exact (writes_of_storeBody storing breaks.isEnded_left goes).of_breaks breaks
  · rw [large] at does
    obtain ⟨rfl, rfl⟩ := does.of_isEnded rfl
    cases leads
    exact .unopened nofun

/-- What a response comes to that is stored under a name. -/
theorem writes_or_reuses (does : (storeResponse store name response).Does deeds rest)
    (ended : rest.isEnded = true) (leads : Deed.Leads files deeds later) :
    Writes store (store.directory / name) response files
        (fun size => Stored.mk (store.directory / name) name size false) (creations deeds) rest later ∨
      Reuses store name files (creations deeds) rest later := by
  obtain ⟨others, rfl, looked, goes⟩ := Work.alone_isFile_bind does ended leads
  have created : creations (⟨.files, files⟩ :: others) = creations others := rfl
  rw [created]
  cases look : files.isFile (store.directory / name) with
  | error fault =>
    rw [look] at looked
    obtain ⟨rfl, rfl⟩ := looked.of_isEnded rfl
    cases goes
    exact .inl (.unopened nofun)
  | ok there =>
    rw [look] at looked
    cases there with
    | true =>
      obtain ⟨content, found⟩ := Files.find_of_isFile look
      exact .inr (reuses_of_find found looked ended goes)
    | false => exact .inl (writes_of_fresh looked ended goes)

theorem writeBody_only_own (number size : Nat) (pieces : List ByteArray) :
    (writeBody store number response.failure size pieces).Only (·.isRequest = false) := by
  have received : Work.receive.Only (·.isRequest = false) := .bind (.perform rfl) fun _ => .ofAwaited _
  induction pieces generalizing size with
  | nil =>
    refine received.bind fun _ => ?_
    cases response.failure with
    | none => exact .done size
    | some reason => exact .failed _
  | cons piece rest ih =>
    refine received.bind fun _ => ?_
    dsimp only
    split
    · exact .failed _
    · exact .bind (.perform rfl) fun _ => ih _

theorem storeBody_only_own (store : Store) (path : Path) (response : Response) :
    (storeBody store path response).Only (·.isRequest = false) := by
  have named : (partialPath path).Only (·.isRequest = false) := by
    unfold partialPath
    split
    · exact .failed _
    · exact .done _
  refine named.bind fun temporary => .ensuring (.perform rfl) ?_
  exact .bind (.bind (.perform rfl) fun _ => .ofExcept _ _) fun number =>
    .bind (writeBody_only_own number _ _) fun _ =>
      .bind (.bind (.perform rfl) fun _ => .ofExcept _ _) fun _ => .done _

/-- A response is stored without another request. -/
theorem storeResponse_only_own (store : Store) (name : String) (response : Response) :
    (storeResponse store name response).Only (·.isRequest = false) := by
  refine .bind (.bind (.perform rfl) fun _ => .ofExcept _ _) fun there => ?_
  cases there with
  | true =>
    exact .bind (.emit rfl) fun _ => .bind (.perform rfl) fun _ => .bind (.ofExcept _ _) fun _ => .done _
  | false =>
    refine .bind ?_ fun _ => .bind (.emit rfl) fun _ => .bind (storeBody_only_own _ _ _) fun _ =>
      .bind (.emit rfl) fun _ => .done _
    rcases checkDeclared_isDecided store response with ⟨_, fine⟩ | ⟨_, large⟩
    · rw [fine]; exact .done _
    · rw [large]; exact .failed _

/-- What a call comes to that runs alone: it ends before it has found a response that it can store, or it has found
one. -/
inductive Course (store : Store) (url : String) (files : Files) (deeds : List Deed) : Work Stored → Files → Prop
  | before {rest : Work Stored} (broken : ∀ stored, rest ≠ .done stored) (none : creations deeds = []) :
      Course store url files deeds rest files
  | writes {name : String} {response : Response} {rest : Work Stored} {later : Files}
      (finds : Finds url deeds name response)
      (writes : Writes store (store.directory / name) response files
        (fun size => Stored.mk (store.directory / name) name size false) (creations deeds) rest later) :
      Course store url files deeds rest later
  | reuses {name : String} {response : Response} {rest : Work Stored} {later : Files}
      (finds : Finds url deeds name response) (reuses : Reuses store name files (creations deeds) rest later) :
      Course store url files deeds rest later

/-- What a call comes to, once it has made the directory for downloads or could not make it. -/
theorem course_of_transfer (does : (transfer store url).Does deeds rest) (ended : rest.isEnded = true)
    (leads : Deed.Leads files deeds later) :
    ∃ made, (∀ place, files.Stays made store.directory.placesOnWay place) ∧
      Course store url made deeds rest later := by
  rw [transfer_eq] at does
  obtain ⟨answer, others, rfl, making⟩ := (Work.does_ask_iff ended).mp does
  cases leads with
  | deed takes goes =>
    rcases takes.makeDirectories with ⟨rfl, made⟩ | ⟨fault, rfl, -, rfl⟩
    · refine ⟨_, Files.stays_makeDirectories made, ?_⟩
      have sought : (seeking store (seek url)).Does others rest := making
      rcases (Work.does_bind_iff ended).mp sought with
        ⟨first, second, ⟨name, response⟩, rfl, seeks, stores⟩ | ⟨left, seeks, breaks⟩
      · obtain ⟨between, quiet, ends⟩ := Deed.leads_append_iff.mp goes
        have silent := (seek_only_quiet url).does seeks
        obtain rfl := quiet.quiet silent
        obtain ⟨last, named⟩ := finds_of_seek seeks
        have own := (storeResponse_only_own store name response).does stores
        have finds : Finds url (⟨.makeDirectories store.directory, .ok ()⟩ :: (first ++ second)) name response := by
          refine ⟨?_, named⟩
          rw [← List.cons_append, response?_append, response?_eq_none own, Option.none_or, ← List.singleton_append,
            response?_append, last, Option.some_or]
        have created : creations (⟨.makeDirectories store.directory, .ok ()⟩ :: (first ++ second)) =
            creations second := by
          change creations (first ++ second) = creations second
          rw [creations_append, creations_of_quiet silent, List.nil_append]
        rcases writes_or_reuses stores ended ends with writes | reuses
        · exact .writes finds (created ▸ writes)
        · exact .reuses finds (created ▸ reuses)
      · have silent := (seek_only_quiet url).does seeks
        obtain rfl := goes.quiet silent
        have none : creations others = [] := creations_of_quiet silent
        exact .before breaks.ne_done none
    · refine ⟨_, fun _ => .inl rfl, ?_⟩
      obtain ⟨rfl, rfl⟩ := making.of_isEnded rfl
      cases goes
      exact .before nofun rfl

end Download

end Montage
