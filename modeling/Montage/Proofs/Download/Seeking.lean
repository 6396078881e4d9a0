import Montage.Proofs.Download.Atomic
import Montage.Proofs.Download.FileName

/-! # Seeking a response

A call goes from answer to answer until one is no redirection, and gives it a name. It may be refused on the way, with
the coded fault of downloads; or an answer leads it astray; or the last one has no name, since its header gives none
and the address cannot be read.
-/

namespace Montage

/-- What came in with a deed. -/
def Deed.exchange? : Deed → Option Exchange
  | ⟨.request .., .arrived exchange⟩ => some exchange
  | _ => none

namespace Work

variable {α β : Type} {allowed : JobFault → Prop}

/-- A work that fails with faults of one kind only, whatever it is answered. -/
inductive FailsOnly (allowed : JobFault → Prop) : Work α → Prop
  | done (value : α) : FailsOnly allowed (.done value)
  | failed {fault : JobFault} (fits : allowed fault) : FailsOnly allowed (.failed fault)
  | cancelled : FailsOnly allowed .cancelled
  | ask {step : Step} {next : step.Answer → Work α} (later : ∀ answer, FailsOnly allowed (next answer)) :
      FailsOnly allowed (.ask step next)

namespace FailsOnly

theorem bind {work : Work α} {f : α → Work β} (first : work.FailsOnly allowed)
    (second : ∀ value, (f value).FailsOnly allowed) : (work.bind f).FailsOnly allowed := by
  induction first with
  | done value => exact second value
  | failed fits => exact .failed fits
  | cancelled => exact .cancelled
  | ask _ ih => exact .ask ih

theorem receive : Work.receive.FailsOnly allowed := by
  refine .ask fun answer => ?_
  cases answer with
  | arrived => exact .done ()
  | cancelled => exact .cancelled

theorem of_does {work : Work α} {deeds : List Deed} {fault : JobFault} (fails : work.FailsOnly allowed)
    (does : work.Does deeds (.failed fault)) : allowed fault := by
  generalize last : Work.failed fault = rest at does
  induction does with
  | nothing =>
    subst last
    cases fails with
    | failed fits => exact fits
  | step _ ih =>
    cases fails with
    | ask later => exact ih (later _) last

end FailsOnly

end Work

namespace Download

variable {url name : String} {response : Response} {deeds first second : List Deed}

/-- The headers of a response cannot be sent, or it leads to an address that lacks its host and cannot borrow one. -/
def Astray (exchange : Exchange) : Prop := exchange.checkHeaders ≠ .ok () ∨
  ∃ response target, exchange.received = .ok response ∧ response.redirect? = some target ∧
    Destination.check target.toList = .ok () ∧ Destination.checkBorrowed target.toList ≠ .ok ()

/-- Something that leads astray came in. -/
def IsLedAstray (deeds : List Deed) : Prop :=
  ∃ deed ∈ deeds, ∃ exchange, deed.exchange? = some exchange ∧ Astray exchange

theorem isLedAstray_append : IsLedAstray (first ++ second) ↔ IsLedAstray first ∨ IsLedAstray second := by
  simp only [IsLedAstray, List.mem_append, or_and_right, exists_or]

theorem not_isLedAstray_of_own (own : ∀ deed ∈ deeds, deed.step.isRequest = false) : ¬ IsLedAstray deeds := by
  rintro ⟨⟨step, answer⟩, member, exchange, came, -⟩
  have other := own _ member
  cases step with
  | request => contradiction
  | _ => cases came

theorem isLedAstray_arrived {redirects : List String} {exchange : Exchange} :
    IsLedAstray [⟨.request url redirects, .arrived exchange⟩] ↔ Astray exchange := by
  constructor
  · rintro ⟨_, member, found, came, astray⟩
    obtain rfl := List.mem_singleton.mp member
    obtain rfl := Option.some.inj came
    exact astray
  · intro astray
    exact ⟨_, List.mem_singleton_self _, exchange, rfl, astray⟩

theorem response?_arrived {redirects : List String} {exchange : Exchange} :
    response? [⟨.request url redirects, .arrived exchange⟩] = exchange.received.toOption := by
  simp only [response?, List.reverse_singleton, List.findSome?_singleton, Deed.response?]

theorem not_isSuccess_of_redirect {target : String} (sent : response.redirect? = some target) :
    response.isSuccess = false := by
  unfold Response.redirect? at sent
  split at sent
  · next moved =>
    have known : ∀ status ∈ [301, 302, 303, 307, 308],
        (decide (200 ≤ status) && decide (status ≤ 299)) = false := by decide
    exact known _ (List.contains_iff_mem.mp moved)
  · cases sent

theorem discard_only_own (failure : Option String) (pieces : List ByteArray) :
    (discard failure pieces).Only (·.isRequest = false) := by
  have received : Work.receive.Only (·.isRequest = false) := .bind (.perform rfl) fun _ => .ofAwaited _
  induction pieces with
  | nil =>
    refine received.bind fun _ => ?_
    cases failure with
    | none => exact .done ()
    | some reason => exact .failed _
  | cons piece rest ih => exact received.bind fun _ => ih

theorem discard_failsOnly (failure : Option String) (pieces : List ByteArray) :
    (discard failure pieces).FailsOnly IsDownloadFault := by
  induction pieces with
  | nil =>
    refine .bind .receive fun _ => ?_
    cases failure with
    | none => exact .done ()
    | some reason => exact .failed ⟨_, rfl⟩
  | cons piece rest ih => exact .bind .receive fun _ => ih

/-- What a request comes to: it was cancelled, it has yielded the last response that came in, it was refused with the
coded fault and without a successful response, or something has led it astray. -/
inductive Asks (deeds : List Deed) : Work Response → Prop
  | cancelled : Asks deeds .cancelled
  | yields {response : Response} (fine : ¬ IsLedAstray deeds) (last : response? deeds = some response) :
      Asks deeds (.done response)
  | refused {fault : JobFault} (coded : IsDownloadFault fault) (fine : ¬ IsLedAstray deeds)
      (unmet : ∀ response, response? deeds = some response → response.isSuccess = false) : Asks deeds (.failed fault)
  | astray {fault : JobFault} (other : ¬ IsDownloadFault fault) (astray : IsLedAstray deeds) :
      Asks deeds (.failed fault)

/-- A request goes on after an answer that has not led it astray, and that was not its last one. -/
theorem Asks.after {rest : Work Response} (asks : Asks second rest) (fine : ¬ IsLedAstray first)
    (unmet : ∀ response, response? first = some response → response.isSuccess = false) :
    Asks (first ++ second) rest := by
  have same : IsLedAstray (first ++ second) ↔ IsLedAstray second := by
    rw [isLedAstray_append, or_iff_right fine]
  cases asks with
  | cancelled => exact .cancelled
  | yields others last => exact .yields (mt same.mp others) (by rw [response?_append, last, Option.some_or])
  | refused coded others unsuccessful =>
    refine .refused coded (mt same.mp others) fun response last => ?_
    rw [response?_append] at last
    rcases Option.or_eq_some_iff.mp last with later | ⟨-, early⟩
    · exact unsuccessful response later
    · exact unmet response early
  | astray other astray => exact .astray other (same.mpr astray)

/-- What a request comes to that is sent on. -/
theorem asks_of_target {left : Nat} {redirects : List String} {exchange : Exchange} {target : String}
    {rest : Work Response} (headers : exchange.checkHeaders = .ok ()) (received : exchange.received = .ok response)
    (sent : response.redirect? = some target) (ended : rest.isEnded = true)
    (again : ∀ deeds, (request url left (redirects ++ [target])).Does deeds rest → Asks deeds rest)
    (does : ((checkTarget target).bind fun _ => (discard response.failure response.body).bind fun _ =>
      request url left (redirects ++ [target])).Does deeds rest) :
    Asks (⟨.request url redirects, .arrived exchange⟩ :: deeds) rest := by
  have unmet : ∀ answer, response? [⟨.request url redirects, .arrived exchange⟩] = some answer →
      answer.isSuccess = false := by
    intro answer last
    rw [response?_arrived, received] at last
    obtain rfl := Option.some.inj last
    exact not_isSuccess_of_redirect sent
  have fine (passes : Destination.check target.toList = .ok () → Destination.checkBorrowed target.toList = .ok ()) :
      ¬ IsLedAstray [⟨.request url redirects, .arrived exchange⟩] := by
    intro led
    rcases isLedAstray_arrived.mp led with other | ⟨answer, moved, same, there, checked, detached⟩
    · exact other headers
    · obtain rfl := Except.ok.inj (received.symm.trans same)
      obtain rfl := Option.some.inj (sent.symm.trans there)
      exact detached (passes checked)
  unfold checkTarget at does
  cases checked : Destination.check target.toList with
  | error fault =>
    rw [checked] at does
    obtain ⟨rfl, rfl⟩ := does.of_isEnded rfl
    exact .refused ⟨_, rfl⟩ (fine (checked ▸ nofun)) unmet
  | ok =>
    rw [checked] at does
    cases borrowed : Destination.checkBorrowed target.toList with
    | error fault =>
      rw [borrowed] at does
      obtain ⟨rfl, rfl⟩ := does.of_isEnded rfl
      refine .astray (not_isDownloadFault_plain _ _) (isLedAstray_arrived.mpr (.inr ?_))
      exact ⟨response, target, received, sent, checked, borrowed ▸ nofun⟩
    | ok =>
      rw [borrowed] at does
      have discarding : ((discard response.failure response.body).bind fun _ =>
        request url left (redirects ++ [target])).Does deeds rest := does
      -- What is discarded is answered without another request.
      have dropping {dropped : List Deed} {left : Work Unit}
          (discards : (discard response.failure response.body).Does dropped left) :
          ¬ IsLedAstray (⟨.request url redirects, .arrived exchange⟩ :: dropped) ∧
            ∀ answer, response? (⟨.request url redirects, .arrived exchange⟩ :: dropped) = some answer →
              answer.isSuccess = false := by
        have own := (discard_only_own response.failure response.body).does discards
        constructor
        · rw [← List.singleton_append, isLedAstray_append, not_or]
          exact ⟨fine fun _ => borrowed, not_isLedAstray_of_own own⟩
        · intro answer last
          rw [← List.singleton_append, response?_append, response?_eq_none own, Option.none_or] at last
          exact unmet answer last
      rcases (Work.does_bind_iff ended).mp discarding with
        ⟨dropped, others, _, rfl, discards, asks⟩ | ⟨left, discards, breaks⟩
      · obtain ⟨fine, unmet⟩ := dropping discards
        exact Asks.after (again others asks) fine unmet
      · obtain ⟨fine, unmet⟩ := dropping discards
        cases breaks with
        | cancelled => exact .cancelled
        | failed fault => exact .refused ((discard_failsOnly _ _).of_does discards) fine unmet

theorem asks_of_request (origin : Address.checkOrigin url = .ok ()) {left : Nat} {redirects : List String}
    {rest : Work Response} (does : (request url left redirects).Does deeds rest) (ended : rest.isEnded = true) :
    Asks deeds rest := by
  induction left generalizing redirects deeds with
  | zero =>
    obtain ⟨rfl, rfl⟩ := does.of_isEnded rfl
    exact .refused ⟨_, rfl⟩ (by rintro ⟨_, member, -⟩; cases member) nofun
  | succ left ih =>
    rw [request_succ] at does
    obtain ⟨answer, others, rfl, answered⟩ := (Work.does_ask_iff ended).mp does
    rcases Work.does_ofAwaited_iff.mp answered with ⟨rfl, rfl, rfl⟩ | ⟨exchange, rfl, arrived⟩
    · exact .cancelled
    have astray : IsLedAstray [⟨.request url redirects, .arrived exchange⟩] ↔ Astray exchange := isLedAstray_arrived
    have last : response? [⟨.request url redirects, .arrived exchange⟩] = exchange.received.toOption :=
      response?_arrived
    unfold afterExchange at arrived
    cases headers : exchange.checkHeaders with
    | error fault =>
      rw [headers] at arrived
      obtain ⟨rfl, rfl⟩ := arrived.of_isEnded rfl
      exact .astray (not_isDownloadFault_plain _ _) (astray.mpr (.inl (headers ▸ nofun)))
    | ok =>
      rw [headers, origin] at arrived
      cases received : exchange.received with
      | error reason =>
        rw [received] at arrived last
        obtain ⟨rfl, rfl⟩ := arrived.of_isEnded rfl
        refine .refused ⟨_, rfl⟩ (fun led => ?_) (last ▸ nofun)
        rcases astray.mp led with other | ⟨response, -, same, -⟩
        · exact other headers
        · cases received.symm.trans same
      | ok response =>
        rw [received] at arrived last
        have found : (follow url left redirects response).Does others rest := arrived
        unfold follow at found
        cases sent : response.redirect? with
        | none =>
          rw [sent] at found
          obtain ⟨rfl, rfl⟩ := found.of_isEnded rfl
          refine .yields (fun led => ?_) last
          rcases astray.mp led with other | ⟨answer, target, same, moved, -⟩
          · exact other headers
          · obtain rfl := Except.ok.inj (received.symm.trans same)
            cases sent.symm.trans moved
        | some target =>
          rw [sent] at found
          exact asks_of_target headers received sent ended (fun deeds again => ih again) found

/-- What seeking a response comes to. -/
inductive Seeks (url : String) (deeds : List Deed) : Work (String × Response) → Prop
  | cancelled : Seeks url deeds .cancelled
  | finds {name : String} {response : Response} (fine : ¬ IsLedAstray deeds) (finds : Finds url deeds name response)
      (success : response.isSuccess = true) : Seeks url deeds (.done (name, response))
  | refused {fault : JobFault} (coded : IsDownloadFault fault) (fine : ¬ IsLedAstray deeds)
      (unmet : ∀ response, response? deeds = some response → response.isSuccess = false) :
      Seeks url deeds (.failed fault)
  | astray {fault : JobFault} (other : ¬ IsDownloadFault fault) (astray : IsLedAstray deeds) :
      Seeks url deeds (.failed fault)
  | nameless {fault : JobFault} {response : Response} (other : ¬ IsDownloadFault fault)
      (last : response? deeds = some response) (success : response.isSuccess = true)
      (unnamed : headerName? (response.header? "content-disposition") = none)
      (unreadable : ∀ path, Address.path url.toList ≠ .ok path) : Seeks url deeds (.failed fault)

/-- What follows the last response: it gets its name. -/
def naming (url : String) (response : Response) : Work (String × Response) :=
  if response.isSuccess then
    (Work.ofExcept AddressFault.toJob (resolveName url (response.header? "content-type")
      (response.header? "content-disposition"))).bind fun name =>
        (tell s!"Fetched media metadata: {name}").bind fun _ => .done (name, response)
  else fail (s!"Download failed with HTTP {response.status}: " ++ url)

theorem seek_eq (accepted : Destination.checkFirst url.toList = .ok ()) : seek url =
    (tell s!"Starting download from URL: {url}").bind fun _ =>
      (request url (redirectLimit + 1) []).bind (naming url) := by
  unfold seek
  rw [accepted]
  rfl

theorem seeking_only_quiet (url : String) :
    ((request url (redirectLimit + 1) []).bind (naming url)).Only (·.isQuiet = true) := by
  refine .bind (request_only_quiet _ _ _) fun response => ?_
  unfold naming
  split
  · exact .bind (.ofExcept _ _) fun name => .bind (.emit rfl) fun _ => .done _
  · exact .failed _

theorem seeks_of_naming {rest : Work (String × Response)} (fine : ¬ IsLedAstray first)
    (last : response? first = some response) (does : (naming url response).Does second rest)
    (ended : rest.isEnded = true) : Seeks url (first ++ second) rest := by
  unfold naming at does
  split at does
  · next success =>
    cases named : resolveName url (response.header? "content-type") (response.header? "content-disposition") with
    | error fault =>
      rw [named] at does
      obtain ⟨rfl, rfl⟩ := does.of_isEnded rfl
      have unread : ¬ (headerName? (response.header? "content-disposition") = none →
          ∃ path, Address.path url.toList = .ok path) := by
        intro readable
        obtain ⟨name, found⟩ := isOk_resolveName_iff.mpr readable
        cases named.symm.trans found
      obtain ⟨unnamed, unreadable⟩ := Classical.not_imp.mp unread
      rw [List.append_nil]
      exact .nameless (not_isDownloadFault_plain _ _) last success unnamed (not_exists.mp unreadable)
    | ok name =>
      rw [named] at does
      obtain ⟨answer, others, rfl, ending⟩ := (Work.does_ask_iff ended).mp does
      obtain ⟨rfl, rfl⟩ := ending.of_isEnded rfl
      have own : ∀ deed ∈ [(⟨.emit .download s!"Fetched media metadata: {name}" none, answer⟩ : Deed)],
          deed.step.isRequest = false := List.forall_mem_singleton.mpr rfl
      refine .finds ?_ ⟨?_, named⟩ success
      · rw [isLedAstray_append, not_or]
        exact ⟨fine, not_isLedAstray_of_own own⟩
      · rw [response?_append, response?_eq_none own, Option.none_or, last]
  · next failure =>
    obtain ⟨rfl, rfl⟩ := does.of_isEnded rfl
    rw [List.append_nil]
    refine .refused ⟨_, rfl⟩ fine fun answer same => ?_
    obtain rfl := Option.some.inj (last.symm.trans same)
    exact Bool.eq_false_iff.mpr failure

theorem seeks_of_request (origin : Address.checkOrigin url = .ok ()) {rest : Work (String × Response)}
    (does : ((request url (redirectLimit + 1) []).bind (naming url)).Does deeds rest) (ended : rest.isEnded = true) :
    Seeks url deeds rest := by
  rcases (Work.does_bind_iff ended).mp does with ⟨first, second, response, rfl, asking, naming⟩ | ⟨left, asking, breaks⟩
  · cases asks_of_request origin asking rfl with
    | yields fine last => exact seeks_of_naming fine last naming ended
  · cases asks_of_request origin asking breaks.isEnded_left with
    | cancelled =>
      cases breaks
      exact .cancelled
    | yields => cases breaks
    | refused coded fine unmet =>
      cases breaks
      exact .refused coded fine unmet
    | astray other astray =>
      cases breaks
      exact .astray other astray

theorem does_tell (message : String) : (tell message).Does [⟨.emit .download message none, ()⟩] (.done ()) :=
  .step (.nothing _)

theorem takes_tell (message : String) (files : Files) :
    Deed.Takes files ⟨.emit .download message none, ()⟩ files := by
  have answers : (answering {} files).answer? (.emit .download message none) = some ((), answering {} files) := rfl
  exact .atOnce rfl answers

/-- A call that is answered at once by its only response finds it. -/
theorem exists_does_seek (accepted : Destination.checkFirst url.toList = .ok ())
    (origin : Address.checkOrigin url = .ok ()) (headers : (Exchange.response response).checkHeaders = .ok ())
    (received : (Exchange.response response).received = .ok response) (final : response.redirect? = none)
    (success : response.isSuccess = true)
    (named : resolveName url (response.header? "content-type") (response.header? "content-disposition") = .ok name) :
    ∃ deeds, (seek url).Does deeds (.done (name, response)) ∧ ∀ files, Deed.Leads files deeds files := by
  have answered : afterExchange url redirectLimit [] (.response response) = .done response := by
    simp only [afterExchange, headers, received, origin, follow, final, Work.ofExcept, Work.bind]
  have naming : naming url response =
      (tell s!"Fetched media metadata: {name}").bind fun _ => .done (name, response) := by
    simp only [naming, success, named, Work.ofExcept, Work.bind, if_true]
  have asked : (request url (redirectLimit + 1) []).Does [⟨.request url [], .arrived (.response response)⟩]
      (.done response) := by
    rw [request_succ]
    refine .step ?_
    change (afterExchange url redirectLimit [] (.response response)).Does [] _
    rw [answered]
    exact .nothing _
  have waits : (Step.request url []).cancellation? ≠ none := Option.some_ne_none _
  rw [seek_eq accepted]
  refine ⟨_, (does_tell _).bind (asked.bind (naming ▸ (does_tell _).bind (.nothing _))), fun files => ?_⟩
  exact .deed (takes_tell _ files) (.deed (.awaited _ waits files) (.deed (takes_tell _ files) (.nothing files)))

end Download

end Montage
