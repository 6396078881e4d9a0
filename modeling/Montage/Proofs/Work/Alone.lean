import Montage.Proofs.Work.Crew

/-! # A work alone

While a work runs alone, nobody else changes the files. What becomes of them is then known from its deeds: each
one takes the files from what the one before has left. Most deeds leave them as they are.
-/

namespace Montage

/-- Whether a step leaves the files as they are. -/
def Step.isQuiet : Step → Bool
  | .makeDirectories _ | .create _ | .extend .. | .rename .. | .remove _ => false
  | .emit .. | .clock | .files | .request .. | .receive | .launch .. | .collect | .wait _ => true

/-- Whether a step sends a request. -/
def Step.isRequest : Step → Bool
  | .request .. => true
  | _ => false

/-- Deeds lead from files to files if nobody else changes them. -/
inductive Deed.Leads : Files → List Deed → Files → Prop
  | nothing (files : Files) : Leads files [] files
  | deed {files between later : Files} {deed : Deed} {deeds : List Deed} (takes : deed.Takes files between)
      (others : Leads between deeds later) : Leads files (deed :: deeds) later

namespace Deed

variable {files between later : Files} {first second deeds : List Deed}

theorem leads_append_iff :
    Leads files (first ++ second) later ↔ ∃ between, Leads files first between ∧ Leads between second later := by
  constructor
  · intro leads
    induction first generalizing files with
    | nil => exact ⟨files, .nothing files, leads⟩
    | cons deed rest ih =>
      cases leads with
      | deed takes others =>
        obtain ⟨between, here, there⟩ := ih others
        exact ⟨between, .deed takes here, there⟩
  · rintro ⟨between, here, there⟩
    induction here with
    | nothing => exact there
    | deed takes _ ih => exact .deed takes (ih there)

namespace Takes

theorem of_prompt {step : Step} {answer : step.Answer} (takes : Takes files ⟨step, answer⟩ later)
    (prompt : step.cancellation? = none) :
    ∃ world world' : World, world.files = files ∧ world'.files = later ∧
      world.answer? step = some (answer, world') := by
  generalize same : (⟨step, answer⟩ : Deed) = deed at takes
  cases takes with
  | @atOnce _ _ world world' _ answers =>
    cases same
    exact ⟨world, world', rfl, rfl, answers⟩
  | awaited _ waits =>
    cases same
    exact absurd prompt waits

theorem quiet {deed : Deed} (takes : deed.Takes files later) (quiet : deed.step.isQuiet = true) :
    later = files := by
  cases takes with
  | awaited => rfl
  | @atOnce step answer world world' prompt answers =>
    cases step with
    | emit | clock | files => cases answers; rfl
    | _ => contradiction

theorem changes {result : Except FileFault Files} {answer : Except FileFault Unit} {world world' : World}
    (changed : world.changeFiles result = (answer, world')) :
    (answer = .ok () ∧ result = .ok world'.files) ∨
      ∃ fault, answer = .error fault ∧ result = .error fault ∧ world'.files = world.files := by
  cases result with
  | ok files => cases changed; exact .inl ⟨rfl, rfl⟩
  | error fault => cases changed; exact .inr ⟨fault, rfl, rfl, rfl⟩

theorem makeDirectories {path : Path} {answer : Except FileFault Unit}
    (takes : Takes files ⟨.makeDirectories path, answer⟩ later) :
    (answer = .ok () ∧ files.makeDirectories path = .ok later) ∨
      ∃ fault, answer = .error fault ∧ files.makeDirectories path = .error fault ∧ later = files := by
  obtain ⟨world, world', rfl, rfl, answers⟩ := takes.of_prompt rfl
  exact changes (Option.some.inj answers)

theorem rename {path target : Path} {answer : Except FileFault Unit}
    (takes : Takes files ⟨.rename path target, answer⟩ later) :
    (answer = .ok () ∧ files.rename path target = .ok later) ∨
      ∃ fault, answer = .error fault ∧ files.rename path target = .error fault ∧ later = files := by
  obtain ⟨world, world', rfl, rfl, answers⟩ := takes.of_prompt rfl
  exact changes (Option.some.inj answers)

theorem create {path : Path} {answer : Except FileFault Nat}
    (takes : Takes files ⟨.create path, answer⟩ later) :
    (∃ number, answer = .ok number ∧ files.create path = .ok (number, later)) ∨
      ∃ fault, answer = .error fault ∧ files.create path = .error fault ∧ later = files := by
  obtain ⟨world, world', rfl, rfl, answers⟩ := takes.of_prompt rfl
  have opened := Option.some.inj answers
  cases result : world.files.create path with
  | ok found => rw [result] at opened; cases opened; exact .inl ⟨_, rfl, rfl⟩
  | error fault => rw [result] at opened; cases opened; exact .inr ⟨fault, rfl, rfl, rfl⟩

theorem extend {number : Nat} {piece : ByteArray} {answer : Unit}
    (takes : Takes files ⟨.extend number piece, answer⟩ later) : later = files.extend number piece := by
  obtain ⟨world, world', rfl, rfl, answers⟩ := takes.of_prompt rfl
  cases answers
  rfl

theorem remove {path : Path} {answer : Unit} (takes : Takes files ⟨.remove path, answer⟩ later) :
    later = files.remove path := by
  obtain ⟨world, world', rfl, rfl, answers⟩ := takes.of_prompt rfl
  cases answers
  rfl

end Takes

/-- Quiet deeds leave the files as they are. -/
theorem Leads.quiet (leads : Leads files deeds later) (quiet : ∀ deed ∈ deeds, deed.step.isQuiet = true) :
    later = files := by
  induction leads with
  | nothing => rfl
  | deed takes _ ih =>
    obtain ⟨here, others⟩ := List.forall_mem_cons.mp quiet
    rw [ih others, takes.quiet here]

end Deed

namespace Work

variable {α β : Type} {work rest : Work α} {deeds : List Deed}

/-- A work that takes only steps of one kind, whatever it is answered. -/
inductive Only (allowed : Step → Prop) : Work α → Prop
  | done (value : α) : Only allowed (.done value)
  | failed (fault : JobFault) : Only allowed (.failed fault)
  | cancelled : Only allowed .cancelled
  | ask {step : Step} {next : step.Answer → Work α} (here : allowed step)
      (later : ∀ answer, Only allowed (next answer)) : Only allowed (.ask step next)

namespace Only

variable {allowed : Step → Prop}

theorem bind {f : α → Work β} (first : work.Only allowed) (second : ∀ value, (f value).Only allowed) :
    (work.bind f).Only allowed := by
  induction first with
  | done value => exact second value
  | failed fault => exact .failed fault
  | cancelled => exact .cancelled
  | ask here _ ih => exact .ask here ih

theorem ensuring {cleanup : Work Unit} (last : cleanup.Only allowed) (first : work.Only allowed) :
    (Work.ensuring cleanup work).Only allowed := by
  induction first with
  | done value => exact bind last fun _ => .done value
  | failed fault => exact bind last fun _ => .failed fault
  | cancelled => exact bind last fun _ => .cancelled
  | ask here _ ih => exact .ask here ih

theorem perform {step : Step} (here : allowed step) : (Work.perform step).Only allowed := .ask here .done

theorem ofAwaited (awaited : Awaited α) : (Work.ofAwaited awaited).Only allowed := by
  cases awaited with
  | arrived value => exact .done value
  | cancelled => exact .cancelled

theorem ofExcept {ε : Type} (toFault : ε → JobFault) (result : Except ε α) :
    (Work.ofExcept toFault result).Only allowed := by
  cases result with
  | ok value => exact .done value
  | error fault => exact .failed _

theorem emit {phase : Phase} {message : String} {data : Option Json} (here : allowed (.emit phase message data)) :
    (Work.emit phase message data).Only allowed := by
  cases phase with
  | completed | failed => exact .failed _
  | queue | download | processing | error => exact perform here

/-- All deeds of such a work are of that kind. -/
theorem does (only : work.Only allowed) (does : work.Does deeds rest) : ∀ deed ∈ deeds, allowed deed.step := by
  induction does with
  | nothing => exact List.forall_mem_nil _
  | step _ ih =>
    cases only with
    | ask here later => exact List.forall_mem_cons.mpr ⟨here, ih (later _)⟩

end Only

/-- What a work with another one after it does: all that it does to its end, and then the other one. -/
theorem does_ensuring {cleanup : Work Unit} (does : (ensuring cleanup work).Does deeds rest)
    (ended : rest.isEnded = true) : ∃ first second left, deeds = first ++ second ∧ left.isEnded = true ∧
      work.Does first left ∧ (cleanup.bind fun _ => left).Does second rest := by
  induction work generalizing deeds with
  | done value => exact ⟨[], deeds, _, rfl, rfl, .nothing _, does⟩
  | failed fault => exact ⟨[], deeds, _, rfl, rfl, .nothing _, does⟩
  | cancelled => exact ⟨[], deeds, _, rfl, rfl, .nothing _, does⟩
  | ask step next ih =>
    obtain ⟨answer, others, rfl, tail⟩ := (does_ask_iff ended).mp does
    obtain ⟨first, second, left, rfl, stopped, here, there⟩ := ih answer tail
    exact ⟨⟨step, answer⟩ :: first, second, left, rfl, stopped, .step here, there⟩

theorem Does.of_isEnded (does : work.Does deeds rest) (ended : work.isEnded = true) : deeds = [] ∧ rest = work := by
  cases does with
  | nothing => exact ⟨rfl, rfl⟩
  | step => contradiction

/-- A quiet step leaves the files to what follows it. -/
theorem alone_ask_quiet {step : Step} {next : step.Answer → Work α} {files later : Files}
    (does : (ask step next).Does deeds rest) (ended : rest.isEnded = true) (leads : Deed.Leads files deeds later)
    (quiet : step.isQuiet = true) : ∃ answer others, deeds = ⟨step, answer⟩ :: others ∧
      Deed.Takes files ⟨step, answer⟩ files ∧ (next answer).Does others rest ∧ Deed.Leads files others later := by
  obtain ⟨answer, others, rfl, after⟩ := (does_ask_iff ended).mp does
  cases leads with
  | deed takes leads =>
    obtain rfl := takes.quiet quiet
    exact ⟨answer, others, rfl, takes, after, leads⟩

/-- A work that looks at the files goes on with what they are. -/
theorem alone_files_bind {next : Files → Work α} {files later : Files}
    (does : (Work.files.bind next).Does deeds rest) (ended : rest.isEnded = true)
    (leads : Deed.Leads files deeds later) : ∃ others, deeds = ⟨.files, files⟩ :: others ∧
      (next files).Does others rest ∧ Deed.Leads files others later := by
  obtain ⟨seen, others, rfl, takes, looked, goes⟩ := alone_ask_quiet does ended leads rfl
  obtain rfl := takes.look
  exact ⟨others, rfl, looked, goes⟩

/-- A work that looks for a file goes on with what the files say. -/
theorem alone_isFile_bind {path : Path} {next : Bool → Work α} {files later : Files}
    (does : ((Work.isFile path).bind next).Does deeds rest) (ended : rest.isEnded = true)
    (leads : Deed.Leads files deeds later) : ∃ others, deeds = ⟨.files, files⟩ :: others ∧
      ((ofExcept FileFault.toJob (files.isFile path)).bind next).Does others rest ∧
        Deed.Leads files others later := by
  obtain ⟨seen, others, rfl, takes, looked, goes⟩ := alone_ask_quiet does ended leads rfl
  obtain rfl := takes.look
  exact ⟨others, rfl, looked, goes⟩

/-- What a work comes to that waits for a piece: it is cancelled, or goes on. The files stay as they are meanwhile. -/
theorem alone_receive_bind {next : Unit → Work α} {files later : Files}
    (does : (receive.bind next).Does deeds rest) (ended : rest.isEnded = true) (leads : Deed.Leads files deeds later) :
    (deeds = [⟨.receive, .cancelled⟩] ∧ rest = .cancelled ∧ later = files) ∨ ∃ others,
      deeds = ⟨.receive, .arrived ()⟩ :: others ∧ (next ()).Does others rest ∧ Deed.Leads files others later := by
  obtain ⟨answer, others, rfl, -, received, goes⟩ := alone_ask_quiet does ended leads rfl
  cases answer with
  | cancelled =>
    obtain ⟨rfl, rfl⟩ := received.of_isEnded rfl
    cases goes
    exact .inl ⟨rfl, rfl, rfl⟩
  | arrived => exact .inr ⟨others, rfl, received, goes⟩

/-- What a work does when surroundings answer it to its end, and what is left over. Nothing but its own deeds
changes the files. -/
def played : Work α → World → List Deed × Work α × Files
  | .ask step next, world =>
    match world.answer? step with
    | some (answer, later) =>
      let files := if step.cancellation?.isSome then world.files else later.files
      let (deeds, rest, last) := played (next answer) { later with files := files }
      (⟨step, answer⟩ :: deeds, rest, last)
    | none => ([], .ask step next, world.files)
  | ended, world => ([], ended, world.files)

theorem does_played (work : Work α) (world : World) :
    work.Does (work.played world).1 (work.played world).2.1 := by
  induction work generalizing world with
  | done | failed | cancelled => exact .nothing _
  | ask step next ih =>
    unfold played
    split
    · exact .step (ih _ _)
    · exact .nothing _

theorem leads_played (work : Work α) (world : World) :
    Deed.Leads world.files (work.played world).1 (work.played world).2.2 := by
  induction work generalizing world with
  | done | failed | cancelled => exact .nothing _
  | ask step next ih =>
    unfold played
    split
    · next answer later answers =>
      refine .deed ?_ (ih _ _)
      cases prompt : step.cancellation? with
      | some _ =>
        exact .awaited answer (prompt ▸ Option.some_ne_none _) world.files
      | none => exact .atOnce prompt answers
    · exact .nothing _

end Work

end Montage
