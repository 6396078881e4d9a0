import Montage.Proofs.Files.Place
import Montage.Proofs.Work.Transcript
import Montage.Work.World
import Mathlib.Logic.Function.Basic

/-! # Works side by side

The works of several jobs go on side by side on the same files, and an engine that was started for one of
them writes to its output whenever it likes, until its end was collected. A run is any sequence of deeds and
outputs. Works are not even required to go on undisturbed up to their next wait, so what holds in every run
holds however jobs take turns.
-/

namespace Montage

/-- A deed takes files to files. A step that does not wait is answered at once by surroundings with these
files; one that waits can be answered with anything, and the files stay what they are. -/
inductive Deed.Takes : Files → Deed → Files → Prop
  | atOnce {step : Step} {answer : step.Answer} {world later : World}
      (prompt : step.cancellation? = none) (answers : world.answer? step = some (answer, later)) :
      Takes world.files ⟨step, answer⟩ later.files
  | awaited {step : Step} (answer : step.Answer) (waits : step.cancellation? ≠ none) (files : Files) :
      Takes files ⟨step, answer⟩ files

/-- The places at which a step may put something new. -/
def Step.places : Step → List Place
  | .makeDirectories path => path.placesOnWay
  | .create path => [path.place]
  | .rename _ target => [target.place]
  | _ => []

namespace World

variable {world later : World} {place : Place}

theorem spares_changeFiles {result : Except FileFault Files} {answer : Except FileFault Unit}
    (shut : world.files.IsShutAt place) (changed : world.changeFiles result = (answer, later))
    (spares : ∀ files, result = .ok files → world.files.Spares files place) :
    world.files.Spares later.files place := by
  cases result with
  | ok files => cases changed; exact spares files rfl
  | error fault => cases changed; exact .refl shut

theorem spares_openFile {result : Except FileFault (Nat × Files)} {answer : Except FileFault Nat}
    (shut : world.files.IsShutAt place) (changed : world.openFile result = (answer, later))
    (spares : ∀ number files, result = .ok (number, files) → world.files.Spares files place) :
    world.files.Spares later.files place := by
  cases result with
  | ok opened => cases changed; exact spares opened.1 opened.2 rfl
  | error fault => cases changed; exact .refl shut

/-- A step that does not wait leaves every place alone at which it puts nothing. -/
theorem spares_answer {step : Step} {answer : step.Answer} (shut : world.files.IsShutAt place)
    (prompt : step.cancellation? = none) (answers : world.answer? step = some (answer, later))
    (apart : place ∉ step.places) : world.files.Spares later.files place := by
  cases step with
  | emit | clock | files => cases answers; exact .refl shut
  | makeDirectories path =>
    exact spares_changeFiles shut (Option.some.inj answers) fun files made =>
      Files.spares_makeDirectories shut made apart
  | create path =>
    exact spares_openFile shut (Option.some.inj answers) fun number files created =>
      Files.spares_create shut created fun same => apart (List.mem_singleton.mpr same)
  | extend number piece => cases answers; exact Files.spares_extend shut
  | rename path target =>
    exact spares_changeFiles shut (Option.some.inj answers) fun files renamed =>
      Files.spares_rename shut renamed fun same => apart (List.mem_singleton.mpr same)
  | remove path => cases answers; exact Files.spares_remove shut
  | request | receive | launch | collect | wait => contradiction

end World

theorem Deed.Takes.spares {files later : Files} {deed : Deed} {place : Place}
    (takes : deed.Takes files later) (shut : files.IsShutAt place) (apart : place ∉ deed.step.places) :
    files.Spares later place := by
  cases takes with
  | atOnce prompt answers => exact World.spares_answer shut prompt answers apart
  | awaited => exact .refl shut

theorem Deed.Takes.look {files later seen : Files} (takes : Deed.Takes files ⟨.files, seen⟩ later) :
    seen = files := by
  generalize look : (⟨.files, seen⟩ : Deed) = deed at takes
  cases takes with
  | atOnce prompt answers => cases look; cases answers; rfl
  | awaited answer waits => cases look; exact absurd rfl waits

/-- The path that a call of the engine writes to. -/
def Engine.outputPath (args : List String) : Path := Path.ofText (args.getLast?.getD "")

/-- Where the engine of a work writes after a deed of the work. -/
def Deed.engineAfter (before : Option Path) : Deed → Option Path
  | ⟨.launch args _, .arrived _⟩ => some (Engine.outputPath args)
  | ⟨.collect, _⟩ => none
  | _ => before

/-- How the engine came to its end, if that was collected. -/
def outcome? : List Deed → Option (Awaited Engine.Outcome)
  | ⟨.collect, answer⟩ :: _ => some answer
  | _ :: rest => outcome? rest
  | [] => none

theorem outcome?_append {first : List Deed} (second : List Deed) (none : outcome? first = none) :
    outcome? (first ++ second) = outcome? second := by
  induction first with
  | nil => rfl
  | cons deed rest ih =>
    obtain ⟨step, answer⟩ := deed
    cases step with
    | collect => contradiction
    | _ => exact ih none

theorem outcome?_append_of_some {first : List Deed} {outcome : Awaited Engine.Outcome}
    (ends : outcome? first = some outcome) (second : List Deed) :
    outcome? (first ++ second) = some outcome := by
  induction first with
  | nil => contradiction
  | cons deed rest ih =>
    obtain ⟨step, answer⟩ := deed
    cases step with
    | collect => exact ends
    | _ => exact ih ends

/-- Whether the engine succeeded, as far as its end was collected. -/
def endsWell (deeds : List Deed) : Bool :=
  match outcome? deeds with
  | some (.arrived (.finished _)) => true
  | _ => false

theorem endsWell_append {first : List Deed} (second : List Deed) (none : outcome? first = none) :
    endsWell (first ++ second) = endsWell second := by
  rw [endsWell, outcome?_append second none, endsWell]

theorem endsWell_append_of_true {first : List Deed} (well : endsWell first = true) (second : List Deed) :
    endsWell (first ++ second) = true := by
  cases ends : outcome? first with
  | none => rw [endsWell, ends] at well; contradiction
  | some outcome => rwa [endsWell, outcome?_append_of_some ends, ← ends, ← endsWell]

/-- An engine that writes somewhere after a deed was started by it, or wrote there before. -/
theorem Deed.engineAfter_cases {before : Option Path} {deed : Deed} {path : Path}
    (writes : deed.engineAfter before = some path) :
    (∃ args timeout lines, deed = ⟨.launch args timeout, .arrived lines⟩ ∧
      Engine.outputPath args = path) ∨ before = some path ∧ outcome? [deed] = none := by
  obtain ⟨step, answer⟩ := deed
  cases step with
  | launch args timeout =>
    cases answer with
    | arrived lines => exact .inl ⟨args, timeout, lines, rfl, Option.some.inj writes⟩
    | cancelled => exact .inr ⟨writes, rfl⟩
  | collect => contradiction
  | _ => exact .inr ⟨writes, rfl⟩

/-- Something that happens in a crew: a deed of a work, or an output of the engine that runs for it. -/
inductive Act where
  | deed (number : Nat) (deed : Deed)
  | output (number : Nat) (path : Path) (content : ByteArray)

/-- The places at which a deed may put something new. What an engine puts somewhere is no deed. -/
def Act.places : Act → List Place
  | .deed _ taken => taken.step.places
  | .output .. => []

/-- The deed of one work that an act is. -/
def Act.deedOf? (number : Nat) : Act → Option Deed
  | .deed other taken => if other = number then some taken else none
  | .output .. => none

/-- Whether an act is an output to a place. -/
def Act.IsOutputAt (place : Place) : Act → Prop
  | .output _ path _ => path.place = place
  | .deed .. => False

/-- Whether an act is that a work learns that its engine succeeded. -/
def Act.isSuccess : Act → Bool
  | .deed _ ⟨.collect, .arrived (.finished _)⟩ => true
  | _ => false

/-- The deeds of one work in a history. -/
def deedsOf (number : Nat) (history : List Act) : List Deed := history.filterMap (Act.deedOf? number)

/-- Works on the same files, and where the engines that run for them write. -/
structure Crew (α : Type) where
  files : Files
  works : Nat → Work α
  engines : Nat → Option Path := fun _ => none

section

variable {number other : Nat} {deed : Deed} {path : Path} {content : ByteArray}

theorem deedsOf_append (before after : List Act) :
    deedsOf number (before ++ after) = deedsOf number before ++ deedsOf number after :=
  List.filterMap_append

theorem deedsOf_deed_self : deedsOf number [.deed number deed] = [deed] := by
  simp [deedsOf, Act.deedOf?]

theorem deedsOf_deed_of_ne (different : other ≠ number) : deedsOf number [.deed other deed] = [] := by
  simp [deedsOf, Act.deedOf?, different]

theorem eq_deed_of_deedOf? {act : Act} (taken : act.deedOf? number = some deed) :
    act = .deed number deed := by
  cases act with
  | deed other done =>
    obtain ⟨rfl, same⟩ := Option.ite_none_right_eq_some.mp taken
    rw [Option.some.inj same]
  | output => contradiction

/-- A deed of a work stands in the history where the deeds of the work before it are over. -/
theorem exists_of_deedsOf_eq {history : List Act} {first second : List Deed}
    (deeds : deedsOf number history = first ++ deed :: second) :
    ∃ before after, history = before ++ .deed number deed :: after ∧ deedsOf number before = first := by
  obtain ⟨front, back, rfl, here, there⟩ := List.filterMap_eq_append_iff.mp deeds
  obtain ⟨quiet, act, after, rfl, others, taken, -⟩ := List.filterMap_eq_cons_iff.mp there
  obtain rfl := eq_deed_of_deedOf? taken
  refine ⟨front ++ quiet, after, (List.append_assoc ..).symm, ?_⟩
  rw [deedsOf_append, show deedsOf number front = first from here,
    show deedsOf number quiet = [] from List.filterMap_eq_nil_iff.mpr others, List.append_nil]

/-- A deed of a work comes after all that the work has no part in. -/
theorem exists_split_of_others {first second before after : List Act}
    (others : ∀ act ∈ first, act.deedOf? number = none)
    (split : first ++ second = before ++ .deed number deed :: after) :
    ∃ later, before = first ++ later ∧ second = later ++ .deed number deed :: after := by
  rcases List.append_eq_append_iff.mp split with ⟨later, here, there⟩ | ⟨later, here, there⟩
  · exact ⟨later, here, there⟩
  · cases later with
    | nil => exact ⟨[], by simpa using here.symm, there.symm⟩
    | cons act rest =>
      obtain rfl := (List.cons.inj there).1
      have none := others _ (here ▸ List.mem_append_right _ List.mem_cons_self)
      rw [Act.deedOf?, if_pos rfl] at none
      contradiction

theorem mem_of_outcome? {deeds : List Deed} {outcome : Awaited Engine.Outcome}
    (ends : outcome? deeds = some outcome) : ⟨.collect, outcome⟩ ∈ deeds := by
  induction deeds with
  | nil => contradiction
  | cons deed rest ih =>
    obtain ⟨step, answer⟩ := deed
    cases step with
    | collect => cases ends; exact List.mem_cons_self
    | _ => exact List.mem_cons_of_mem _ (ih ends)

theorem mem_of_mem_deedsOf {history : List Act} (member : deed ∈ deedsOf number history) :
    .deed number deed ∈ history := by
  obtain ⟨act, present, taken⟩ := List.mem_filterMap.mp member
  exact eq_deed_of_deedOf? taken ▸ present

theorem deedsOf_output : deedsOf number [.output other path content] = [] := rfl

end

namespace Crew

variable {α : Type} {start crew later : Crew α} {history before after : List Act} {act : Act}
  {number other : Nat} {place : Place} {path : Path} {content : ByteArray}

/-- The crew after a deed of one of its works. -/
def afterDeed (crew : Crew α) (number : Nat) (deed : Deed) (rest : Work α) (files : Files) : Crew α where
  files := files
  works := Function.update crew.works number rest
  engines := Function.update crew.engines number (deed.engineAfter (crew.engines number))

theorem works_afterDeed_self {deed : Deed} {rest : Work α} {files : Files} :
    (crew.afterDeed number deed rest files).works number = rest := Function.update_self ..

theorem works_afterDeed_of_ne {deed : Deed} {rest : Work α} {files : Files} (different : other ≠ number) :
    (crew.afterDeed other deed rest files).works number = crew.works number :=
  Function.update_of_ne (Ne.symm different) ..

theorem engines_afterDeed_self {deed : Deed} {rest : Work α} {files : Files} :
    (crew.afterDeed number deed rest files).engines number = deed.engineAfter (crew.engines number) :=
  Function.update_self ..

theorem engines_afterDeed_of_ne {deed : Deed} {rest : Work α} {files : Files} (different : other ≠ number) :
    (crew.afterDeed other deed rest files).engines number = crew.engines number :=
  Function.update_of_ne (Ne.symm different) ..

/-- One act. -/
inductive Moves : Crew α → Act → Crew α → Prop
  | deed {crew : Crew α} {number : Nat} {step : Step} {next : step.Answer → Work α}
      {answer : step.Answer} {files : Files} (turn : crew.works number = .ask step next)
      (takes : Deed.Takes crew.files ⟨step, answer⟩ files) :
      Moves crew (.deed number ⟨step, answer⟩)
        (crew.afterDeed number ⟨step, answer⟩ (next answer) files)
  | output {crew : Crew α} {number : Nat} {path : Path} {content : ByteArray} {files : Files}
      (runs : crew.engines number = some path) (written : crew.files.write path content = .ok files) :
      Moves crew (.output number path content) { crew with files := files }

/-- A work that looks at the files sees what they are. -/
theorem Moves.look {seen : Files} (moves : crew.Moves (.deed number ⟨.files, seen⟩) later) :
    seen = crew.files := by
  cases moves with
  | deed turn takes => exact takes.look

/-- Any number of acts. -/
inductive Run (start : Crew α) : List Act → Crew α → Prop
  | rest : Run start [] start
  | move {history : List Act} {crew later : Crew α} {act : Act} (run : Run start history crew)
      (moves : crew.Moves act later) : Run start (history ++ [act]) later

namespace Run

theorem append (first : start.Run before crew) (second : crew.Run after later) :
    start.Run (before ++ after) later := by
  induction second with
  | rest => rwa [List.append_nil]
  | move _ moves ih => rw [← List.append_assoc]; exact ih.move moves

/-- A run up to one of its acts, and what that act does. -/
theorem split (run : start.Run (before ++ act :: after) later) :
    ∃ crew next, start.Run before crew ∧ crew.Moves act next ∧ next.Run after later := by
  generalize whole : before ++ act :: after = history at run
  induction run generalizing after with
  | rest => exact absurd whole (by simp)
  | @move history crew later last run moves ih =>
    rcases List.eq_nil_or_concat after with rfl | ⟨front, final, rfl⟩
    · obtain ⟨rfl, same⟩ := List.append_inj' whole rfl
      obtain rfl := (List.cons.inj same).1
      exact ⟨crew, later, run, moves, .rest⟩
    · rw [List.concat_eq_append, ← List.cons_append, ← List.append_assoc] at whole
      obtain ⟨rfl, same⟩ := List.append_inj' whole rfl
      obtain rfl := (List.cons.inj same).1
      obtain ⟨middle, next, first, moved, second⟩ := ih rfl
      rw [List.concat_eq_append]
      exact ⟨middle, next, first, moved, second.move moves⟩

/-- What one work does in a run is a transcript of it. -/
theorem does (run : start.Run history crew) (number : Nat) :
    (start.works number).Does (deedsOf number history) (crew.works number) := by
  induction run with
  | rest => exact .nothing _
  | @move history crew later act run moves ih =>
    cases moves with
    | @deed other step next answer files turn takes =>
      by_cases same : other = number
      · subst same
        rw [deedsOf_append, deedsOf_deed_self, works_afterDeed_self]
        exact (turn ▸ ih).snoc
      · rw [deedsOf_append, deedsOf_deed_of_ne same, List.append_nil, works_afterDeed_of_ne same]
        exact ih
    | output runs written =>
      rw [deedsOf_append, deedsOf_output, List.append_nil]
      exact ih

/-- An engine that writes somewhere was started to write there, and its end was not collected since. -/
theorem launched (run : start.Run history crew) (idle : start.engines number = none)
    (writes : crew.engines number = some path) :
    ∃ before args timeout lines after,
      history = before ++ .deed number ⟨.launch args timeout, .arrived lines⟩ :: after ∧
        Engine.outputPath args = path ∧ outcome? (deedsOf number after) = none := by
  induction run with
  | rest => rw [idle] at writes; contradiction
  | @move history crew later act run moves ih =>
    cases moves with
    | @deed other step next answer files turn takes =>
      by_cases same : other = number
      · subst same
        rw [engines_afterDeed_self] at writes
        rcases Deed.engineAfter_cases writes with ⟨args, timeout, lines, started, path⟩ | ⟨before, silent⟩
        · exact ⟨history, args, timeout, lines, [], by rw [started], path, rfl⟩
        · obtain ⟨before, args, timeout, lines, after, rfl, path, none⟩ := ih before
          refine ⟨before, args, timeout, lines, after ++ [_], by rw [List.append_assoc]; rfl, path, ?_⟩
          rw [deedsOf_append, deedsOf_deed_self, outcome?_append _ none, silent]
      · rw [engines_afterDeed_of_ne same] at writes
        obtain ⟨before, args, timeout, lines, after, rfl, path, none⟩ := ih writes
        refine ⟨before, args, timeout, lines, after ++ [_], by rw [List.append_assoc]; rfl, path, ?_⟩
        rw [deedsOf_append, deedsOf_deed_of_ne same, List.append_nil, none]
    | output runs written =>
      obtain ⟨before, args, timeout, lines, after, rfl, path, none⟩ := ih writes
      refine ⟨before, args, timeout, lines, after ++ [_], by rw [List.append_assoc]; rfl, path, ?_⟩
      rw [deedsOf_append, deedsOf_output, List.append_nil, none]

/-- What stands at a place where no work puts anything is what an engine last wrote there. -/
theorem written (run : start.Run history crew) (empty : start.files.node? place = none)
    (shut : start.files.IsShutAt place)
    (apart : ∀ act ∈ history, place ∉ act.places) :
    crew.files.IsShutAt place ∧ ∀ node, crew.files.node? place = some node →
      ∃ before number path content after,
        history = before ++ .output number path content :: after ∧ path.place = place ∧
          node = .file content ∧ ∀ act ∈ after, ¬act.IsOutputAt place := by
  induction run with
  | rest => exact ⟨shut, fun node stands => absurd (empty.symm.trans stands) (Option.some_ne_none _).symm⟩
  | @move history crew later act run moves ih =>
    obtain ⟨apartSoFar, here⟩ := List.forall_mem_append.mp apart
    obtain ⟨shut, written⟩ := ih apartSoFar
    -- What stood there before stands there for the same reason, if this act is no output to the place.
    have kept : act.IsOutputAt place = False → ∀ node, crew.files.node? place = some node →
        ∃ before number path content after,
          history ++ [act] = before ++ .output number path content :: after ∧ path.place = place ∧
            node = .file content ∧ ∀ act ∈ after, ¬act.IsOutputAt place := by
      intro other node stands
      obtain ⟨before, number, path, content, after, rfl, same, node, last⟩ := written node stands
      refine ⟨before, number, path, content, after ++ [act], by simp, same, node, ?_⟩
      exact List.forall_mem_append.mpr ⟨last, List.forall_mem_singleton.mpr (of_eq_false other)⟩
    cases moves with
    | @deed number step next answer files turn takes =>
      have spares := takes.spares shut (here _ List.mem_cons_self)
      exact ⟨spares.shut, fun node stands => kept rfl node (spares.node node stands)⟩
    | @output number path content files runs wrote =>
      by_cases here : path.place = place
      · subst here
        obtain ⟨-, rfl⟩ := Files.write_ok wrote
        refine ⟨by rw [Files.IsShutAt, Files.opened_put]; exact shut, fun node stands => ?_⟩
        rw [Files.node?_put_self (Files.isTop_of_node?_eq_none empty)] at stands
        exact ⟨history, number, path, content, [], rfl, rfl, (Option.some.inj stands).symm,
          List.forall_mem_nil _⟩
      · have spares := Files.spares_write shut wrote (Ne.symm here)
        exact ⟨spares.shut, fun node stands => kept (eq_false here) node (spares.node node stands)⟩

end Run

/-- The call of the engine that runs for a work succeeds, when things go on so. -/
def Succeeds (number : Nat) (after : List Act) : Prop := endsWell (deedsOf number after) = true

theorem Succeeds.exists_mem (succeeds : Succeeds number history) :
    ∃ milliseconds, .deed number ⟨.collect, .arrived (.finished milliseconds)⟩ ∈ history := by
  unfold Succeeds endsWell at succeeds
  split at succeeds
  · next milliseconds ends => exact ⟨milliseconds, mem_of_mem_deedsOf (mem_of_outcome? ends)⟩
  · contradiction

/-- Whether every call of the engine for a place has succeeded by the end of a history. -/
def callsSucceed (place : Place) : List Act → Bool
  | .deed number ⟨.launch args _, .arrived _⟩ :: rest =>
    (decide ((Engine.outputPath args).place ≠ place) || endsWell (deedsOf number rest)) &&
      callsSucceed place rest
  | _ :: rest => callsSucceed place rest
  | [] => true

theorem succeeds_of_callsSucceed {args : List String} {timeout : Option Binary64}
    {lines : List Engine.Line}
    (succeed : callsSucceed place
      (before ++ .deed number ⟨.launch args timeout, .arrived lines⟩ :: after) = true)
    (here : (Engine.outputPath args).place = place) : Succeeds number after := by
  induction before with
  | nil =>
    obtain ⟨well, -⟩ := Bool.and_eq_true_iff.mp succeed
    exact (Bool.or_eq_true_iff.mp well).resolve_left fun other => of_decide_eq_true other here
  | cons act rest ih =>
    rcases act with ⟨other, step, answer⟩ | ⟨other, path, content⟩
    · cases step with
      | launch others limit =>
        cases answer with
        | arrived printed => exact ih (Bool.and_eq_true_iff.mp succeed).2
        | cancelled => exact ih succeed
      | _ => exact ih succeed
    · exact ih succeed

theorem callsSucceed_append (first : callsSucceed place before = true)
    (second : callsSucceed place after = true) : callsSucceed place (before ++ after) = true := by
  induction before with
  | nil => exact second
  | cons act rest ih =>
    rcases act with ⟨other, step, answer⟩ | ⟨other, path, content⟩
    · cases step with
      | launch others limit =>
        cases answer with
        | arrived printed =>
          obtain ⟨well, later⟩ := Bool.and_eq_true_iff.mp first
          refine Bool.and_eq_true_iff.mpr ⟨Bool.or_eq_true_iff.mpr ?_, ih later⟩
          refine (Bool.or_eq_true_iff.mp well).imp_right fun well => ?_
          exact (congrArg endsWell (deedsOf_append rest after)).trans (endsWell_append_of_true well _)
        | cancelled => exact ih first
      | _ => exact ih first
    · exact ih first

theorem callsSucceed_of_each (each : ∀ act ∈ history, callsSucceed place [act] = true) :
    callsSucceed place history = true := by
  induction history with
  | nil => rfl
  | cons act rest ih =>
    obtain ⟨here, there⟩ := List.forall_mem_cons.mp each
    exact callsSucceed_append here (ih there)

/-- Nothing was ever put at a place but by calls of the engine, which had all succeeded by then. -/
structure IsKept (start : Files) (history : List Act) (place : Place) : Prop where
  empty : start.node? place = none
  shut : start.IsShutAt place
  apart : ∀ act ∈ history, place ∉ act.places
  succeed : callsSucceed place history = true

/-- What stands at a place is what a call of the engine wrote there last that had succeeded by then. -/
def IsFinished (history : List Act) (place : Place) (files : Files) : Prop :=
  ∃ before number path content after,
    history = before ++ .output number path content :: after ∧ path.place = place ∧
      files.node? place = some (.file content) ∧ Succeeds number after ∧
      ∀ act ∈ after, ¬act.IsOutputAt place

theorem not_isFinished {files : Files} (fail : ∀ act ∈ history, act.isSuccess = false) :
    ¬IsFinished history place files := by
  rintro ⟨before, number, path, content, after, rfl, -, -, succeeds, -⟩
  obtain ⟨milliseconds, member⟩ := succeeds.exists_mem
  have unsuccessful := fail _ (List.mem_append_right _ (List.mem_cons_of_mem _ member))
  contradiction

theorem Run.isFinished (run : start.Run history crew) (idle : ∀ number, start.engines number = none)
    (kept : IsKept start.files history place) {node : Node}
    (stands : crew.files.node? place = some node) : IsFinished history place crew.files := by
  obtain ⟨-, written⟩ := run.written kept.empty kept.shut kept.apart
  obtain ⟨before, number, path, content, after, rfl, rfl, rfl, last⟩ := written node stands
  refine ⟨before, number, path, content, after, rfl, rfl, stands, ?_, last⟩
  obtain ⟨middle, next, front, moves, -⟩ := run.split
  cases moves with
  | output runs wrote =>
    obtain ⟨first, args, timeout, lines, second, rfl, rfl, none⟩ := front.launched (idle number) runs
    have succeed := kept.succeed
    rw [List.append_assoc, List.cons_append] at succeed
    have well := succeeds_of_callsSucceed succeed rfl
    rwa [Succeeds, deedsOf_append, endsWell_append _ none] at well

/-- What happens next in a run that is worked out. -/
inductive Cue where
  | step (number : Nat)
  | output (number : Nat) (content : ByteArray)

/-- The act on a cue, if one is possible, where surroundings answer for what is not in the files. -/
def act? (world : World) (crew : Crew α) : Cue → Option (Act × Crew α)
  | .step number =>
    match crew.works number with
    | .ask step next =>
      (World.answer? step { world with files := crew.files }).map fun (answer, later) =>
        (.deed number ⟨step, answer⟩, crew.afterDeed number ⟨step, answer⟩ (next answer)
          (if step.cancellation?.isNone then later.files else crew.files))
    | _ => none
  | .output number content =>
    match crew.engines number with
    | some path =>
      match crew.files.write path content with
      | .ok files => some (.output number path content, { crew with files := files })
      | .error _ => none
    | none => none

/-- The acts on cues, and the crew after them. Cues on which nothing is possible are passed over. -/
def play (world : World) (crew : Crew α) : List Cue → List Act × Crew α
  | [] => ([], crew)
  | cue :: rest =>
    match crew.act? world cue with
    | some (act, later) => (act :: (later.play world rest).1, (later.play world rest).2)
    | none => crew.play world rest

theorem moves_act? {world : World} {cue : Cue} (acts : crew.act? world cue = some (act, later)) :
    crew.Moves act later := by
  cases cue with
  | step number =>
    unfold act? at acts
    dsimp only at acts
    split at acts
    · next step next turn =>
      obtain ⟨⟨answer, world'⟩, answers, same⟩ := Option.map_eq_some_iff.mp acts
      obtain ⟨rfl, rfl⟩ := Prod.mk.inj same
      refine .deed turn ?_
      split
      · next prompt => exact .atOnce (Option.isNone_iff_eq_none.mp prompt) answers
      · next waits => exact .awaited answer (fun none => waits (Option.isNone_iff_eq_none.mpr none)) _
    · contradiction
  | output number content =>
    unfold act? at acts
    dsimp only at acts
    split at acts
    · next path runs =>
      split at acts
      · next files written =>
        obtain ⟨rfl, rfl⟩ := Prod.mk.inj (Option.some.inj acts)
        exact .output runs written
      · contradiction
    · contradiction

/-- What is worked out is a run. -/
theorem run_play (world : World) (crew : Crew α) (cues : List Cue) :
    crew.Run (crew.play world cues).1 (crew.play world cues).2 := by
  induction cues generalizing crew with
  | nil => exact .rest
  | cons cue rest ih =>
    unfold play
    split
    · next act later acts => exact (Run.rest.move (moves_act? acts)).append (ih later)
    · exact ih crew

end Crew

end Montage
