import Montage.Proofs.Work.Crew
import Mathlib.Data.List.Induction

/-! # Taking turns

A work that has got its turn goes on by itself, up to its next wait or to its end. It gets its first turn when
it is started, and another one whenever what it waits for is answered, or its job is cancelled. Works that
take turns share their files, and what one of them finds is what the others left.
-/

namespace Montage

/-- The answer of surroundings to a step that does not wait. -/
def Step.atOnce? (step : Step) (world : World) : Option (step.Answer × World) :=
  match step.cancellation? with
  | some _ => none
  | none => world.answer? step

/-- Surroundings have an answer to a step. -/
def World.Answers (world : World) (step : Step) (answer : step.Answer) : Prop :=
  ∃ later, world.answer? step = some (answer, later)

namespace Work

variable {α β : Type} {work rest : Work α} {files between later : Files}

/-- Whether a work waits for something. -/
def waits : Work α → Bool
  | .ask step _ => step.cancellation?.isSome
  | _ => false

/-- A work comes to a value, if what it waits for is answered as expected, and leaves the files alone. -/
inductive Yields (expected : (step : Step) → step.Answer → Prop) (value : α) : Work α → Prop
  | done : Yields expected value (.done value)
  | cancelled : Yields expected value .cancelled
  | tells {phase : Phase} {message : String} {data : Option Json} {next : Unit → Work α}
      (later : Yields expected value (next ())) : Yields expected value (.ask (.emit phase message data) next)
  | waits {step : Step} {next : step.Answer → Work α} (waits : step.cancellation? ≠ none)
      (later : ∀ answer, expected step answer → Yields expected value (next answer)) :
      Yields expected value (.ask step next)

/-- A work goes on by itself, from files to files, until it has ended or waits. -/
inductive Goes : Work α → Files → Work α → Files → Prop
  | rests {work : Work α} (files : Files) (still : work.isEnded || work.waits) :
      Goes work files work files
  | takes {step : Step} {next : step.Answer → Work α} {answer : step.Answer}
      {files between later : Files} {rest : Work α} (prompt : step.cancellation? = none)
      (takes : Deed.Takes files ⟨step, answer⟩ between)
      (goes : Goes (next answer) between rest later) : Goes (.ask step next) files rest later

theorem Goes.still (goes : work.Goes files rest later) : rest.isEnded || rest.waits := by
  induction goes with
  | rests _ still => exact still
  | takes _ _ _ ih => exact ih

theorem Goes.of_still (goes : work.Goes files rest later) (still : work.isEnded || work.waits) :
    rest = work ∧ later = files := by
  cases goes with
  | rests => exact ⟨rfl, rfl⟩
  | takes prompt takes goes =>
    simp only [isEnded, waits, prompt, Option.isSome_none, Bool.or_self, Bool.false_eq_true] at still

/-- The answer of surroundings to a step that a work takes at once. -/
theorem Goes.of_prompt {step : Step} {next : step.Answer → Work α}
    (goes : (ask step next).Goes files rest later) (prompt : step.cancellation? = none) :
    ∃ (world world' : World) (answer : step.Answer), world.files = files ∧
      world.answer? step = some (answer, world') ∧ (next answer).Goes world'.files rest later := by
  cases goes with
  | rests _ still =>
    simp only [isEnded, waits, prompt, Option.isSome_none, Bool.or_self, Bool.false_eq_true] at still
  | takes prompt takes goes =>
    generalize same : (⟨step, _⟩ : Deed) = deed at takes
    cases takes with
    | @atOnce _ _ world world' _ answers =>
      cases same
      exact ⟨world, world', _, rfl, answers, goes⟩
    | awaited _ waits =>
      cases same
      exact absurd prompt waits

/-- A work to which surroundings answer what it waits for. -/
def answered (world : World) : Work α → Work α
  | .ask step next =>
    match step.cancellation?, world.answer? step with
    | some _, some (answer, _) => next answer
    | _, _ => .ask step next
  | ended => ended

theorem answered_cases (work : Work α) (world : World) : work.answered world = work ∨
    ∃ (step : Step) (next : step.Answer → Work α) (answer : step.Answer), work = .ask step next ∧
      step.cancellation? ≠ none ∧ world.Answers step answer ∧ work.answered world = next answer := by
  cases work with
  | done | failed | cancelled => exact .inl rfl
  | ask step next =>
    unfold answered
    dsimp only
    split
    · next answer later waits answers =>
      exact .inr ⟨step, next, answer, rfl, waits ▸ Option.some_ne_none _, ⟨later, answers⟩, rfl⟩
    · exact .inl rfl

theorem isSome_answer? {step : Step} (prompt : step.cancellation? = none) (world : World) :
    (world.answer? step).isSome := by
  cases step with
  | request | receive | launch | collect | wait => contradiction
  | _ => rfl

/-- A work that is advanced as far as surroundings answer at once goes on by itself. -/
theorem goes_advance (work : Work α) (world : World) :
    work.Goes world.files (work.advance Step.atOnce? world).1
      (work.advance Step.atOnce? world).2.files := by
  induction work generalizing world with
  | done | failed | cancelled => exact .rests _ rfl
  | ask step next ih =>
    unfold advance
    cases prompt : step.cancellation? with
    | some answer =>
      rw [show Step.atOnce? step world = none by rw [Step.atOnce?, prompt]]
      exact .rests _ (by rw [waits, prompt]; rfl)
    | none =>
      rw [show Step.atOnce? step world = world.answer? step by rw [Step.atOnce?, prompt]]
      cases answers : world.answer? step with
      | some answered => exact .takes prompt (.atOnce prompt answers) (ih _ _)
      | none =>
        have answered := isSome_answer? prompt world
        rw [answers] at answered
        contradiction

namespace Goes

theorem look {next : Files → Work α} (goes : (ask .files next).Goes files rest later) :
    (next files).Goes files rest later := by
  obtain ⟨world, world', answer, rfl, answers, goes⟩ := goes.of_prompt rfl
  cases answers
  exact goes

theorem isFile {path : Path} {there : Bool} {next : Bool → Work α}
    (goes : ((Work.isFile path).bind next).Goes files rest later) (look : files.isFile path = .ok there) :
    (next there).Goes files rest later := by
  have asked : ((ofExcept FileFault.toJob (files.isFile path)).bind next).Goes files rest later := goes.look
  rw [look] at asked
  exact asked

theorem emit {phase : Phase} {message : String} {data : Option Json} {next : Unit → Work α}
    (goes : (ask (.emit phase message data) next).Goes files rest later) :
    (next ()).Goes files rest later := by
  obtain ⟨world, world', answer, rfl, answers, goes⟩ := goes.of_prompt rfl
  cases answers
  exact goes

theorem extend {number : Nat} {piece : ByteArray} {next : Unit → Work α}
    (goes : (ask (.extend number piece) next).Goes files rest later) :
    (next ()).Goes (files.extend number piece) rest later := by
  obtain ⟨world, world', answer, rfl, answers, goes⟩ := goes.of_prompt rfl
  cases answers
  exact goes

theorem remove {path : Path} {next : Unit → Work α}
    (goes : (ask (.remove path) next).Goes files rest later) :
    (next ()).Goes (files.remove path) rest later := by
  obtain ⟨world, world', answer, rfl, answers, goes⟩ := goes.of_prompt rfl
  cases answers
  exact goes

theorem makeDirectories {path : Path} {next : Unit → Work α}
    (goes : ((Work.makeDirectories path).bind next).Goes files rest later)
    (made : files.makeDirectories path = .ok between) : (next ()).Goes between rest later := by
  obtain ⟨world, world', answer, rfl, answers, goes⟩ := goes.of_prompt rfl
  simp only [World.answer?, World.changeFiles, made] at answers
  cases answers
  exact goes

theorem create {path : Path} {number : Nat} {next : Except FileFault Nat → Work α}
    (goes : (ask (.create path) next).Goes files rest later)
    (created : files.create path = .ok (number, between)) :
    (next (.ok number)).Goes between rest later := by
  obtain ⟨world, world', answer, rfl, answers, goes⟩ := goes.of_prompt rfl
  simp only [World.answer?, World.openFile, created] at answers
  cases answers
  exact goes

theorem rename {path target : Path} {next : Except FileFault Unit → Work α}
    (goes : (ask (.rename path target) next).Goes files rest later)
    (renamed : files.rename path target = .ok between) :
    (next (.ok ())).Goes between rest later := by
  obtain ⟨world, world', answer, rfl, answers, goes⟩ := goes.of_prompt rfl
  simp only [World.answer?, World.changeFiles, renamed] at answers
  cases answers
  exact goes

end Goes

end Work

namespace Crew

variable {α : Type} {start crew later last : Crew α} {number other : Nat} {rest : Work α} {files : Files}
  {answers : Nat → (step : Step) → step.Answer → Prop} {allowed : Crew α → Prop}

/-- The crew after a turn of one of its works. -/
def afterTurn (crew : Crew α) (number : Nat) (rest : Work α) (files : Files) : Crew α :=
  { crew with files := files, works := Function.update crew.works number rest }

theorem works_afterTurn_self : (crew.afterTurn number rest files).works number = rest :=
  Function.update_self ..

theorem works_afterTurn_of_ne (different : other ≠ number) :
    (crew.afterTurn number rest files).works other = crew.works other :=
  Function.update_of_ne different ..

/-- One turn of a work. It is started, or what it waits for gets one of the answers that may come. -/
inductive Turn (answers : Nat → (step : Step) → step.Answer → Prop) (crew : Crew α) (number : Nat) :
    Crew α → Prop
  | starts {rest : Work α} {files : Files} (goes : (crew.works number).Goes crew.files rest files) :
      Turn answers crew number (crew.afterTurn number rest files)
  | resumes {step : Step} {next : step.Answer → Work α} {answer : step.Answer} {rest : Work α}
      {files : Files} (waiting : crew.works number = .ask step next) (waits : step.cancellation? ≠ none)
      (comes : answers number step answer) (goes : (next answer).Goes crew.files rest files) :
      Turn answers crew number (crew.afterTurn number rest files)

theorem Turn.works_of_ne (turn : crew.Turn answers number later) (different : other ≠ number) :
    later.works other = crew.works other := by
  cases turn with
  | starts | resumes => exact works_afterTurn_of_ne different

/-- Any number of turns, none of which leads out of the crews that are allowed. -/
inductive Turns (answers : Nat → (step : Step) → step.Answer → Prop) (allowed : Crew α → Prop)
    (start : Crew α) : Crew α → Prop
  | rest : Turns answers allowed start start
  | turn {crew later : Crew α} {number : Nat} (before : Turns answers allowed start crew)
      (turn : crew.Turn answers number later) (fits : allowed later) : Turns answers allowed start later

/-- What holds at first and is kept by every turn between crews that are allowed holds in the end. -/
theorem Turns.keeps (turns : start.Turns answers allowed later) (holds : Crew α → Prop) (fits : allowed start)
    (first : holds start)
    (keeps : ∀ crew later number, allowed crew → allowed later → holds crew →
      crew.Turn answers number later → holds later) : allowed later ∧ holds later := by
  induction turns with
  | rest => exact ⟨fits, first⟩
  | turn before turn fits ih => exact ⟨fits, keeps _ _ _ ih.1 fits ih.2 turn⟩

/-- A work that has had a turn has ended or waits. -/
theorem Turns.still (turns : start.Turns answers allowed later) (number : Nat) :
    later.works number = start.works number ∨ (later.works number).isEnded || (later.works number).waits := by
  induction turns with
  | rest => exact .inl rfl
  | @turn crew later other before turn fits ih =>
    by_cases same : number = other
    · subst same
      cases turn with
      | starts goes | resumes _ _ _ goes =>
        rw [works_afterTurn_self]
        exact .inr goes.still
    · rwa [turn.works_of_ne same]

/-- The turn of a work to which surroundings answer what it waits for. -/
def turnOf (world : World) (crew : Crew α) (number : Nat) : Crew α :=
  let (rest, later) := ((crew.works number).answered world).advance Step.atOnce?
    { world with files := crew.files }
  crew.afterTurn number rest later.files

theorem turn_turnOf (worlds : Nat → World) (crew : Crew α) (number : Nat) :
    crew.Turn (fun number => (worlds number).Answers) number (crew.turnOf (worlds number) number) := by
  have goes := Work.goes_advance ((crew.works number).answered (worlds number))
    { worlds number with files := crew.files }
  rcases Work.answered_cases (crew.works number) (worlds number) with
    same | ⟨step, next, answer, turn, waits, comes, same⟩
  · rw [turnOf, same]
    rw [same] at goes
    exact .starts goes
  · rw [turnOf, same]
    rw [same] at goes
    exact .resumes turn waits comes goes

/-- What turns in an order come to, when surroundings of its own answer each work. -/
def played (worlds : Nat → World) (crew : Crew α) (numbers : List Nat) : Crew α :=
  numbers.foldl (fun crew number => crew.turnOf (worlds number) number) crew

theorem turns_played {worlds : Nat → World} {numbers : List Nat}
    (fits : ∀ front, front <+: numbers → allowed (crew.played worlds front)) :
    crew.Turns (fun number => (worlds number).Answers) allowed (crew.played worlds numbers) := by
  induction numbers using List.reverseRecOn with
  | nil => exact .rest
  | append_singleton front number ih =>
    have before := ih fun start shorter => fits start (shorter.trans (List.prefix_append ..))
    have last := fits _ List.prefix_rfl
    rw [played, List.foldl_append] at last ⊢
    exact before.turn (turn_turnOf worlds _ number) last

theorem works_played {worlds : Nat → World} {numbers : List Nat} (apart : other ∉ numbers) :
    (crew.played worlds numbers).works other = crew.works other := by
  induction numbers generalizing crew with
  | nil => rfl
  | cons number rest ih =>
    have others : (crew.turnOf (worlds number) number).works other = crew.works other :=
      (turn_turnOf worlds crew number).works_of_ne (List.ne_of_not_mem_cons apart)
    exact (ih (List.not_mem_of_not_mem_cons apart)).trans others

end Crew

end Montage
