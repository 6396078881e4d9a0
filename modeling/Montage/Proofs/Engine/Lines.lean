import Mathlib.Data.List.DropRight
import Mathlib.Logic.Function.Basic
import Montage.Engine.Run
import Montage.Proofs.Engine.LineReader

/-! # The lines that a run hands on

The pieces of both streams arrive in any order and with any ends. What the handler of lines is given of a
stream that has ended depends on the octets of that stream alone, and a failure of the engine keeps the last
of the lines of messages that were handed on.
-/

namespace Montage.Engine

open Text.Utf8 (replaceFaults decode)

variable {σ ε : Type} {limit : Binary64} {onLine : σ → Line → Except (LineFault ε) σ}

/-- The lines of a stream among those of both. -/
def linesOf (channel : Channel) (lines : List Line) : List String :=
  (lines.filter fun line => line.channel == channel).map Line.text

theorem linesOf_append_self (channel : Channel) (lines : List Line) (texts : List String) :
    linesOf channel (lines ++ texts.map (Line.mk channel)) = linesOf channel lines ++ texts := by
  have all : (texts.map (Line.mk channel)).filter (fun line => line.channel == channel) =
      texts.map (Line.mk channel) := by
    rw [List.filter_eq_self, List.forall_mem_map]
    exact fun _ _ => beq_self_eq_true channel
  rw [linesOf, List.filter_append, all, List.map_append, List.map_map, ← linesOf]
  exact congrArg _ (List.map_id texts)

theorem linesOf_append_other {channel other : Channel} (apart : other ≠ channel) (lines : List Line)
    (texts : List String) :
    linesOf other (lines ++ texts.map (Line.mk channel)) = linesOf other lines := by
  have none : (texts.map (Line.mk channel)).filter (fun line => line.channel == other) = [] := by
    rw [List.filter_eq_nil_iff, List.forall_mem_map]
    intro text _
    rw [beq_iff_eq]
    exact apart.symm
  rw [linesOf, List.filter_append, none, List.append_nil, ← linesOf]

/-- The last lines after more lines. -/
theorem keepTail_rtake (lines : List String) (line : String) :
    keepTail (lines.rtake tailLength) line = (lines ++ [line]).rtake tailLength := by
  simp only [keepTail, List.rtake, List.length_append, List.length_drop, List.length_singleton,
    tailLength]
  rw [List.drop_append_of_le_length (by rw [List.length_drop]; omega), List.drop_drop,
    List.drop_append_of_le_length (by omega)]
  congr 2
  omega

theorem foldl_keepTail (lines more : List String) :
    more.foldl keepTail (lines.rtake tailLength) = (lines ++ more).rtake tailLength := by
  induction more generalizing lines with
  | nil => rw [List.append_nil]; rfl
  | cons line more ih => rw [List.foldl_cons, keepTail_rtake, ih, List.append_assoc]; rfl

/-- The lines that octets hold: the trimmed pieces between line breaks that are not blank. -/
def linesIn (octets : List UInt8) : List String :=
  trimLines ((replaceFaults (decode octets)).splitOnP isLineBreak)

/-- The octets that are written to a stream, up to its end. -/
def written (channel : Channel) : List RunEvent → List UInt8
  | [] => []
  | .arrived other octets :: rest =>
    if other = channel then if octets = [] then [] else octets ++ written channel rest
    else written channel rest
  | _ :: rest => written channel rest

/-- The lines of messages that are kept after more lines of a stream. -/
def tailAfter (tail texts : List String) : Channel → List String
  | .stdout => tail
  | .stderr => texts.foldl keepTail tail

theorem tailAfter_eq (lines : List Line) (texts : List String) (channel : Channel) :
    tailAfter ((linesOf .stderr lines).rtake tailLength) texts channel =
      (linesOf .stderr (lines ++ texts.map (Line.mk channel))).rtake tailLength := by
  cases channel with
  | stdout => rw [linesOf_append_other (by decide), tailAfter]
  | stderr => rw [linesOf_append_self, tailAfter, foldl_keepTail]

section

variable {channel other : Channel} {octets : List UInt8} {rest : List RunEvent}

theorem written_other (apart : other ≠ channel) :
    written other (.arrived channel octets :: rest) = written other rest := by
  rw [written, if_neg apart.symm]

theorem written_end : written channel (.arrived channel [] :: rest) = [] := by
  rw [written, if_pos rfl, if_pos rfl]

theorem written_piece (some : octets ≠ []) :
    written channel (.arrived channel octets :: rest) = octets ++ written channel rest := by
  rw [written, if_pos rfl, if_neg some]

end

namespace Run

variable {run : Run σ ε}

/-- Lines that the handler does not fail on. -/
theorem handle_eq {channel : Channel} {texts : List String}
    (fine : (handle onLine channel run texts).fault = none) :
    ∃ mind, (texts.map (Line.mk channel)).foldlM onLine run.mind = .ok mind ∧
      handle onLine channel run texts =
        { run with mind := mind, tail := tailAfter run.tail texts channel } := by
  induction texts generalizing run with
  | nil => exact ⟨run.mind, rfl, by cases channel <;> rfl⟩
  | cons text rest ih =>
    have same : (run.note channel text).mind = run.mind := by cases channel <;> rfl
    rw [handle] at fine ⊢
    simp only [same] at fine ⊢
    cases taken : onLine run.mind ⟨channel, text⟩ with
    | error fault =>
      rw [taken] at fine
      cases fine
    | ok mind =>
      rw [taken] at fine
      obtain ⟨last, others, result⟩ := ih fine
      refine ⟨last, ?_, ?_⟩
      · rw [List.map_cons, List.foldlM_cons, taken]
        exact others
      · exact result.trans (by cases channel <;> rfl)

/-- What a run has handed on, when so many octets of each stream have arrived. -/
structure HasHanded (onLine : σ → Line → Except (LineFault ε) σ) (first : σ)
    (past : Channel → List UInt8) (run : Run σ ε) (handed : List Line) : Prop where
  takes : handed.foldlM onLine first = .ok run.mind
  reading : ∀ channel reader, run.reader channel = some reader →
    reader.HasRead (past channel) (linesOf channel handed)
  closed : ∀ channel, run.reader channel = none → linesOf channel handed = linesIn (past channel)
  tail : run.tail = (linesOf .stderr handed).rtake tailLength
  failed : ∀ fault, run.ended = some (.failed fault) → fault.tail = run.tail

/-- Runs that read both streams alike. -/
theorem reader_congr {next : Run σ ε} (stdout : next.stdout = run.stdout)
    (stderr : next.stderr = run.stderr) (channel : Channel) : next.reader channel = run.reader channel := by
  cases channel with
  | stdout => exact stdout
  | stderr => exact stderr

theorem reader_setReader_self (run : Run σ ε) (channel : Channel) (reader : Option LineReader) :
    (run.setReader channel reader).reader channel = reader := by
  cases channel <;> rfl

theorem reader_setReader_other {channel other : Channel} (apart : other ≠ channel) (run : Run σ ε)
    (reader : Option LineReader) : (run.setReader channel reader).reader other = run.reader other := by
  cases channel <;> cases other <;> first | rfl | exact absurd rfl apart

namespace HasHanded

variable {first : σ} {past : Channel → List UInt8} {handed : List Line} {channel : Channel}

/-- More lines of a stream are handed on, and its reader goes on or not. -/
theorem handle (has : HasHanded onLine first past run handed) (going : run.ended = none)
    {reader : Option LineReader} {texts : List String} {octets : List UInt8}
    (fine : (handle onLine channel (run.setReader channel reader) texts).fault = none)
    (reading : ∀ given, reader = some given →
      given.HasRead octets (linesOf channel handed ++ texts))
    (closed : reader = none → linesOf channel handed ++ texts = linesIn octets) :
    HasHanded onLine first (Function.update past channel octets)
      (Run.handle onLine channel (run.setReader channel reader) texts)
      (handed ++ texts.map (Line.mk channel)) := by
  obtain ⟨mind, others, result⟩ := handle_eq fine
  have kept : (run.setReader channel reader).mind = run.mind ∧
      (run.setReader channel reader).tail = run.tail ∧
      (run.setReader channel reader).ended = run.ended := by
    cases channel <;> exact ⟨rfl, rfl, rfl⟩
  rw [kept.1] at others
  rw [result, kept.2.1]
  have readers (other : Channel) : Run.reader { run.setReader channel reader with
      mind := mind, tail := tailAfter run.tail texts channel } other =
      (run.setReader channel reader).reader other := reader_congr rfl rfl other
  refine ⟨?_, fun other given here => ?_, fun other here => ?_, ?_, fun fault ended => ?_⟩
  · rw [List.foldlM_append, has.takes]
    exact others
  · rw [readers] at here
    by_cases same : other = channel
    · subst same
      rw [reader_setReader_self] at here
      rw [linesOf_append_self, Function.update_self]
      exact reading given here
    · rw [reader_setReader_other same] at here
      rw [linesOf_append_other same, Function.update_of_ne same]
      exact has.reading other given here
  · rw [readers] at here
    by_cases same : other = channel
    · subst same
      rw [reader_setReader_self] at here
      rw [linesOf_append_self, Function.update_self]
      exact closed here
    · rw [reader_setReader_other same] at here
      rw [linesOf_append_other same, Function.update_of_ne same]
      exact has.closed other here
  · rw [has.tail, tailAfter_eq]
  · rw [kept.2.2, going] at ended
    cases ended

/-- A piece arrives at a stream that is read. -/
theorem arrive (has : HasHanded onLine first past run handed) (going : run.ended = none)
    {reader : LineReader} (reads : run.reader channel = some reader) {octets : List UInt8}
    (fine : (run.arrive onLine channel octets).fault = none) :
    ∃ more, HasHanded onLine first (Function.update past channel (past channel ++ octets))
      (run.arrive onLine channel octets) (handed ++ more) := by
  have before := has.reading channel reader reads
  simp only [Run.arrive, reads] at fine ⊢
  by_cases ends : octets = []
  · simp only [ends, ↓reduceIte, List.append_nil] at fine ⊢
    exact ⟨_, has.handle going fine nofun fun _ => before.finish⟩
  · simp only [ends, ↓reduceIte] at fine ⊢
    refine ⟨_, has.handle going fine (fun given same => ?_) nofun⟩
    obtain rfl := Option.some.inj same
    exact before.read octets

/-- Nothing arrives, and the run ends or not. -/
theorem idle (has : HasHanded onLine first past run handed) {next : Run σ ε}
    (mind : next.mind = run.mind) (tail : next.tail = run.tail) (stdout : next.stdout = run.stdout)
    (stderr : next.stderr = run.stderr)
    (failed : ∀ fault, next.ended = some (.failed fault) → fault.tail = run.tail) :
    HasHanded onLine first past next handed := by
  refine ⟨by rw [mind, has.takes], fun channel given here => ?_, fun channel here => ?_, ?_, ?_⟩
  · exact has.reading channel given (reader_congr stdout stderr channel ▸ here)
  · exact has.closed channel (reader_congr stdout stderr channel ▸ here)
  · rw [tail, has.tail]
  · rwa [tail]

theorem abort (has : HasHanded onLine first past run handed) {last : RunEnd ε}
    (failed : ∀ fault, last = .failed fault → fault.tail = run.tail) :
    HasHanded onLine first past (run.abort last) handed :=
  has.idle rfl rfl rfl rfl fun fault ended => failed fault (Option.some.inj ended)

theorem expire (has : HasHanded onLine first past run handed) (limit : Binary64) :
    HasHanded onLine first past (run.expire limit) handed :=
  has.abort fun _ same => RunEnd.failed.inj same ▸ rfl

theorem resume (has : HasHanded onLine first past run handed) (limit : Binary64) :
    HasHanded onLine first past (run.resume limit) handed := by
  have ending {last : RunEnd ε} (failed : ∀ fault, last = .failed fault → fault.tail = run.tail) :
      HasHanded onLine first past { run with ended := some last } handed :=
    has.idle rfl rfl rfl rfl fun fault same => failed fault (Option.some.inj same)
  unfold Run.resume
  split
  · refine ending fun fault same => ?_
    cases same
  · exact has.expire limit
  · refine has.abort fun fault same => ?_
    cases same
  · split
    · refine ending fun fault same => ?_
      split at same
      · cases same
      · exact RunEnd.failed.inj same ▸ rfl
    · exact has

end HasHanded

/-- The octets that a stream will have got when some more events have happened; a stream that has ended gets
no more. -/
def upcoming (run : Run σ ε) (past : Channel → List UInt8) (events : List RunEvent)
    (channel : Channel) : List UInt8 :=
  if (run.reader channel).isNone then past channel else past channel ++ written channel events

variable {first : σ} {past : Channel → List UInt8} {handed : List Line}

/-- Lines of a stream that the handler does not fail on change neither the failure nor any reader. -/
theorem handle_kept {channel : Channel} {reader : Option LineReader} {texts : List String}
    (fine : (handle onLine channel (run.setReader channel reader) texts).fault = none) :
    run.fault = none ∧
      (∀ other, other ≠ channel →
        (handle onLine channel (run.setReader channel reader) texts).reader other = run.reader other) ∧
      (handle onLine channel (run.setReader channel reader) texts).reader channel = reader := by
  obtain ⟨mind, -, result⟩ := handle_eq fine
  rw [result] at fine ⊢
  have faults : (run.setReader channel reader).fault = run.fault := by cases channel <;> rfl
  refine ⟨faults ▸ fine, fun other apart => ?_, ?_⟩
  · exact (reader_congr rfl rfl other).trans (reader_setReader_other apart run reader)
  · exact (reader_congr rfl rfl channel).trans (reader_setReader_self run channel reader)

/-- A piece changes neither the failure nor the reader of the other stream, and ends its own stream if it is
empty. -/
theorem arrive_kept {channel : Channel} {octets : List UInt8}
    (fine : (run.arrive onLine channel octets).fault = none) : run.fault = none ∧
      (∀ other, other ≠ channel → (run.arrive onLine channel octets).reader other = run.reader other) ∧
      ((run.arrive onLine channel octets).reader channel = none ↔
        run.reader channel = none ∨ octets = []) := by
  unfold arrive at fine ⊢
  cases reads : run.reader channel with
  | none =>
    simp only [reads] at fine ⊢
    exact ⟨fine, fun _ _ => trivial, by simp⟩
  | some reader =>
    simp only [reads] at fine ⊢
    by_cases ends : octets = []
    · simp only [ends, ↓reduceIte] at fine ⊢
      obtain ⟨before, others, own⟩ := handle_kept fine
      exact ⟨before, others, by simp [own]⟩
    · simp only [ends, ↓reduceIte] at fine ⊢
      obtain ⟨before, others, own⟩ := handle_kept fine
      exact ⟨before, others, by simp [own]⟩

/-- Resuming changes neither the failure nor the readers. -/
theorem resume_kept (run : Run σ ε) (limit : Binary64) : (run.resume limit).fault = run.fault ∧
    (run.resume limit).stdout = run.stdout ∧ (run.resume limit).stderr = run.stderr := by
  unfold resume
  split
  · exact ⟨rfl, rfl, rfl⟩
  · exact ⟨rfl, rfl, rfl⟩
  · exact ⟨rfl, rfl, rfl⟩
  · split <;> exact ⟨rfl, rfl, rfl⟩

theorem step_fault {event : RunEvent} (fine : (run.step limit onLine event).fault = none) :
    run.fault = none := by
  unfold step at fine
  split at fine
  · exact fine
  · cases event with
    | arrived channel octets => exact (arrive_kept fine).1
    | resumed => rwa [(resume_kept run limit).1] at fine
    | exited | expired | cancelled => exact fine

theorem follow_fault {events : List RunEvent} (fine : (run.follow limit onLine events).fault = none) :
    run.fault = none := by
  induction events generalizing run with
  | nil => exact fine
  | cons event rest ih => exact step_fault (ih fine)

/-- One event. -/
theorem HasHanded.step (has : HasHanded onLine first past run handed) (going : run.ended = none)
    (event : RunEvent) (fine : (run.step limit onLine event).fault = none) :
    ∃ past' more, HasHanded onLine first past' (run.step limit onLine event) (handed ++ more) ∧
      ∀ rest channel, upcoming (run.step limit onLine event) past' rest channel =
        upcoming run past (event :: rest) channel := by
  have quiet {next : Run σ ε} (here : HasHanded onLine first past next handed)
      (stdout : next.stdout = run.stdout) (stderr : next.stderr = run.stderr)
      (other : ∀ rest channel, written channel (event :: rest) = written channel rest) :
      ∃ past' more, HasHanded onLine first past' next (handed ++ more) ∧ ∀ rest channel,
        upcoming next past' rest channel = upcoming run past (event :: rest) channel := by
    refine ⟨past, [], by rwa [List.append_nil], fun rest channel => ?_⟩
    rw [upcoming, upcoming, reader_congr stdout stderr, other]
  cases event with
  | arrived channel octets =>
    simp only [Run.step, going] at fine ⊢
    obtain ⟨-, apart, ends⟩ := arrive_kept fine
    cases reads : run.reader channel with
    | none =>
      have same : run.arrive onLine channel octets = run := by simp only [Run.arrive, reads]
      rw [same]
      refine ⟨past, [], by rwa [List.append_nil], fun rest other => ?_⟩
      by_cases here : other = channel
      · rw [upcoming, upcoming, here, reads]
        rfl
      · rw [upcoming, upcoming, written_other here]
    | some reader =>
      obtain ⟨more, handed⟩ := has.arrive going reads fine
      refine ⟨_, more, handed, fun rest other => ?_⟩
      by_cases here : other = channel
      · subst here
        rw [upcoming, upcoming, reads, Function.update_self]
        by_cases empty : octets = []
        · rw [ends.mpr (.inr empty), empty, written_end]
          rfl
        · have goes : ((run.arrive onLine other octets).reader other).isNone = false := by
            rw [← Bool.not_eq_true, Option.isNone_iff_eq_none, ends, reads]
            simpa using empty
          rw [goes, written_piece empty]
          exact List.append_assoc ..
      · rw [upcoming, upcoming, apart other here, Function.update_of_ne here, written_other here]
  | exited code =>
    simp only [Run.step, going]
    refine quiet (has.idle rfl rfl rfl rfl fun fault ended => ?_) rfl rfl fun _ _ => rfl
    cases ended
  | resumed =>
    simp only [Run.step, going]
    obtain ⟨-, stdout, stderr⟩ := resume_kept run limit
    exact quiet (has.resume limit) stdout stderr fun _ _ => rfl
  | expired =>
    simp only [Run.step, going]
    exact quiet (has.expire limit) rfl rfl fun _ _ => rfl
  | cancelled =>
    simp only [Run.step, going]
    refine quiet (has.abort fun fault same => ?_) rfl rfl fun _ _ => rfl
    cases same

theorem step_of_ended {last : RunEnd ε} (ended : run.ended = some last) (event : RunEvent) :
    run.step limit onLine event = run := by
  simp only [step, ended]

theorem follow_of_ended {last : RunEnd ε} (ended : run.ended = some last) (events : List RunEvent) :
    run.follow limit onLine events = run := by
  induction events with
  | nil => rfl
  | cons event rest ih =>
    rw [follow, List.foldl_cons, step_of_ended ended]
    exact ih

/-- Any events. Once a stream has ended, what it has got is all that was to come. -/
theorem HasHanded.follow (has : HasHanded onLine first past run handed) {events : List RunEvent}
    (fine : (run.follow limit onLine events).fault = none) :
    ∃ past' more, HasHanded onLine first past' (run.follow limit onLine events) (handed ++ more) ∧
      ∀ channel, (run.follow limit onLine events).reader channel = none →
        past' channel = upcoming run past events channel := by
  have closed {past' : Channel → List UInt8} {next : Run σ ε} (events : List RunEvent) (channel : Channel)
      (none : next.reader channel = none) : past' channel = upcoming next past' events channel := by
    rw [upcoming, none]
    rfl
  induction events generalizing run past handed with
  | nil => exact ⟨past, [], by rwa [List.append_nil], closed []⟩
  | cons event rest ih =>
    cases ended : run.ended with
    | some last =>
      rw [follow_of_ended ended]
      exact ⟨past, [], by rwa [List.append_nil], closed _⟩
    | none =>
      have goes : run.follow limit onLine (event :: rest) =
          (run.step limit onLine event).follow limit onLine rest := rfl
      rw [goes] at fine ⊢
      obtain ⟨past', more, here, same⟩ := has.step ended event (follow_fault fine)
      obtain ⟨past'', others, later, total⟩ := ih here fine
      refine ⟨past'', more ++ others, by rwa [← List.append_assoc], fun channel none => ?_⟩
      rw [total channel none, same]

/-- What a run hands on with all its events. -/
theorem hasHanded_execute {mind : σ} {events : List RunEvent}
    (fine : (({ mind := mind } : Run σ ε).execute limit onLine events).fault = none) :
    ∃ past handed,
      HasHanded onLine mind past (({ mind := mind } : Run σ ε).execute limit onLine events) handed ∧
      ∀ channel, (({ mind := mind } : Run σ ε).execute limit onLine events).reader channel = none →
        past channel = written channel events := by
  have first : HasHanded onLine mind (fun _ => []) { mind := mind } [] := by
    refine ⟨rfl, fun channel reader here => ?_, fun channel here => ?_, rfl, fun fault failed => ?_⟩
    · obtain rfl : {} = reader := by cases channel <;> exact Option.some.inj here
      exact LineReader.hasRead_start
    · cases channel <;> cases here
    · cases failed
  obtain ⟨past, more, has, total⟩ := first.follow fine
  refine ⟨past, more, has, fun channel none => (total channel none).trans ?_⟩
  -- a limit that leaves no time strikes first, which writes nothing
  have quiet : written channel (if limit.le .zero then .expired :: events else events) =
      written channel events := by
    split <;> rfl
  rw [← quiet]
  cases channel <;> rfl

/-- As long as the handler does not fail, it makes no difference in what pieces and in what order the octets
of both streams arrive: the lines that are handed on of a stream that has ended are the trimmed pieces, if not
blank, between the line breaks of the characters that all its octets stand for. If the engine fails, the
last of the lines of messages that were handed on are kept. -/
theorem execute_hands_on (limit : Binary64) (onLine : σ → Line → Except (LineFault ε) σ) (mind : σ)
    (events : List RunEvent)
    (fine : (({ mind := mind } : Run σ ε).execute limit onLine events).fault = none) :
    ∃ handed,
      handed.foldlM onLine mind = .ok (({ mind := mind } : Run σ ε).execute limit onLine events).mind ∧
      (∀ channel, (({ mind := mind } : Run σ ε).execute limit onLine events).reader channel = none →
        ∃ chars, (∀ other, Text.Utf8.Decodes (written channel events) other ↔ other = chars) ∧
          linesOf channel handed = trimLines (chars.splitOnP isLineBreak)) ∧
      ∀ fault, (({ mind := mind } : Run σ ε).execute limit onLine events).ended = some (.failed fault) →
        fault.tailText = "\n".intercalate ((linesOf .stderr handed).rtake tailLength) := by
  obtain ⟨past, handed, has, total⟩ := hasHanded_execute fine
  refine ⟨handed, has.takes, fun channel closed => ?_, fun fault failed => ?_⟩
  · refine ⟨_, fun other => Text.Utf8.decodes_iff, ?_⟩
    rw [has.closed channel closed, total channel closed]
    rfl
  · rw [Fault.tailText, has.failed fault failed, has.tail]

/-- A handler that keeps all lines in mind. -/
def keepLine (seen : List Line) (line : Line) : Except (LineFault ε) (List Line) := .ok (seen ++ [line])

/-- It has been given those that it has in mind. -/
theorem foldlM_keepLine (seen handed : List Line) :
    handed.foldlM (keepLine (ε := ε)) seen = .ok (seen ++ handed) := by
  induction handed generalizing seen with
  | nil => rw [List.append_nil]; rfl
  | cons line rest ih => exact (ih (seen ++ [line])).trans (by rw [List.append_assoc]; rfl)

/-- A line with an umlaut and a character that is broken off, in pieces that end inside the umlaut and between
the two ends of a line; the engine fails. -/
def brokenUp : List RunEvent :=
  [.arrived .stderr [0x20, 0x66, 0xC3], .arrived .stdout [0x78], .arrived .stderr [0xBC, 0x72, 0x0D],
    .arrived .stderr [0x0A, 0x20, 0x0A, 0xE2, 0x82], .arrived .stdout [], .arrived .stderr [], .exited 3,
    .resumed]

/-- A run that keeps its lines in mind. -/
def brokenUpRun : Run (List Line) JobFault := ({ mind := [] } : Run _ _).execute 600 keepLine brokenUp

theorem brokenUpRun_handed_on : brokenUpRun.fault = none ∧
    brokenUpRun.mind = [⟨.stderr, "für"⟩, ⟨.stdout, "x"⟩, ⟨.stderr, "\uFFFD"⟩] ∧
    (∃ chars, (∀ other, Text.Utf8.Decodes (written .stderr brokenUp) other ↔ other = chars) ∧
      linesOf .stderr brokenUpRun.mind = trimLines (chars.splitOnP isLineBreak)) ∧
    ∃ fault, brokenUpRun.ended = some (.failed fault) ∧
      fault.tailText = "\n".intercalate ((linesOf .stderr brokenUpRun.mind).rtake tailLength) := by
  have fine : brokenUpRun.fault = none := by decide +kernel
  have ended : brokenUpRun.ended = some (.failed (.exited 3 ["für", "\uFFFD"])) := by decide +kernel
  obtain ⟨handed, takes, closed, failed⟩ := execute_hands_on 600 keepLine [] brokenUp fine
  have same : handed = brokenUpRun.mind := Except.ok.inj ((foldlM_keepLine [] handed).symm.trans takes)
  rw [← same]
  refine ⟨fine, ?_, closed .stderr (by decide +kernel), _, ended, failed _ ended⟩
  rw [same]
  decide +kernel

end Run

end Montage.Engine
