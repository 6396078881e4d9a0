import Montage.Proofs.Graph.Validation
import Montage.Proofs.Numeral

/-! # What the checker accepts

The checker goes through a program once and refuses at the first thing that is wrong. What it accepts can
be said of the program as a whole: pads are produced once and read once, later; all but the output are
read; streams belong to inputs that there are. Nothing else is asked, but that the number of a stream is
short enough to be read as an integer.
-/

namespace Montage.Graph

variable {p : Program} {inputs : Int}

/-- The pads among what is read, without the streams of the engine. -/
def innerPads (pads : List String) : List String := pads.filter fun pad => !isSelector pad

theorem mem_innerPads {pads : List String} {pad : String} :
    pad ∈ innerPads pads ↔ pad ∈ pads ∧ isSelector pad = false := by
  rw [innerPads, List.mem_filter, Bool.not_eq_true']

theorem nodup_innerPads_append {pads : List String} {pad : String} :
    (innerPads (pads ++ [pad])).Nodup ↔
      (innerPads pads).Nodup ∧ (isSelector pad = false → pad ∉ pads) := by
  rw [innerPads, List.filter_append]
  cases plain : isSelector pad with
  | true => simp [innerPads, plain]
  | false =>
    have alone : [pad].filter (fun pad => !isSelector pad) = [pad] := by simp [plain]
    rw [alone, ← List.concat_eq_append, List.nodup_concat, ← innerPads, mem_innerPads]
    simp [plain, and_comm]

/-- A program that is sound over a number of inputs. -/
structure Program.IsSound (p : Program) (inputs : Int) : Prop where
  output_last : ∃ last, p.statements.getLast? = some last ∧ p.outputPad = some last.output
  produced_once : p.producedPads.Nodup
  read_later : ∀ before s after, p.statements = before ++ s :: after →
    ∀ pad ∈ s.inputs, isSelector pad = false → pad ∈ before.map Statement.output
  read_once : (innerPads p.readPads).Nodup
  all_read : ∀ pad ∈ p.producedPads, p.outputPad ≠ some pad → pad ∈ innerPads p.readPads
  stream_known : ∀ pad ∈ p.readPads, isSelector pad = true →
    ∃ n, IsDecimal (splitSelector pad).1 n ∧ (n : Int) < inputs

/-- The number of a stream is no longer than what can be read as an integer. -/
def IsShort (stream : String) : Prop := (splitSelector stream).1.length ≤ integerDigitLimit

/-- The number of a stream can be read as an integer, and is that of an input. -/
def IsInput (inputs : Int) (stream : String) : Prop :=
  ∃ n, readInteger (splitSelector stream).1 = .ok n ∧ (n : Int) < inputs

theorem isInput_iff {stream : String} : IsInput inputs stream ↔
    (∃ n, IsDecimal (splitSelector stream).1 n ∧ (n : Int) < inputs) ∧ IsShort stream := by
  simp only [IsInput, readInteger_eq_ok_iff, IsShort]
  constructor
  · rintro ⟨n, ⟨decimal, short⟩, inside⟩
    exact ⟨⟨n, decimal, inside⟩, short⟩
  · rintro ⟨⟨n, decimal, inside⟩, short⟩
    exact ⟨n, ⟨decimal, short⟩, inside⟩

/-- What is asked of the pads that one statement reads, after other statements. -/
structure Reads (inputs : Int) (before : List Statement) (taken : List String) : Prop where
  later : ∀ pad ∈ taken, isSelector pad = false → pad ∈ before.map Statement.output
  once : (innerPads (before.flatMap Statement.inputs ++ taken)).Nodup
  known : ∀ pad ∈ taken, isSelector pad = true → IsInput inputs pad

/-- What is asked of statements, whatever follows them. -/
structure Passes (inputs : Int) (statements : List Statement) : Prop where
  produced_once : (statements.map Statement.output).Nodup
  read_later : ∀ before s after, statements = before ++ s :: after →
    ∀ pad ∈ s.inputs, isSelector pad = false → pad ∈ before.map Statement.output
  read_once : (innerPads (statements.flatMap Statement.inputs)).Nodup
  stream_known : ∀ pad ∈ statements.flatMap Statement.inputs, isSelector pad = true → IsInput inputs pad

section

variable {before : List Statement} {s : Statement} {taken : List String} {pad : String}

theorem reads_append : Reads inputs before (taken ++ [pad]) ↔ Reads inputs before taken ∧
    (isSelector pad = true → IsInput inputs pad) ∧
    (isSelector pad = false → pad ∈ before.map Statement.output ∧
      pad ∉ before.flatMap Statement.inputs ++ taken) := by
  constructor
  · rintro ⟨later, once, known⟩
    rw [← List.append_assoc, nodup_innerPads_append] at once
    rw [List.forall_mem_append, List.forall_mem_singleton] at later known
    exact ⟨⟨later.1, once.1, known.1⟩, known.2, fun plain => ⟨later.2 plain, once.2 plain⟩⟩
  · rintro ⟨⟨later, once, known⟩, stream, inner⟩
    refine ⟨?_, ?_, ?_⟩
    · rw [List.forall_mem_append, List.forall_mem_singleton]
      exact ⟨later, fun plain => (inner plain).1⟩
    · rw [← List.append_assoc, nodup_innerPads_append]
      exact ⟨once, fun plain => (inner plain).2⟩
    · rw [List.forall_mem_append, List.forall_mem_singleton]
      exact ⟨known, stream⟩

/-- A place in a list with one more element is a place in the list, or that of the element. -/
theorem forall_place_append {property : List Statement → Statement → Prop} :
    (∀ front t back, before ++ [s] = front ++ t :: back → property front t) ↔
      (∀ front t back, before = front ++ t :: back → property front t) ∧ property before s := by
  constructor
  · intro all
    refine ⟨fun front t back place => all front t (back ++ [s]) ?_, all before s [] rfl⟩
    rw [place, List.append_assoc, List.cons_append]
  · rintro ⟨others, last⟩ front t back place
    rcases List.eq_nil_or_concat back with rfl | ⟨middle, final, rfl⟩
    · obtain ⟨rfl, same⟩ := List.append_inj' place rfl
      obtain rfl := List.head_eq_of_cons_eq same
      exact last
    · rw [List.concat_eq_append, ← List.cons_append, ← List.append_assoc] at place
      obtain ⟨rfl, -⟩ := List.append_inj' place rfl
      exact others front t middle rfl

theorem passes_append : Passes inputs (before ++ [s]) ↔
    Passes inputs before ∧ Reads inputs before s.inputs ∧ s.output ∉ before.map Statement.output := by
  have produced : ((before ++ [s]).map Statement.output).Nodup ↔
      (before.map Statement.output).Nodup ∧ s.output ∉ before.map Statement.output := by
    rw [List.map_append, List.map_singleton, ← List.concat_eq_append, List.nodup_concat, and_comm]
  constructor
  · rintro ⟨distinct, later, once, known⟩
    rw [produced] at distinct
    rw [forall_place_append] at later
    rw [List.flatMap_append, List.flatMap_singleton] at once known
    rw [List.forall_mem_append] at known
    have earlier : (innerPads (before.flatMap Statement.inputs)).Nodup := by
      rw [innerPads, List.filter_append] at once
      exact (List.nodup_append.mp once).1
    exact ⟨⟨distinct.1, later.1, earlier, known.1⟩, ⟨later.2, once, known.2⟩, distinct.2⟩
  · rintro ⟨⟨distinct, later, -, known⟩, ⟨last, once, streams⟩, fresh⟩
    refine ⟨produced.mpr ⟨distinct, fresh⟩, forall_place_append.mpr ⟨later, last⟩, ?_, ?_⟩
    · rwa [List.flatMap_append, List.flatMap_singleton]
    · rw [List.flatMap_append, List.flatMap_singleton, List.forall_mem_append]
      exact ⟨known, streams⟩

/-- A pad that is read passes exactly if it may be read at this point. -/
theorem readPad_decides {usage : Usage} {number : Nat} (reads : Reads inputs before taken)
    (tracks : usage.Tracks before (before.flatMap Statement.inputs ++ taken)) :
    Decides (Reads inputs before (taken ++ [pad]))
      (Usage.Tracks · before (before.flatMap Statement.inputs ++ (taken ++ [pad])))
      (usage.readPad inputs number pad) := by
  refine Decides.of_iff ?_ (reads_append.trans (and_iff_right reads)).symm
  rw [Usage.readPad, ← List.append_assoc]
  cases selector : isSelector pad with
  | true =>
    simp only [↓reduceIte, true_implies, Bool.true_eq_false, false_implies, and_true, IsInput]
    cases number : readInteger (splitSelector pad).1 with
    | error cause =>
      rintro ⟨n, same, -⟩
      cases same
    | ok n =>
      simp only [Except.ok.injEq, exists_eq_left']
      split
      · next outside => exact Int.not_lt.mpr outside
      · next inside => exact ⟨Int.not_le.mp inside, tracks.read_stream selector⟩
  | false =>
    have produced : usage.produced.contains pad = true ↔ pad ∈ before.map Statement.output := by
      rw [List.contains_iff_mem, tracks.produced]
    have consumed : usage.consumed.contains pad = true ↔
        pad ∈ before.flatMap Statement.inputs ++ taken := by
      rw [List.contains_iff_mem, tracks.consumed, and_iff_right selector]
    simp only [Bool.false_eq_true, ↓reduceIte, false_implies, true_implies, true_and, ← produced,
      ← consumed]
    cases there : usage.produced.contains pad with
    | false => exact fun both => absurd both.1 Bool.false_ne_true
    | true =>
      cases again : usage.consumed.contains pad with
      | true => exact fun both => both.2 rfl
      | false => exact ⟨⟨rfl, Bool.false_ne_true⟩, tracks.read_pad selector⟩

/-- A statement passes exactly if the statements up to it do. -/
theorem check_decides {usage : Usage} {number : Nat} (passes : Passes inputs before)
    (tracks : usage.Tracks before (before.flatMap Statement.inputs)) :
    Decides (Passes inputs (before ++ [s]))
      (Usage.Tracks · (before ++ [s]) ((before ++ [s]).flatMap Statement.inputs))
      (usage.check inputs (s, number)) := by
  refine Decides.of_iff ?_ (passes_append.trans (and_iff_right passes)).symm
  have reading : Decides (Reads inputs before s.inputs)
      (Usage.Tracks · before (before.flatMap Statement.inputs ++ s.inputs))
      (s.inputs.foldlM (Usage.readPad inputs number) usage) := by
    refine Decides.foldlM (Reads inputs before)
      (fun taken usage => Usage.Tracks usage before (before.flatMap Statement.inputs ++ taken))
      (fun taken pad reads => (reads_append.mp reads).1)
      (fun taken pad usage reads tracks => readPad_decides reads tracks) ?_ ?_
    · exact ⟨List.forall_mem_nil _, by simpa using passes.read_once, List.forall_mem_nil _⟩
    · simpa using tracks
  refine reading.bind fun usage _ tracks => ?_
  have produced : usage.produced.contains s.output = true ↔ s.output ∈ before.map Statement.output := by
    rw [List.contains_iff_mem, tracks.produced]
  simp only [← produced]
  split
  · next again => exact fun fresh => fresh again
  · next fresh =>
    rw [List.flatMap_append, List.flatMap_singleton]
    exact ⟨fresh, tracks.produce s⟩

end

/-- The statements of a program pass exactly if what is asked of them holds. -/
theorem follow_decides (p : Program) (inputs : Int) :
    Decides (Passes inputs p.statements) (Usage.Tracks · p.statements p.readPads)
      (p.statements.zipIdx.foldlM (Usage.check inputs) {}) := by
  have all : Decides (Passes inputs (p.statements.zipIdx.map Prod.fst))
      (Usage.Tracks · (p.statements.zipIdx.map Prod.fst)
        ((p.statements.zipIdx.map Prod.fst).flatMap Statement.inputs))
      (p.statements.zipIdx.foldlM (Usage.check inputs) {}) := by
    refine Decides.foldlM (fun taken => Passes inputs (taken.map Prod.fst))
      (fun taken usage => Usage.Tracks usage (taken.map Prod.fst)
        ((taken.map Prod.fst).flatMap Statement.inputs)) ?_ ?_ ?_ ⟨by simp, by simp⟩
    · intro before last passes
      rw [List.map_append, List.map_singleton] at passes
      exact (passes_append.mp passes).1
    · intro before ⟨s, number⟩ usage passes tracks
      rw [List.map_append, List.map_singleton]
      exact check_decides passes tracks
    · exact ⟨List.nodup_nil, by simp, List.nodup_nil, List.forall_mem_nil _⟩
  simpa [Program.readPads] using all

/-- A program is sound exactly if its statements pass and its output is as it should be, but for the numbers
of streams, which pass only if they are short. -/
theorem Program.isSound_iff :
    (p.IsSound inputs ∧ ∀ pad ∈ p.readPads, isSelector pad = true → IsShort pad) ↔
    Passes inputs p.statements ∧
      (∃ last, p.statements.getLast? = some last ∧ p.outputPad = some last.output) ∧
      ∀ pad ∈ p.producedPads, p.outputPad ≠ some pad → pad ∈ innerPads p.readPads := by
  constructor
  · rintro ⟨sound, short⟩
    refine ⟨⟨sound.produced_once, sound.read_later, sound.read_once, fun pad read selector => ?_⟩,
      sound.output_last, sound.all_read⟩
    exact isInput_iff.mpr ⟨sound.stream_known pad read selector, short pad read selector⟩
  · rintro ⟨passes, output, read⟩
    refine ⟨⟨output, passes.produced_once, passes.read_later, passes.read_once, read, ?_⟩, ?_⟩
    · exact fun pad read selector => (isInput_iff.mp (passes.stream_known pad read selector)).1
    · exact fun pad read selector => (isInput_iff.mp (passes.stream_known pad read selector)).2

/-- Nothing is left over exactly if all but the output is read. -/
theorem Usage.Tracks.unread_eq_nil_iff {usage : Usage} {last : Statement}
    (tracks : usage.Tracks p.statements p.readPads) (output : p.outputPad = some last.output) :
    (usage.produced.filter fun pad => !usage.consumed.contains pad && pad != last.output) = [] ↔
      ∀ pad ∈ p.producedPads, p.outputPad ≠ some pad → pad ∈ innerPads p.readPads := by
  rw [List.filter_eq_nil_iff]
  refine forall_congr' fun pad => ?_
  rw [tracks.produced, mem_innerPads, output, and_comm, ← tracks.consumed, Program.producedPads]
  refine imp_congr_right fun _ => ?_
  have other : some last.output ≠ some pad ↔ (pad != last.output) = true := by
    rw [bne_iff_ne, ne_eq, Option.some.injEq, eq_comm]
  rw [other, Bool.and_eq_true, not_and', Bool.not_eq_true', ← Bool.not_eq_true, not_not,
    List.contains_iff_mem]

theorem validate_decides (p : Program) (inputs : Int) :
    Decides (Passes inputs p.statements ∧
      (∃ last, p.statements.getLast? = some last ∧ p.outputPad = some last.output) ∧
      ∀ pad ∈ p.producedPads, p.outputPad ≠ some pad → pad ∈ innerPads p.readPads)
      (fun _ => True) (p.validate inputs) := by
  refine (follow_decides p inputs).bind fun usage _ tracks => ?_
  cases ends : p.statements.getLast? with
  | none => exact fun ⟨⟨last, same, _⟩, _⟩ => nomatch same
  | some last =>
    simp only [Option.some.injEq, exists_eq_left']
    split
    · next other => exact fun ⟨output, _⟩ => other output
    · next output =>
      rw [ne_eq, not_not] at output
      rw [← tracks.unread_eq_nil_iff output]
      split
      · next nothing => exact ⟨⟨output, nothing⟩, trivial⟩
      · next some => exact fun ⟨_, nothing⟩ => some nothing

/-- The checker accepts exactly the programs that are sound, provided that the numbers of streams are short
enough to be read. -/
theorem validate_eq_ok_iff : p.validate inputs = .ok () ↔
    p.IsSound inputs ∧ ∀ pad ∈ p.readPads, isSelector pad = true → IsShort pad := by
  rw [Program.isSound_iff]
  exact (validate_decides p inputs).eq_ok_iff

end Montage.Graph
