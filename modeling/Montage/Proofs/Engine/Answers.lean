import Montage.Proofs.Engine.Report
import Montage.Proofs.Numeral
import Montage.Proofs.Text.Search

/-! # What a reader can answer

A line of the engine is read into texts and numbers. The texts can be anything. The numbers are those that
their numerals stand for, and there are numerals for what is no finite number, and runs of digits that
are too long for an integer. Whether all that a reader answers can be written down therefore depends on these
places of the lines alone.
-/

namespace Montage

namespace Engine

/-- A numeral stands for a finite number, unless the text is no numeral at all. -/
def IsFiniteNumeral (text : String) : Prop := ∀ x ∈ readNumeral? text.toList, x.isFinite = true

instance (text : String) : Decidable (IsFiniteNumeral text) :=
  inferInstanceAs (Decidable (∀ x ∈ readNumeral? text.toList, x.isFinite = true))

/-- A value that can be written down: a text, an integer or a finite number. -/
def IsPlainValue : Json → Prop
  | .str _ | .int _ => True
  | .num x => x.isFinite = true
  | _ => False

/-- A report of which every value can be written down. -/
def Report.IsPlain (report : Report) : Prop :=
  ∀ data ∈ report.data, ∀ entry ∈ data, IsPlainValue entry.2

/-- An answer without a fault, of which every value can be written down. -/
def IsSound (answer : Except ReportFault (Option Report)) : Prop :=
  Gives (fun found => ∀ report ∈ found, report.IsPlain) answer

theorem isSound_map {reading : Except ReportFault Report} :
    IsSound (reading.map some) ↔ Gives Report.IsPlain reading := by
  rw [IsSound, Gives.map_iff]
  refine Gives.congr fun report _ => ?_
  simp

namespace Report

/-- The keys of blocks whose values are read as numbers. -/
def holdsNumber (key : String) : Bool := countKeys.contains key || key == "fps"

theorem isStreamKey_of_holdsNumber {key : String} (number : holdsNumber key = true) :
    isStreamKey key = false := by
  have all : ∀ key ∈ "fps" :: countKeys, isStreamKey key = false := by decide
  refine all key ?_
  rw [holdsNumber, Bool.or_eq_true, List.contains_iff_mem, beq_iff_eq, or_comm] at number
  exact List.mem_cons.mpr number

theorem fieldValue_plain {text : String} : IsPlainValue (fieldValue text) ↔ IsFiniteNumeral text := by
  rw [fieldValue, IsFiniteNumeral]
  cases readNumeral? text.toList with
  | none => exact iff_of_true trivial fun _ other => nomatch other
  | some x => exact ⟨fun finite _ same => Option.some.inj same ▸ finite, fun all => all x rfl⟩

theorem truncate_gives {x : Binary64} : Gives IsPlainValue (x.truncate.map Json.int) ↔ x.isFinite = true := by
  cases x with
  | finite | negZero => exact iff_of_true ⟨_, rfl, trivial⟩ rfl
  | infinite | nan => exact iff_of_false Gives.error_iff.mp Bool.false_ne_true

theorem countValue_gives {text : String} : Gives IsPlainValue (countValue text) ↔ IsFiniteNumeral text := by
  rw [countValue, IsFiniteNumeral]
  cases readNumeral? text.toList with
  | none => exact iff_of_true (Gives.ok_iff.mpr trivial) fun _ other => nomatch other
  | some x =>
    refine (Gives.mapError_iff.trans truncate_gives).trans ?_
    exact ⟨fun finite _ same => Option.some.inj same ▸ finite, fun all => all x rfl⟩

theorem blockValue_gives {key text : String} : Gives IsPlainValue (blockValue key text) ↔
    (holdsNumber key = true → IsFiniteNumeral text) := by
  rw [blockValue, holdsNumber]
  cases counts : countKeys.contains key with
  | true => simpa using countValue_gives
  | false =>
    by_cases rate : key = "fps"
    · simpa [rate] using fieldValue_plain
    · simp [rate, IsPlainValue]

/-- The data of a block can be written down exactly if all its numbers can. -/
theorem blockData_gives {block : List (String × String)} :
    Gives (fun data => ∀ entry ∈ data, IsPlainValue entry.2) (blockData block) ↔
      ∀ entry ∈ block, holdsNumber entry.1 = true → IsFiniteNumeral entry.2 := by
  induction block with
  | nil => exact iff_of_true (Gives.ok_iff.mpr (List.forall_mem_nil _)) (List.forall_mem_nil _)
  | cons entry rest ih =>
    obtain ⟨key, text⟩ := entry
    rw [List.forall_mem_cons, ← ih, blockData]
    split
    · next stream =>
      have other (number : holdsNumber key = true) : IsFiniteNumeral text := by
        rw [isStreamKey_of_holdsNumber number] at stream
        cases stream
      rw [and_iff_right other]
    · rw [← blockValue_gives, Gives.bind_iff, and_comm, ← Gives.and_iff]
      refine Gives.congr fun value _ => ?_
      rw [Gives.bind_iff, and_comm, ← Gives.and_iff]
      refine Gives.congr fun others _ => ?_
      exact Gives.ok_iff.trans List.forall_mem_cons

theorem ofBlock_gives {block : List (String × String)} : Gives Report.IsPlain (ofBlock block) ↔
    ∀ entry ∈ block, holdsNumber entry.1 = true → IsFiniteNumeral entry.2 := by
  rw [ofBlock, ← blockData_gives, Gives.bind_iff]
  refine Gives.congr fun data _ => Gives.ok_iff.trans ?_
  simp [Report.IsPlain]

/-- The number of frames on a line is short enough to be read. -/
def HasShortFrame (line : List Char) : Prop :=
  ∀ digits ∈ digitField? "frame=" line, digits.length ≤ integerDigitLimit

instance (line : List Char) : Decidable (HasShortFrame line) :=
  inferInstanceAs (Decidable (∀ digits ∈ digitField? "frame=" line, digits.length ≤ integerDigitLimit))

/-- The rate on a line stands for a finite number. -/
def HasFiniteRate (line : List Char) : Prop := ∀ text ∈ numeralField? "fps=" line, IsFiniteNumeral text

instance (line : List Char) : Decidable (HasFiniteRate line) :=
  inferInstanceAs (Decidable (∀ text ∈ numeralField? "fps=" line, IsFiniteNumeral text))

/-- The digits of a field are decimal, and there are some. -/
theorem isDecimal_of_digitField? {name : String} {line digits : List Char}
    (found : digitField? name line = some digits) : ∃ n, IsDecimal digits n := by
  obtain ⟨s, -, read⟩ := Text.exists_of_findFirst? found
  obtain ⟨rest, -, runs⟩ := Option.bind_eq_some_iff.mp read
  obtain ⟨nonempty, decimal⟩ := Text.run?_eq_some runs
  exact ⟨_, nonempty, decimal, rfl⟩

theorem frameCount?_gives {line : List Char} :
    Gives (fun _ => True) (frameCount? line) ↔ HasShortFrame line := by
  rw [frameCount?, HasShortFrame]
  cases found : digitField? "frame=" line with
  | none => exact iff_of_true (Gives.ok_iff.mpr trivial) fun _ other => nomatch other
  | some digits =>
    obtain ⟨n, decimal⟩ := isDecimal_of_digitField? found
    rw [Gives.mapError_iff, Gives.map_iff]
    constructor
    · rintro ⟨frame, read, -⟩ _ same
      rw [← Option.some.inj same]
      exact (readInteger_eq_ok_iff.mp read).2
    · intro short
      exact ⟨n, readInteger_eq_ok_iff.mpr ⟨decimal, short digits rfl⟩, trivial⟩

/-- A statistics line has a position in the output and a speed. -/
def IsTimed (line : List Char) : Prop :=
  (tokenField? "time=" line).isSome = true ∧ (tokenField? "speed=" line).isSome = true

instance (line : List Char) : Decidable (IsTimed line) :=
  inferInstanceAs (Decidable
    ((tokenField? "time=" line).isSome = true ∧ (tokenField? "speed=" line).isSome = true))

theorem IsTimed.mentions {line : List Char} (timed : IsTimed line) :
    Text.mentions "time=" line = true := by
  have found := timed.1
  rw [tokenField?, Option.isSome_map] at found
  refine Text.isSome_findFirst? (fun s reads => ?_) found
  cases start : Text.afterStart? "time=".toList s with
  | some rest => rfl
  | none =>
    rw [start] at reads
    cases reads

theorem optionalField_plain {name : String} {value : Option Json} :
    (∀ entry ∈ optionalField name value, IsPlainValue entry.2) ↔ ∀ given ∈ value, IsPlainValue given := by
  cases value <;> simp [optionalField]

theorem ofTimedLine_gives {line : List Char} : Gives Report.IsPlain (ofTimedLine line) ↔
    (IsTimed line → HasFiniteRate line ∧ HasShortFrame line) := by
  rw [ofTimedLine, IsTimed]
  cases tokenField? "time=" line with
  | none => simp [Report.IsPlain]
  | some time =>
    cases tokenField? "speed=" line with
    | none => simp [Report.IsPlain]
    | some speed =>
      have rate : HasFiniteRate line ↔
          ∀ given ∈ (numeralField? "fps=" line).map fieldValue, IsPlainValue given := by
        simp [HasFiniteRate, fieldValue_plain]
      rw [← frameCount?_gives, rate, ← Gives.and_iff, Gives.bind_iff]
      simp only [Option.isSome_some, and_self, true_imp_iff]
      refine Gives.congr fun frame _ => Gives.ok_iff.trans ?_
      simp only [Report.IsPlain, Option.mem_some_iff, forall_eq', List.forall_mem_append,
        List.forall_mem_cons, optionalField_plain]
      cases frame <;> simp [IsPlainValue]

/-- What a line that belongs to no block must be like: if its frames and its rate are read, they are numbers
that can be written down. -/
def IsReadable (line : List Char) : Prop :=
  (IsTimed line → HasFiniteRate line) ∧
    (IsTimed line ∨ Text.mentions "time=" line = false → HasShortFrame line)

instance (line : List Char) : Decidable (IsReadable line) :=
  inferInstanceAs (Decidable ((IsTimed line → HasFiniteRate line) ∧
    (IsTimed line ∨ Text.mentions "time=" line = false → HasShortFrame line)))

theorem ofLine_gives {line : List Char} : Gives Report.IsPlain (ofLine line) ↔ IsReadable line := by
  rw [ofLine, IsReadable]
  cases mentions : Text.mentions "time=" line with
  | true => simp [ofTimedLine_gives, imp_and]
  | false =>
    have untimed : ¬IsTimed line := by
      intro timed
      rw [timed.mentions] at mentions
      cases mentions
    simp only [untimed, false_imp_iff, false_or, true_and, true_imp_iff, Bool.false_eq_true, ↓reduceIte]
    rw [← frameCount?_gives, Gives.bind_iff]
    refine Gives.congr fun frame _ => ?_
    cases frame with
    | none => exact iff_of_true (Gives.ok_iff.mpr nofun) trivial
    | some n => exact iff_of_true (Gives.ok_iff.mpr (by simp [Report.IsPlain, IsPlainValue])) trivial

end Report

namespace ReportReader

/-- The reader after lines. -/
def after (reader : ReportReader) (lines : List String) : ReportReader :=
  lines.foldl (fun reader line => (reader.feed line).1) reader

/-- What a reader answers to lines, one after the other. -/
def answers (reader : ReportReader) : List String → List (Except ReportFault (Option Report))
  | [] => []
  | line :: rest => (reader.feed line).2 :: (reader.feed line).1.answers rest

/-- A reader can answer a line: a block that it closes has finite numbers only, and any other line that it
reports can be read. -/
def CanAnswer (reader : ReportReader) (line : String) : Prop :=
  (∀ value, blockLine? (Text.strip line.toList) = some ("progress", value) →
    ∀ entry ∈ Entries.set reader.block "progress" value,
      Report.holdsNumber entry.1 = true → IsFiniteNumeral entry.2) ∧
  (blockLine? (Text.strip line.toList) = none → Report.IsReadable (Text.strip line.toList))

theorem feed_sound {reader : ReportReader} {line : String} :
    IsSound (reader.feed line).2 ↔ reader.CanAnswer line := by
  rw [feed_eq, CanAnswer]
  split
  · next blank =>
    rw [blank]
    refine iff_of_true (Gives.ok_iff.mpr nofun) ⟨nofun, fun _ => ⟨?_, fun _ => nofun⟩⟩
    rintro ⟨timed, -⟩
    cases timed
  · cases blockLine? (Text.strip line.toList) with
    | none =>
      refine (isSound_map.trans Report.ofLine_gives).trans ?_
      simp
    | some entry =>
      obtain ⟨key, value⟩ := entry
      by_cases closes : key = "progress"
      · subst closes
        refine (isSound_map.trans Report.ofBlock_gives).trans ?_
        simp
      · simp only [closes, ↓reduceIte]
        refine iff_of_true (Gives.ok_iff.mpr nofun) ⟨fun _ same => ?_, nofun⟩
        cases same
        exact absurd rfl closes

/-- A reader answers lines without a fault and with finite numbers only, exactly if it can answer each of
them when it comes to it. -/
theorem answers_sound_iff (reader : ReportReader) (lines : List String) :
    (∀ answer ∈ reader.answers lines, IsSound answer) ↔
      ∀ before line rest, lines = before ++ line :: rest → (reader.after before).CanAnswer line := by
  induction lines generalizing reader with
  | nil => simp [answers]
  | cons first lines ih =>
    rw [answers, List.forall_mem_cons, feed_sound, ih]
    constructor
    · rintro ⟨here, later⟩ before line rest place
      cases before with
      | nil =>
        obtain ⟨rfl, rfl⟩ := List.cons.inj place
        exact here
      | cons _ before =>
        obtain ⟨rfl, rfl⟩ := List.cons.inj place
        exact later before line rest rfl
    · intro all
      refine ⟨all [] first lines rfl, fun before line rest place => ?_⟩
      exact all (first :: before) line rest (by rw [place, List.cons_append])

/-- A line that is read soundly whatever came before it. -/
def IsHarmless (line : String) : Prop :=
  (∀ entry ∈ blockLine? (Text.strip line.toList),
    Report.holdsNumber entry.1 = true → IsFiniteNumeral entry.2) ∧
  (blockLine? (Text.strip line.toList) = none → Report.IsReadable (Text.strip line.toList))

instance (line : String) : Decidable (IsHarmless line) :=
  inferInstanceAs (Decidable ((∀ entry ∈ blockLine? (Text.strip line.toList),
    Report.holdsNumber entry.1 = true → IsFiniteNumeral entry.2) ∧
    (blockLine? (Text.strip line.toList) = none → Report.IsReadable (Text.strip line.toList))))

/-- A reader that keeps only numbers that can be written down. -/
def KeepsFinite (reader : ReportReader) : Prop :=
  ∀ entry ∈ reader.block, Report.holdsNumber entry.1 = true → IsFiniteNumeral entry.2

theorem KeepsFinite.set {reader : ReportReader} (keeps : reader.KeepsFinite) {key value : String}
    (finite : Report.holdsNumber key = true → IsFiniteNumeral value) :
    KeepsFinite ⟨Entries.set reader.block key value⟩ := by
  intro entry member
  rcases Entries.mem_of_mem_set member with before | rfl
  · exact keeps entry before
  · exact finite

/-- A harmless line is answered, and the reader goes on keeping only numbers that can be written down. -/
theorem KeepsFinite.feed {reader : ReportReader} (keeps : reader.KeepsFinite) {line : String}
    (harmless : IsHarmless line) : reader.CanAnswer line ∧ (reader.feed line).1.KeepsFinite := by
  obtain ⟨inner, outer⟩ := harmless
  refine ⟨⟨fun value found => keeps.set (inner _ found), outer⟩, ?_⟩
  rw [feed_eq]
  split
  · exact keeps
  · cases found : blockLine? (Text.strip line.toList) with
    | none => exact keeps
    | some entry =>
      obtain ⟨key, value⟩ := entry
      by_cases closes : key = "progress"
      · simp only [closes, ↓reduceIte]
        exact List.forall_mem_nil _
      · simp only [closes, ↓reduceIte]
        exact keeps.set (inner _ found)

theorem answers_sound_of_harmless {reader : ReportReader} (keeps : reader.KeepsFinite)
    {lines : List String} (harmless : ∀ line ∈ lines, IsHarmless line) :
    ∀ answer ∈ reader.answers lines, IsSound answer := by
  induction lines generalizing reader with
  | nil => exact List.forall_mem_nil _
  | cons line lines ih =>
    obtain ⟨here, later⟩ := List.forall_mem_cons.mp harmless
    obtain ⟨can, after⟩ := keeps.feed here
    exact List.forall_mem_cons.mpr ⟨feed_sound.mpr can, ih after later⟩

/-- What a new reader answers to lines is sound exactly if the reader can answer each line when it comes to
it; in particular if all lines are harmless. -/
theorem answers_soundly (lines : List String) :
    ((∀ answer ∈ ({} : ReportReader).answers lines, IsSound answer) ↔
      ∀ before line rest, lines = before ++ line :: rest →
        (({} : ReportReader).after before).CanAnswer line) ∧
    ((∀ line ∈ lines, IsHarmless line) →
      ∀ answer ∈ ({} : ReportReader).answers lines, IsSound answer) :=
  ⟨answers_sound_iff {} lines, answers_sound_of_harmless (List.forall_mem_nil _)⟩

/-- A block with a number of frames and a size that is not known yet. -/
def firstBlock : List String := ["frame=12", "total_size=N/A", "progress=continue"]

theorem firstBlock_answered : (∀ line ∈ firstBlock, IsHarmless line) ∧
    ∀ answer ∈ ({} : ReportReader).answers firstBlock, IsSound answer :=
  ⟨by decide +kernel, (answers_soundly firstBlock).2 (by decide +kernel)⟩

/-- The fault that is answered, if there is one. -/
def fault? : Except ReportFault (Option Report) → Option ReportFault
  | .error fault => some fault
  | .ok _ => none

/-- A number of frames beyond all doubles has no integer, and an infinite rate is handed on as it is. -/
theorem overflow_escapes :
    (({} : ReportReader).answers ["frame=1e999", "progress=continue"]).map fault? =
      [none, some (.range .integerOfInfinity)] ∧
    ¬∀ answer ∈ ({} : ReportReader).answers ["fps=inf", "progress=continue"], IsSound answer := by
  constructor
  · decide +kernel
  · intro all
    have can := ((answers_sound_iff {} _).mp all ["fps=inf"] "progress=continue" [] rfl).1
    have finite := can "continue" (by decide +kernel) ("fps", "inf") (by decide +kernel) (by decide)
    exact absurd finite (by decide +kernel)

end ReportReader

end Engine

end Montage
