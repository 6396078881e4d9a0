import Montage.Engine.Report
import Montage.Proofs.Entries
import Montage.Proofs.Result

/-! # What a block shows

The report on a block depends on its keys other than those of single streams. So that is all that a reader
has to remember of the lines before: two readers that agree on these keys read every line alike, and a
closing line tells a reader that keeps any of them from a new one.
-/

namespace Montage.Engine

/-- The entries of a block that its report shows. -/
def shown (block : List (String × String)) : List (String × String) :=
  block.filter fun entry => !Report.isStreamKey entry.1

theorem shown_cons (key value : String) (rest : List (String × String)) :
    shown ((key, value) :: rest) =
      if Report.isStreamKey key then shown rest else (key, value) :: shown rest := by
  cases stream : Report.isStreamKey key <;> simp [shown, stream]

theorem lookup_shown {key : String} (plain : Report.isStreamKey key = false)
    (block : List (String × String)) : (shown block).lookup key = block.lookup key := by
  induction block with
  | nil => rfl
  | cons entry rest ih =>
    obtain ⟨k, value⟩ := entry
    rw [shown_cons, List.lookup_cons]
    split
    · next stream =>
      have other : key ≠ k := by
        rintro rfl
        rw [plain] at stream
        contradiction
      rw [beq_false_of_ne other]
      exact ih
    · rw [List.lookup_cons, ih]

theorem blockData_shown (block : List (String × String)) :
    Report.blockData (shown block) = Report.blockData block := by
  induction block with
  | nil => rfl
  | cons entry rest ih =>
    obtain ⟨key, value⟩ := entry
    rw [shown_cons, Report.blockData]
    split
    · exact ih
    · next plain => rw [Report.blockData, if_neg plain, ih]

theorem blockMessage_shown (block : List (String × String)) :
    Report.blockMessage (shown block) = Report.blockMessage block := by
  have plain : Report.isStreamKey "progress" = false ∧ Report.isStreamKey "out_time" = false ∧
      Report.isStreamKey "speed" = false ∧ Report.isStreamKey "frame" = false := by decide
  simp only [Report.blockMessage, Report.filled?, lookup_shown plain.1, lookup_shown plain.2.1,
    lookup_shown plain.2.2.1, lookup_shown plain.2.2.2]

theorem ofBlock_shown (block : List (String × String)) :
    Report.ofBlock (shown block) = Report.ofBlock block := by
  simp only [Report.ofBlock, blockMessage_shown, blockData_shown]

theorem shown_set (block : List (String × String)) (key value : String) :
    shown (Entries.set block key value) =
      if Report.isStreamKey key then shown block else Entries.set (shown block) key value := by
  induction block with
  | nil => exact shown_cons key value []
  | cons entry rest ih =>
    obtain ⟨k, v⟩ := entry
    rw [Entries.set, shown_cons]
    by_cases same : k = key
    · subst same
      rw [if_pos rfl, shown_cons]
      split
      · rfl
      · rw [Entries.set, if_pos rfl]
    · rw [if_neg same, shown_cons, ih]
      split
      · rfl
      · split
        · rfl
        · rw [Entries.set, if_neg same]

namespace ReportReader

/-- What becomes of a block, and of its report, by an entry. -/
theorem feed_eq (reader : ReportReader) (line : String) :
    reader.feed line =
      if Text.strip line.toList = [] then (reader, .ok none)
      else match blockLine? (Text.strip line.toList) with
        | none => (reader, (Report.ofLine (Text.strip line.toList)).map some)
        | some (key, value) =>
          if key = "progress" then
            ({}, (Report.ofBlock (Entries.set reader.block key value)).map some)
          else (⟨Entries.set reader.block key value⟩, .ok none) := rfl

/-- Two readers that show the same read every line alike. -/
theorem feed_congr {first second : ReportReader} (same : shown first.block = shown second.block)
    (line : String) : (first.feed line).2 = (second.feed line).2 ∧
      shown (first.feed line).1.block = shown (second.feed line).1.block := by
  rw [feed_eq, feed_eq]
  split
  · exact ⟨rfl, same⟩
  · cases blockLine? (Text.strip line.toList) with
    | none => exact ⟨rfl, same⟩
    | some entry =>
      obtain ⟨key, value⟩ := entry
      have after : shown (Entries.set first.block key value) =
          shown (Entries.set second.block key value) := by rw [shown_set, shown_set, same]
      by_cases closes : key = "progress"
      · simp only [closes, ↓reduceIte] at after ⊢
        rw [← ofBlock_shown, after, ofBlock_shown]
        exact ⟨rfl, trivial⟩
      · simp only [closes, ↓reduceIte]
        exact ⟨trivial, after⟩

/-- A reader never keeps the key that closes a block. -/
theorem feed_open {reader : ReportReader} (opened : ∀ entry ∈ reader.block, entry.1 ≠ "progress")
    (line : String) : ∀ entry ∈ (reader.feed line).1.block, entry.1 ≠ "progress" := by
  rw [feed_eq]
  split
  · exact opened
  · cases blockLine? (Text.strip line.toList) with
    | none => exact opened
    | some entry =>
      obtain ⟨key, value⟩ := entry
      by_cases closes : key = "progress"
      · simp only [closes, ↓reduceIte]
        exact List.forall_mem_nil _
      · simp only [closes, ↓reduceIte]
        intro entry member
        rcases Entries.mem_of_mem_set member with before | rfl
        · exact opened entry before
        · exact closes

end ReportReader

theorem length_blockData {block : List (String × String)} {data : List (String × Json)}
    (read : Report.blockData block = .ok data) : data.length = (shown block).length := by
  induction block generalizing data with
  | nil =>
    obtain rfl := Except.ok.inj read
    rfl
  | cons entry rest ih =>
    obtain ⟨key, value⟩ := entry
    rw [Report.blockData] at read
    rw [shown_cons]
    split at read
    · next stream => rw [if_pos stream, ih read]
    · next plain =>
      obtain ⟨_, _, others, found, rfl⟩ := by simpa only [bind_eq_ok, pure_eq_ok] using read
      rw [if_neg plain, List.length_cons, List.length_cons, ih found]

end Montage.Engine
