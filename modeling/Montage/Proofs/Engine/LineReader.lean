import Montage.Engine.LineReader
import Montage.Proofs.Text.Utf8

/-! # Lines do not depend on the pieces

A reader keeps a started character and the line so far from one piece to the next. So what it answers
to pieces, one after the other, are the lines of all their octets taken together: it makes no difference where
the pieces end, inside a character, inside a line or between the two ends of a line.
-/

namespace Montage.Engine

open Text.Utf8 (replaceFaults decode)

section

variable {c : Char} {s rest last line : List Char} {lines : List (List Char)}

theorem splitLines_break (ends : isLineBreak c = true) (split : splitLines rest = (lines, last)) :
    splitLines (c :: rest) = ([] :: lines, last) := by
  simp only [splitLines, split, ends, ↓reduceIte]

theorem splitLines_open (plain : isLineBreak c = false) (split : splitLines rest = ([], last)) :
    splitLines (c :: rest) = ([], c :: last) := by
  simp only [splitLines, split, plain, Bool.false_eq_true, ↓reduceIte]

theorem splitLines_first (plain : isLineBreak c = false) (split : splitLines rest = (line :: lines, last)) :
    splitLines (c :: rest) = ((c :: line) :: lines, last) := by
  simp only [splitLines, split, plain, Bool.false_eq_true, ↓reduceIte]

/-- The pieces between line breaks are the lines that have ended, and the rest. -/
theorem splitOnP_eq_splitLines (s : List Char) :
    s.splitOnP isLineBreak = (splitLines s).1 ++ [(splitLines s).2] := by
  fun_induction splitLines s with
  | case1 => rfl
  | case2 c rest lines last split ends ih =>
    rw [List.splitOnP_cons_eq_if_modifyHead, ih, if_pos ends, split]
    rfl
  | case3 c rest last plain split ih | case4 c rest last plain line others split ih =>
    rw [List.splitOnP_cons_eq_if_modifyHead, ih, if_neg plain, split]
    rfl

/-- A text is split in two parts, the second of which starts with the line that is left of the first. -/
theorem splitLines_append (s t : List Char) :
    splitLines (s ++ t) = ((splitLines s).1 ++ (splitLines ((splitLines s).2 ++ t)).1,
      (splitLines ((splitLines s).2 ++ t)).2) := by
  fun_induction splitLines s with
  | case1 => rfl
  | case2 c rest lines last split ends ih =>
    rw [split] at ih
    rw [List.cons_append, splitLines_break ends ih, List.cons_append]
  | case4 c rest last plain line others split ih =>
    rw [split] at ih
    rw [List.cons_append, splitLines_first (Bool.eq_false_iff.mpr plain) ih]
    rfl
  | case3 c rest last plain split ih =>
    rw [split] at ih
    have plain := Bool.eq_false_iff.mpr plain
    -- the first line of the second part, if it ends there, is the one that is left
    generalize after : splitLines (last ++ t) = found at ih
    obtain ⟨lines, left⟩ := found
    cases lines with
    | nil =>
      rw [List.cons_append, splitLines_open plain ih, List.cons_append, splitLines_open plain after]
      rfl
    | cons line others =>
      rw [List.cons_append, splitLines_first plain ih, List.cons_append, splitLines_first plain after]
      rfl

/-- No line break is left in the rest. -/
theorem splitLines_rest (s : List Char) : ∀ c ∈ (splitLines s).2, isLineBreak c = false := by
  fun_induction splitLines s with
  | case1 => exact List.forall_mem_nil _
  | case2 c rest lines last split ends ih =>
    rw [split] at ih
    exact ih
  | case3 c rest last plain split ih =>
    rw [split] at ih
    exact List.forall_mem_cons.mpr ⟨Bool.eq_false_iff.mpr plain, ih⟩
  | case4 c rest last plain line others split ih =>
    rw [split] at ih
    exact ih

end

theorem splitLines_plain {s : List Char} (plain : ∀ c ∈ s, isLineBreak c = false) :
    splitLines s = ([], s) := by
  induction s with
  | nil => rfl
  | cons c rest ih =>
    obtain ⟨here, later⟩ := List.forall_mem_cons.mp plain
    exact splitLines_open here (ih later)

theorem trimLines_append (first second : List (List Char)) :
    trimLines (first ++ second) = trimLines first ++ trimLines second := by
  simp [trimLines]

theorem replaceFaults_append (first second : List (Option Char)) :
    replaceFaults (first ++ second) = replaceFaults first ++ replaceFaults second := List.map_append

namespace LineReader

/-- A reader after octets, and the lines that it has answered to them. -/
structure HasRead (reader : LineReader) (octets : List UInt8) (lines : List String) : Prop where
  started : reader.started = (Text.Utf8.run none octets).2
  line : reader.line = (splitLines (replaceFaults (Text.Utf8.run none octets).1)).2
  lines : lines = trimLines (splitLines (replaceFaults (Text.Utf8.run none octets).1)).1

variable {reader : LineReader} {octets : List UInt8} {lines : List String}

theorem hasRead_start : HasRead {} [] [] := ⟨rfl, rfl, rfl⟩

/-- One more piece. -/
theorem HasRead.read (has : reader.HasRead octets lines) (piece : List UInt8) :
    (reader.read piece).1.HasRead (octets ++ piece) (lines ++ (reader.read piece).2) := by
  obtain ⟨started, line, lines⟩ := has
  refine ⟨?_, ?_, ?_⟩
  · rw [Text.Utf8.run_append, ← started]
    rfl
  · rw [Text.Utf8.run_append, replaceFaults_append, splitLines_append, ← line, ← started]
    rfl
  · rw [Text.Utf8.run_append, replaceFaults_append, splitLines_append, ← line, ← started,
      trimLines_append, ← lines]
    rfl

/-- A fault at the end breaks no line. -/
theorem finish_plain (state : Option Text.Utf8.Pending) :
    ∀ c ∈ replaceFaults (Text.Utf8.finish state), isLineBreak c = false := by
  cases state with
  | none => exact List.forall_mem_nil _
  | some => exact List.forall_mem_singleton.mpr (by decide)

/-- All lines, when no more pieces come. -/
theorem HasRead.finish (has : reader.HasRead octets lines) :
    lines ++ reader.finish = trimLines ((replaceFaults (decode octets)).splitOnP isLineBreak) := by
  obtain ⟨started, line, lines⟩ := has
  have rest : splitLines (reader.line ++ replaceFaults (Text.Utf8.finish reader.started)) =
      ([], reader.line ++ replaceFaults (Text.Utf8.finish reader.started)) := by
    refine splitLines_plain (List.forall_mem_append.mpr ⟨?_, finish_plain _⟩)
    exact line ▸ splitLines_rest _
  rw [splitOnP_eq_splitLines, decode, replaceFaults_append, ← started, splitLines_append, ← line, rest,
    List.append_nil, trimLines_append, ← lines]
  rfl

end LineReader

end Montage.Engine
