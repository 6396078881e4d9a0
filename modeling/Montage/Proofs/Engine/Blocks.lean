import Montage.Proofs.Engine.Answers
import Montage.Proofs.Text.Search
import Mathlib.Data.List.Nodup

/-! # Blocks among other lines

A reader takes the lines of blocks out of all that the engine prints. Whatever stands between them, it answers
the closing line of a block with a summary of the keys and values since the closing line before: each key
once, with its last value. After a closing line it is as new, also if the block could not be summarized.
-/

namespace Montage.Engine

namespace Report

variable {line rest : List Char} {key value : String}

theorem afterDigits?_eq_some_iff : afterDigits? line = some rest ↔
    ∃ digits, digits ≠ [] ∧ (∀ c ∈ digits, c.isDigit = true) ∧ Text.StopsAt Char.isDigit rest ∧
      line = digits ++ rest := by
  rw [afterDigits?, Option.map_eq_some_iff]
  constructor
  · rintro ⟨digits, runs, rfl⟩
    obtain ⟨some, all⟩ := Text.run?_eq_some runs
    refine ⟨line.takeWhile Char.isDigit, ?_, fun c member => List.mem_takeWhile_imp member, ?_, ?_⟩
    · intro none
      rw [Text.run?, none] at runs
      contradiction
    · intro c first
      have other := List.head?_dropWhile_not Char.isDigit line
      rwa [Option.mem_def.mp first] at other
    · exact List.takeWhile_append_dropWhile.symm
  · rintro ⟨digits, some, all, stops, rfl⟩
    exact ⟨digits, Text.run?_append some all stops, Text.dropWhile_append all stops⟩

/-- The keys of single streams: the numbers of a file and of a stream in it stand between fixed words. -/
theorem isStreamKey_iff : isStreamKey key = true ↔
    ∃ file stream, (file ≠ [] ∧ ∀ c ∈ file, c.isDigit = true) ∧
      (stream ≠ [] ∧ ∀ c ∈ stream, c.isDigit = true) ∧
      key.toList = "stream_".toList ++ (file ++ ("_".toList ++ (stream ++ "_q".toList))) := by
  have stops (rest : List Char) : Text.StopsAt Char.isDigit ('_' :: rest) := Text.stopsAt_cons.mpr rfl
  rw [isStreamKey, beq_iff_eq]
  simp only [bind, Option.bind_eq_some_iff, Text.afterStart?_eq_some_iff, afterDigits?_eq_some_iff]
  constructor
  · rintro ⟨_, whole, _, ⟨file, some, digits, -, rfl⟩, _, rfl, _, ⟨stream, some', digits', -, rfl⟩, rfl⟩
    exact ⟨file, stream, ⟨some, digits⟩, ⟨some', digits'⟩, by simpa using whole⟩
  · rintro ⟨file, stream, ⟨some, digits⟩, ⟨some', digits'⟩, whole⟩
    exact ⟨_, whole, _, ⟨file, some, digits, stops _, rfl⟩, _, rfl, _, ⟨stream, some', digits', stops ['q'], rfl⟩,
      rfl⟩

/-- The keys that blocks consist of: those that are known, and those of single streams. -/
def isBlockKey (key : String) : Bool := knownKeys.contains key || isStreamKey key

/-- Keys are written in small letters, digits and underscores. -/
theorem isKeyChar_of_isBlockKey (block : isBlockKey key = true) :
    key.toList ≠ [] ∧ ∀ c ∈ key.toList, isKeyChar c = true := by
  rcases Bool.or_eq_true_iff.mp block with known | stream
  · have all : ∀ key ∈ knownKeys, key.toList ≠ [] ∧ key.toList.all isKeyChar = true := by decide
    obtain ⟨filled, chars⟩ := all key (List.contains_iff_mem.mp known)
    exact ⟨filled, List.all_eq_true.mp chars⟩
  · obtain ⟨file, stream, ⟨-, digits⟩, ⟨-, digits'⟩, whole⟩ := isStreamKey_iff.mp stream
    have words : ∀ c ∈ "stream_".toList ++ "_".toList ++ "_q".toList, isKeyChar c = true :=
      List.all_eq_true.mp rfl
    have digit (c : Char) (digit : c.isDigit = true) : isKeyChar c = true := by simp [isKeyChar, digit]
    rw [whole]
    refine ⟨nofun, fun c member => ?_⟩
    simp only [List.mem_append] at member words
    rcases member with word | number | word | number | word
    · exact words c (.inl (.inl word))
    · exact digit c (digits c number)
    · exact words c (.inl (.inr word))
    · exact digit c (digits' c number)
    · exact words c (.inr word)

/-- A line of a block: a key, an equals sign, blanks, and a value without blanks in it. -/
structure IsEntryLine (line : List Char) (key value : String) : Prop where
  block : isBlockKey key = true
  written : ∃ gap, (∀ c ∈ gap, Text.isBlank c = true) ∧ line = key.toList ++ '=' :: (gap ++ value.toList)
  solid : ∀ c ∈ value.toList, Text.isBlank c = false

theorem keyValue?_eq_some_iff : keyValue? line = some (key, value) ↔
    (key.toList ≠ [] ∧ ∀ c ∈ key.toList, isKeyChar c = true) ∧
      (∃ gap, (∀ c ∈ gap, Text.isBlank c = true) ∧ line = key.toList ++ '=' :: (gap ++ value.toList)) ∧
      ∀ c ∈ value.toList, Text.isBlank c = false := by
  constructor
  · intro found
    unfold keyValue? at found
    dsimp only at found
    split at found
    · next rest follows =>
      obtain ⟨⟨filled, solid⟩, same⟩ := Option.ite_none_right_eq_some.mp found
      obtain ⟨rfl, rfl⟩ := Prod.mk.inj (Option.some.inj same)
      simp only [String.toList_ofList]
      refine ⟨⟨filled, fun c member => List.mem_takeWhile_imp member⟩, ⟨rest.takeWhile Text.isBlank, ?_, ?_⟩, ?_⟩
      · exact fun c member => List.mem_takeWhile_imp member
      · rw [Text.dropBlank, List.takeWhile_append_dropWhile, ← follows, List.takeWhile_append_dropWhile]
      · simpa using solid
    · contradiction
  · rintro ⟨⟨filled, letters⟩, ⟨gap, blank, rfl⟩, solid⟩
    have stops : Text.StopsAt isKeyChar ('=' :: (gap ++ value.toList)) := Text.stopsAt_cons.mpr rfl
    have value : Text.dropBlank (gap ++ value.toList) = value.toList :=
      Text.dropBlank_append blank fun c first => solid c (List.mem_of_mem_head? first)
    simp only [keyValue?, Text.takeWhile_append letters stops, Text.dropWhile_append letters stops, value]
    rw [if_pos ⟨filled, by simpa using solid⟩, String.ofList_toList, String.ofList_toList]

/-- The data of a block are put together of the values of its keys. -/
theorem blockData_eq (block : List (String × String)) : blockData block = (shown block).mapM fun entry =>
    (blockValue entry.1 entry.2).map fun value => (wireName entry.1, value) := by
  induction block with
  | nil => rfl
  | cons entry rest ih =>
    obtain ⟨key, text⟩ := entry
    rw [blockData, shown_cons]
    split
    · exact ih
    · rw [List.mapM_cons, ← ih]
      cases blockValue key text <;> rfl

end Report

namespace ReportReader

variable {reader : ReportReader} {line : String} {key value : String} {lines : List String}

theorem blockLine?_eq_some_iff {line : List Char} :
    blockLine? line = some (key, value) ↔ Report.IsEntryLine line key value := by
  rw [blockLine?, Option.filter_eq_some_iff, Report.keyValue?_eq_some_iff]
  constructor
  · rintro ⟨⟨-, written, solid⟩, block⟩
    exact ⟨block, written, solid⟩
  · rintro ⟨block, written, solid⟩
    exact ⟨⟨Report.isKeyChar_of_isBlockKey block, written, solid⟩, block⟩

/-- The key and value on a line of the engine that belongs to a block. -/
def entryOf? (line : String) : Option (String × String) := blockLine? (Text.strip line.toList)

/-- The keys and values of blocks on lines. -/
def entriesOf (lines : List String) : List (String × String) := lines.filterMap entryOf?

/-- Whether a line closes a block. -/
def closes (line : String) : Bool := (entryOf? line).any fun entry => entry.1 == "progress"

/-- The entries of each block that is closed, its closing entry included. -/
def closedBlocks : List (String × String) → List (List (String × String))
  | [] => []
  | entry :: rest =>
    if entry.1 = "progress" then [entry] :: closedBlocks rest
    else
      match closedBlocks rest with
      | [] => []
      | block :: others => (entry :: block) :: others

/-- What a reader answers to the lines that close blocks. -/
def summaries (reader : ReportReader) : List String → List (Except ReportFault (Option Report))
  | [] => []
  | line :: rest =>
    if closes line then (reader.feed line).2 :: (reader.feed line).1.summaries rest
    else (reader.feed line).1.summaries rest

/-- The answer to a closing line, after the entries of its block. -/
def summary (block : List (String × String)) : Except ReportFault (Option Report) :=
  (Report.ofBlock (Entries.setAll block)).map some

theorem closedBlocks_append {opened : List (String × String)} {entry : String × String}
    {rest : List (String × String)} (open' : ∀ earlier ∈ opened, earlier.1 ≠ "progress")
    (last : entry.1 = "progress") :
    closedBlocks (opened ++ entry :: rest) = (opened ++ [entry]) :: closedBlocks rest := by
  induction opened with
  | nil => rw [List.nil_append, closedBlocks, if_pos last, List.nil_append]
  | cons first opened ih =>
    obtain ⟨here, others⟩ := List.forall_mem_cons.mp open'
    rw [List.cons_append, closedBlocks, if_neg here, ih others]
    rfl

theorem closedBlocks_open {opened : List (String × String)}
    (open' : ∀ earlier ∈ opened, earlier.1 ≠ "progress") : closedBlocks opened = [] := by
  induction opened with
  | nil => rfl
  | cons first opened ih =>
    obtain ⟨here, others⟩ := List.forall_mem_cons.mp open'
    rw [closedBlocks, if_neg here, ih others]

/-- What becomes of a reader by a line. -/
theorem feed_cases (reader : ReportReader) (line : String) :
    (entryOf? line = none ∧ (reader.feed line).1 = reader) ∨
      ∃ key value, entryOf? line = some (key, value) ∧
        (key ≠ "progress" ∧ reader.feed line = (⟨Entries.set reader.block key value⟩, .ok none) ∨
          key = "progress" ∧ reader.feed line =
            ({}, (Report.ofBlock (Entries.set reader.block key value)).map some)) := by
  rw [feed_eq, entryOf?]
  split
  · next blank => exact .inl ⟨by rw [blank]; rfl, rfl⟩
  · cases blockLine? (Text.strip line.toList) with
    | none => exact .inl ⟨rfl, rfl⟩
    | some entry =>
      obtain ⟨key, value⟩ := entry
      refine .inr ⟨key, value, rfl, ?_⟩
      by_cases last : key = "progress"
      · exact .inr ⟨last, if_pos last⟩
      · exact .inl ⟨last, if_neg last⟩

theorem closes_of_entry (found : entryOf? line = some (key, value)) :
    closes line = decide (key = "progress") := by
  rw [closes, found]
  rfl

theorem closes_of_none (none : entryOf? line = none) : closes line = false := by
  rw [closes, none]
  rfl

/-- A reader that keeps the entries of an open block answers every closing line with the summary of its
block. -/
theorem summaries_open {opened : List (String × String)}
    (open' : ∀ earlier ∈ opened, earlier.1 ≠ "progress") (lines : List String) :
    (⟨Entries.setAll opened⟩ : ReportReader).summaries lines =
      (closedBlocks (opened ++ entriesOf lines)).map summary := by
  induction lines generalizing opened with
  | nil => rw [entriesOf, List.filterMap_nil, List.append_nil, closedBlocks_open open']; rfl
  | cons line lines ih =>
    rw [summaries]
    rcases feed_cases ⟨Entries.setAll opened⟩ line with
      ⟨none, same⟩ | ⟨key, value, found, ⟨goes, fed⟩ | ⟨rfl, fed⟩⟩
    · rw [closes_of_none none, same, entriesOf, List.filterMap_cons_none none]
      exact ih open'
    · rw [closes_of_entry found, decide_eq_false goes, fed, entriesOf, List.filterMap_cons_some found,
        List.append_cons, ← Entries.setAll_concat opened (key, value)]
      exact ih (List.forall_mem_append.mpr ⟨open', List.forall_mem_singleton.mpr goes⟩)
    · rw [closes_of_entry found, fed, entriesOf, List.filterMap_cons_some found,
        closedBlocks_append open' rfl, List.map_cons, summary, Entries.setAll_concat]
      exact congrArg (_ :: ·) (ih (List.forall_mem_nil _))

/-- What the data of a summary hold: each key of the block once under its name, with its last value, but no
keys of single streams. -/
structure Tells (block : List (String × String)) (data : List (String × Json)) : Prop where
  once : (data.map Prod.fst).Nodup
  present : ∀ key text, Report.isStreamKey key = false → Entries.last? block key = some text →
    ∃ value, Report.blockValue key text = .ok value ∧ (Report.wireName key, value) ∈ data
  only : ∀ name value, (name, value) ∈ data → ∃ key text, Report.isStreamKey key = false ∧
    Entries.last? block key = some text ∧ Report.wireName key = name ∧ Report.blockValue key text = .ok value

/-- The summary of a block, or the fault of a last value in it. -/
def IsSummary (block : List (String × String)) : Except ReportFault (Option Report) → Prop
  | .ok found => ∃ data, Tells block data ∧
      found = some { message := Report.blockMessage (Entries.setAll block), data := some data }
  | .error fault => ∃ key text, Report.isStreamKey key = false ∧ Entries.last? block key = some text ∧
      Report.blockValue key text = .error fault

theorem mem_shown_setAll {block : List (String × String)} {text : String} :
    (key, text) ∈ shown (Entries.setAll block) ↔
      Report.isStreamKey key = false ∧ Entries.last? block key = some text := by
  rw [shown, List.mem_filter, Entries.mem_setAll, and_comm, Bool.not_eq_true']

theorem nodup_names {entries : List (String × String)} (unique : (entries.map Prod.fst).Nodup)
    (block : ∀ entry ∈ entries, Report.isBlockKey entry.1 = true) :
    ((shown entries).map fun entry => Report.wireName entry.1).Nodup := by
  have apart : ∀ key ∈ Report.knownKeys, ∀ other ∈ Report.knownKeys,
      Report.wireName key = Report.wireName other → key = other := by decide
  have known : ∀ key ∈ (shown entries).map Prod.fst, key ∈ Report.knownKeys := by
    rw [List.forall_mem_map]
    intro entry member
    obtain ⟨member, plain⟩ := List.mem_filter.mp member
    have either := block entry member
    rw [Report.isBlockKey, Bool.not_eq_eq_eq_not.mp plain, Bool.not_true, Bool.or_false] at either
    exact List.contains_iff_mem.mp either
  have unique : ((shown entries).map Prod.fst).Nodup := unique.sublist (List.filter_sublist.map _)
  have named := List.Nodup.map_on (fun key member other member' =>
    apart key (known key member) other (known other member')) unique
  rwa [List.map_map] at named

/-- A value of the data is that of a key. -/
theorem value_eq_ok {key text : String} {shown : String × Json} :
    ((Report.blockValue key text).map fun value => (Report.wireName key, value)) = .ok shown ↔
      Report.wireName key = shown.1 ∧ Report.blockValue key text = .ok shown.2 := by
  cases Report.blockValue key text with
  | ok value => simp [Except.map, Prod.ext_iff]
  | error fault => simp [Except.map]

theorem tells_of_blockData {block : List (String × String)} {data : List (String × Json)}
    (keys : ∀ entry ∈ block, Report.isBlockKey entry.1 = true)
    (read : Report.blockData (Entries.setAll block) = .ok data) : Tells block data := by
  rw [Report.blockData_eq, mapM_eq_ok] at read
  have named := read.imp fun entry found same => value_eq_ok.mp same
  refine ⟨?_, fun key text plain last => ?_, fun name value member => ?_⟩
  · have same : (shown (Entries.setAll block)).map (fun entry => Report.wireName entry.1) =
        data.map Prod.fst :=
      List.forall₂_eq_eq_eq ▸ List.forall₂_map_left_iff.mpr
        (List.forall₂_map_right_iff.mpr (named.imp fun _ _ both => both.1))
    rw [← same]
    exact nodup_names (Entries.nodup_keys_setAll block) fun entry member =>
      keys entry (Entries.mem_of_mem_setAll member)
  · have member := mem_shown_setAll.mpr ⟨plain, last⟩
    obtain ⟨⟨name, value⟩, present, rfl, same⟩ := exists_of_mem_left named member
    exact ⟨value, same, present⟩
  · obtain ⟨⟨key, text⟩, here, rfl, same⟩ := exists_of_mem_right named member
    obtain ⟨plain, last⟩ := mem_shown_setAll.mp here
    exact ⟨key, text, plain, last, rfl, same⟩

theorem summary_isSummary {block : List (String × String)}
    (keys : ∀ entry ∈ block, Report.isBlockKey entry.1 = true) : IsSummary block (summary block) := by
  unfold summary Report.ofBlock
  cases read : Report.blockData (Entries.setAll block) with
  | ok data => exact ⟨data, tells_of_blockData keys read, rfl⟩
  | error fault =>
    rw [Report.blockData_eq, mapM_eq_error] at read
    obtain ⟨before, ⟨key, text⟩, after, place, -, refused⟩ := read
    have member : (key, text) ∈ shown (Entries.setAll block) :=
      place ▸ List.mem_append_right _ List.mem_cons_self
    obtain ⟨plain, last⟩ := mem_shown_setAll.mp member
    refine ⟨key, text, plain, last, ?_⟩
    cases value : Report.blockValue key text with
    | ok value => rw [value] at refused; contradiction
    | error cause => rw [value] at refused; cases refused; rfl

theorem mem_of_mem_closedBlocks {entries block : List (String × String)}
    (member : block ∈ closedBlocks entries) : ∀ entry ∈ block, entry ∈ entries := by
  induction entries generalizing block with
  | nil => contradiction
  | cons first rest ih =>
    rw [closedBlocks] at member
    split at member
    · rcases List.mem_cons.mp member with rfl | later
      · exact List.forall_mem_singleton.mpr List.mem_cons_self
      · exact fun entry here => List.mem_cons_of_mem _ (ih later entry here)
    · split at member
      · contradiction
      · next next others split =>
        rw [split] at ih
        rcases List.mem_cons.mp member with rfl | later
        · refine List.forall_mem_cons.mpr ⟨List.mem_cons_self, fun entry here => ?_⟩
          exact List.mem_cons_of_mem _ (ih List.mem_cons_self entry here)
        · exact fun entry here => List.mem_cons_of_mem _ (ih (List.mem_cons_of_mem _ later) entry here)

theorem isBlockKey_of_mem_entriesOf {lines : List String} {entry : String × String}
    (member : entry ∈ entriesOf lines) : Report.isBlockKey entry.1 = true := by
  obtain ⟨line, -, found⟩ := List.mem_filterMap.mp member
  exact (blockLine?_eq_some_iff.mp found).block

theorem answers_append (reader : ReportReader) (before rest : List String) :
    reader.answers (before ++ rest) = reader.answers before ++ (reader.after before).answers rest := by
  induction before generalizing reader with
  | nil => rfl
  | cons line before ih =>
    rw [List.cons_append, answers, ih]
    rfl

/-- A reader is as new after a closing line. -/
theorem after_closing (reader : ReportReader) (before : List String) (last : closes line = true) :
    reader.after (before ++ [line]) = {} := by
  rw [after, List.foldl_append]
  change ((reader.after before).feed line).1 = {}
  rcases feed_cases (reader.after before) line with
    ⟨none, -⟩ | ⟨key, value, found, ⟨goes, -⟩ | ⟨-, fed⟩⟩
  · rw [closes_of_none none] at last
    contradiction
  · rw [closes_of_entry found] at last
    exact absurd (of_decide_eq_true last) goes
  · rw [fed]

theorem entriesOf_filter (lines : List String) :
    entriesOf (lines.filter fun line => (entryOf? line).isSome) = entriesOf lines := by
  rw [entriesOf, List.filterMap_filter, entriesOf]
  refine List.filterMap_congr fun line _ => ?_
  cases entryOf? line <;> rfl

/-- Lines of a block with a repeated key, of a block that cannot be summarized, and lines between them that
belong to no block. -/
def mixedLines : List String :=
  ["frame=1", "Stream mapping:", "frame= 2", "stream_0_0_q=28.0", "progress=continue", "frame=1e999", "",
    "frame=  3 fps= 30"]

/-- The lines of a last block. -/
def lastLines : List String := ["fps=30", "progress=end"]

end ReportReader

end Montage.Engine
