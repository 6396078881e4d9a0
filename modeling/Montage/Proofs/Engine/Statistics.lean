import Montage.Engine.Report
import Montage.Proofs.Numeral
import Montage.Proofs.Result

/-! # Reading statistics lines

A statistics line holds its fields side by side, and each of them is searched for by its name and equals sign.
A token holds no equals sign and no blank, and no name is the end of another one. So each search goes over the
other fields and ends at its own, however the line is spaced and whatever its tokens are.
-/

namespace Montage.Engine

/-- A field of a statistics line: blanks and then a token, behind the equals sign. -/
structure Field where
  gap : List Char
  token : List Char
  blank : ∀ c ∈ gap, Text.isBlank c = true
  filled : token ≠ []
  solid : ∀ c ∈ token, Text.isBlank c = false
  plain : '=' ∉ token

/-- The blanks between two fields. -/
structure Separator where
  blanks : List Char
  filled : blanks ≠ []
  blank : ∀ c ∈ blanks, Text.isBlank c = true

/-- A field under a name, with what follows it on the line. -/
def Field.text (field : Field) (name : String) (rest : List Char) : List Char :=
  name.toList ++ '=' :: (field.gap ++ (field.token ++ rest))

/-- Fields with the blanks after them, and what follows them on the line. -/
def fieldsText (fields : List (String × Field × Separator)) (rest : List Char) : List Char :=
  fields.foldr (fun (name, field, separator) rest => field.text name (separator.blanks ++ rest)) rest

/-- A statistics line with all its fields. The number of frames can be read, and the rate is a numeral with at
most one point. -/
structure StatisticsLine where
  frame : Field
  fps : Field
  q : Field
  size : Field
  time : Field
  bitrate : Field
  speed : Field
  separator : Fin 6 → Separator
  frames : Nat
  rate : Rat
  decimal : IsDecimal frame.token frames
  short : frame.token.length ≤ integerDigitLimit
  fixed : IsFixed fps.token rate

/-- The fields of a statistics line, apart from the last one. -/
def StatisticsLine.leading (line : StatisticsLine) : List (String × Field × Separator) :=
  [("frame", line.frame, line.separator 0), ("fps", line.fps, line.separator 1),
    ("q", line.q, line.separator 2), ("size", line.size, line.separator 3),
    ("time", line.time, line.separator 4), ("bitrate", line.bitrate, line.separator 5)]

/-- The characters of a statistics line. -/
def StatisticsLine.text (line : StatisticsLine) : List Char :=
  fieldsText line.leading (line.speed.text "speed" [])

namespace Report

variable {α : Type} {read? : List Char → Option α} {key name word : String} {field : Field}
  {separator : Separator} {rest before here found : List Char}

/-- A name that fields are searched for by: it has neither blanks nor an equals sign in it. -/
def IsName (key : String) : Prop := ∀ c ∈ key.toList, c ≠ '=' ∧ Text.isBlank c = false

instance (key : String) : Decidable (IsName key) :=
  List.decidableBAll (fun c => c ≠ '=' ∧ Text.isBlank c = false) key.toList

/-- A name can be searched for behind fields with other names: none of them ends in it. -/
def IsApart (key : String) (names : List String) : Prop :=
  IsName key ∧ ∀ name ∈ names, IsName name ∧ ¬key.toList <:+ name.toList

instance (key : String) (names : List String) : Decidable (IsApart key names) :=
  inferInstanceAs (Decidable (IsName key ∧ ∀ name ∈ names, IsName name ∧ ¬key.toList <:+ name.toList))

/-- The characters behind the equals sign of a field, with the blanks after it. -/
def value (field : Field) (separator : Separator) : List Char :=
  field.gap ++ (field.token ++ separator.blanks)

theorem ne_of_mem_value : ∀ c ∈ value field separator, c ≠ '=' := by
  rintro c member rfl
  rcases List.mem_append.mp member with gap | member
  · exact absurd (field.blank _ gap) (by decide)
  · rcases List.mem_append.mp member with token | blank
    · exact field.plain token
    · exact absurd (separator.blank _ blank) (by decide)

/-- What ends a value is a blank. -/
theorem blank_of_getLast?_value {c : Char} (last : (value field separator).getLast? = some c) :
    Text.isBlank c = true := by
  rw [value, ← List.append_assoc, List.getLast?_append_of_ne_nil _ separator.filled] at last
  exact separator.blank c (List.mem_of_getLast? last)

/-- No search finds its beginning in a value: the blank at the end would have to stand in the name. -/
theorem not_start_in_value (named : IsName key) (filled : here ≠ [])
    (split : value field separator = before ++ here) : here ++ rest ≠ key.toList ++ '=' :: found := by
  have blank : ∃ c ∈ here, Text.isBlank c = true := by
    refine ⟨here.getLast filled, List.getLast_mem filled, ?_⟩
    have last : (value field separator).getLast? = some (here.getLast filled) := by
      rw [split, List.getLast?_append_of_ne_nil _ filled, List.getLast?_eq_some_getLast filled]
    exact blank_of_getLast?_value last
  obtain ⟨c, member, blank⟩ := blank
  have apart (inside : ∀ c ∈ here, c ∈ key.toList) : False :=
    absurd blank (by rw [(named c (inside c member)).2]; exact Bool.false_ne_true)
  intro same
  rcases List.append_eq_append_iff.mp same with ⟨more, inside, -⟩ | ⟨more, inside, after⟩
  · exact apart fun c member => inside ▸ List.mem_append_left _ member
  · cases more with
    | nil => exact apart fun c member => by rwa [inside, List.append_nil] at member
    | cons sign more =>
      obtain ⟨rfl, -⟩ := List.cons.inj after
      have sign : '=' ∈ value field separator := by
        rw [split, inside]
        simp
      exact ne_of_mem_value _ sign rfl

/-- The first equals sign of a text is at one place only. -/
theorem eq_of_sign_after {a b s t : List Char} (plain : '=' ∉ a) (plain' : '=' ∉ b)
    (same : a ++ '=' :: s = b ++ '=' :: t) : a = b := by
  have front {a s : List Char} (plain : '=' ∉ a) : (a ++ '=' :: s).takeWhile (· != '=') = a :=
    Text.takeWhile_append (fun c member => bne_iff_ne.mpr (ne_of_mem_of_not_mem member plain))
      (Text.stopsAt_cons.mpr rfl)
  rw [← front plain, same, front plain']

/-- A search goes over a field whose name does not end in what is searched for. -/
theorem fieldAfter?_skip (spelled : word.toList = key.toList ++ ['=']) (named : IsName key) (plain : IsName name)
    (apart : ¬key.toList <:+ name.toList) :
    fieldAfter? word read? (field.text name (separator.blanks ++ rest)) = fieldAfter? word read? rest := by
  have line : field.text name (separator.blanks ++ rest) =
      (name.toList ++ '=' :: value field separator) ++ rest := by
    simp [Field.text, value]
  rw [line]
  refine Text.findFirst?_append fun before here split filled => ?_
  -- A beginning found here would be one in the value, or the name would end in it.
  suffices none : Text.afterStart? word.toList (here ++ rest) = none by rw [none, Option.bind_none]
  refine Option.eq_none_iff_forall_ne_some.mpr fun found start => ?_
  rw [Text.afterStart?_eq_some_iff, spelled, List.append_assoc, List.singleton_append] at start
  have noSign : '=' ∉ key.toList := fun sign => (named '=' sign).1 rfl
  rcases List.append_eq_append_iff.mp split with ⟨more, -, after⟩ | ⟨more, within, there⟩
  · cases more with
    | nil =>
      obtain rfl : '=' :: value field separator = here := after
      exact apart (eq_of_sign_after List.not_mem_nil noSign start ▸ List.nil_suffix)
    | cons sign more => exact not_start_in_value named filled (List.cons.inj after).2 start
  · subst there
    rw [List.append_assoc, List.cons_append] at start
    have inName : '=' ∉ more := fun sign => (plain '=' (within ▸ List.mem_append_right _ sign)).1 rfl
    exact apart ⟨before, eq_of_sign_after inName noSign start ▸ within.symm⟩

/-- A search ends at the field that it is for. -/
theorem fieldAfter?_found {found : α} (spelled : word.toList = key.toList ++ ['='])
    (read : read? (field.token ++ rest) = some found) :
    fieldAfter? word read? (field.text key rest) = some found := by
  have stops : Text.StopsAt Text.isBlank (field.token ++ rest) := by
    cases token : field.token with
    | nil => exact absurd token field.filled
    | cons c more => exact Text.stopsAt_cons.mpr (field.solid c (token ▸ List.mem_cons_self))
  have start : Text.afterStart? word.toList (field.text key rest) =
      some (field.gap ++ (field.token ++ rest)) := by
    rw [Text.afterStart?_eq_some_iff, spelled]
    simp [Field.text]
  refine Text.findFirst?_of_eq_some ?_
  rw [start, Option.bind_some, Text.dropBlank_append field.blank stops, read]

/-- What follows a token: the end of the line, or the blanks in front of the next field. -/
def Ends (rest : List Char) : Prop := rest = [] ∨ ∃ separator : Separator, ∃ more, rest = separator.blanks ++ more

/-- A token is a run of the characters of a class up to the end of the line or the next blank. -/
theorem run?_token (isPart : Char → Bool) (field : Field) (all : ∀ c ∈ field.token, isPart c = true)
    (solid : ∀ c, isPart c = true → Text.isBlank c = false) (ends : Ends rest) :
    Text.run? isPart (field.token ++ rest) = some field.token := by
  refine Text.run?_append field.filled all ?_
  rcases ends with rfl | ⟨separator, more, rfl⟩
  · exact Text.stopsAt_nil
  · cases blanks : separator.blanks with
    | nil => exact absurd blanks separator.filled
    | cons c others =>
      refine Text.stopsAt_cons.mpr (Bool.eq_false_of_not_eq_true fun part => ?_)
      exact absurd (separator.blank c (blanks ▸ List.mem_cons_self)) (by simp [solid c part])

/-- A search goes over fields with other names and ends at the one that it is for. -/
theorem fieldAfter?_fieldsText {found : α} (key : String) (fields : List (String × Field × Separator))
    (spelled : word.toList = key.toList ++ ['=']) (apart : IsApart key (fields.map Prod.fst))
    (read : read? (field.token ++ rest) = some found) :
    fieldAfter? word read? (fieldsText fields (field.text key rest)) = some found := by
  obtain ⟨named, apart⟩ := apart
  induction fields with
  | nil => exact fieldAfter?_found spelled read
  | cons entry fields ih =>
    obtain ⟨here, others⟩ := List.forall_mem_cons.mp apart
    rw [fieldsText, List.foldr_cons, fieldAfter?_skip spelled named here.1 here.2]
    exact ih others

/-- A token is found whole behind its name. -/
theorem tokenField?_fieldsText (key : String) (fields : List (String × Field × Separator))
    (spelled : word.toList = key.toList ++ ['=']) (apart : IsApart key (fields.map Prod.fst)) (ends : Ends rest) :
    tokenField? word (fieldsText fields (field.text key rest)) = some (String.ofList field.token) := by
  have whole := run?_token (fun c => !Text.isBlank c) field
    (fun c member => by rw [field.solid c member]; rfl) (fun c solid => by simpa using solid) ends
  rw [tokenField?, fieldAfter?_fieldsText key fields spelled apart whole]
  rfl

/-- Digits are found whole behind their name. -/
theorem digitField?_fieldsText (key : String) (fields : List (String × Field × Separator))
    (spelled : word.toList = key.toList ++ ['=']) (apart : IsApart key (fields.map Prod.fst)) (ends : Ends rest)
    (decimal : ∀ c ∈ field.token, Text.isDecimalDigit c = true) :
    digitField? word (fieldsText fields (field.text key rest)) = some field.token := by
  have whole := run?_token Text.isDecimalDigit field decimal (fun _ => Text.isBlank_of_isDecimalDigit) ends
  rw [digitField?, fieldAfter?_fieldsText key fields spelled apart whole]

theorem isBlank_of_isNumeral (c : Char) (numeral : (Text.isDecimalDigit c || c == '.') = true) :
    Text.isBlank c = false := by
  rcases Bool.or_eq_true_iff.mp numeral with digit | point
  · exact Text.isBlank_of_isDecimalDigit digit
  · rw [eq_of_beq point]
    rfl

theorem isNumeral_of_isFixed {text : List Char} {value : Rat} (fixed : IsFixed text value) :
    ∀ c ∈ text, (Text.isDecimalDigit c || c == '.') = true := by
  cases fixed with
  | whole decimal => exact fun c member => by rw [decimal.decimal c member]; rfl
  | pointed decimal =>
    obtain ⟨before, after⟩ := List.forall_mem_append.mp decimal.decimal
    intro c member
    rcases List.mem_append.mp member with here | member
    · rw [before c here]; rfl
    · rcases List.mem_cons.mp member with rfl | there
      · exact Bool.or_true _
      · rw [after c there]; rfl

/-- A numeral is found whole behind its name. -/
theorem numeralField?_fieldsText {value : Rat} (key : String) (fields : List (String × Field × Separator))
    (spelled : word.toList = key.toList ++ ['=']) (apart : IsApart key (fields.map Prod.fst)) (ends : Ends rest)
    (fixed : IsFixed field.token value) :
    numeralField? word (fieldsText fields (field.text key rest)) = some (String.ofList field.token) := by
  have whole := run?_token (fun c => Text.isDecimalDigit c || c == '.') field (isNumeral_of_isFixed fixed)
    isBlank_of_isNumeral ends
  rw [numeralField?, fieldAfter?_fieldsText key fields spelled apart whole]
  rfl

/-- A statistics line is reported with just its fields, whatever its tokens are and however it is spaced. -/
theorem ofLine_statistics (line : StatisticsLine) :
    ofLine line.text = .ok {
      message := timeMessage (String.ofList line.time.token) (String.ofList line.speed.token)
      data := some [("time", .str (String.ofList line.time.token)),
        ("speed", .str (String.ofList line.speed.token)), ("frame", .int line.frames),
        ("fps", .num (Binary64.ofRat line.rate)), ("bitrate", .str (String.ofList line.bitrate.token))] } := by
  have time : tokenField? "time=" line.text = some (String.ofList line.time.token) :=
    tokenField?_fieldsText "time" (line.leading.take 4) rfl
      (show IsApart "time" ["frame", "fps", "q", "size"] by decide) (.inr ⟨line.separator 4, _, rfl⟩)
  have bitrate : tokenField? "bitrate=" line.text = some (String.ofList line.bitrate.token) :=
    tokenField?_fieldsText "bitrate" (line.leading.take 5) rfl
      (show IsApart "bitrate" ["frame", "fps", "q", "size", "time"] by decide) (.inr ⟨line.separator 5, _, rfl⟩)
  have speed : tokenField? "speed=" line.text = some (String.ofList line.speed.token) :=
    tokenField?_fieldsText "speed" line.leading rfl
      (show IsApart "speed" ["frame", "fps", "q", "size", "time", "bitrate"] by decide) (.inl rfl)
  have frame : digitField? "frame=" line.text = some line.frame.token := by
    have first : line.text = fieldsText [] (line.frame.text "frame" ((line.separator 0).blanks ++
        fieldsText (line.leading.drop 1) (line.speed.text "speed" []))) := rfl
    rw [first]
    exact digitField?_fieldsText "frame" [] rfl (by decide) (.inr ⟨_, _, rfl⟩) line.decimal.decimal
  have fps : numeralField? "fps=" line.text = some (String.ofList line.fps.token) :=
    numeralField?_fieldsText "fps" (line.leading.take 1) rfl (show IsApart "fps" ["frame"] by decide)
      (.inr ⟨line.separator 1, _, rfl⟩) line.fixed
  have count : frameCount? line.text = .ok (some line.frames) := by
    have read : readInteger line.frame.token = .ok line.frames := readInteger_eq_ok_iff.mpr ⟨line.decimal, line.short⟩
    simp only [frameCount?, frame, read]
    rfl
  have timed : Text.mentions "time=" line.text = true := by
    refine Text.isSome_findFirst?_of_bind (fun rest => Text.run? (fun c => !Text.isBlank c) (Text.dropBlank rest)) ?_
    exact Option.isSome_map.symm.trans (congrArg Option.isSome time)
  have rate : fieldValue (String.ofList line.fps.token) = .num (Binary64.ofRat line.rate) := by
    rw [fieldValue, String.toList_ofList, readNumeral?_of_isFixed line.fixed]
  rw [ofLine, if_pos timed, ofTimedLine, time, speed, count, fps, bitrate, Option.map_some, rate]
  rfl

/-- A field written with a number of spaces in front of its token. -/
def spaced (spaces : Nat) (token : String) (filled : token.toList ≠ []) (named : IsName token) : Field where
  gap := List.replicate spaces ' '
  token := token.toList
  blank := fun _ member => (List.eq_of_mem_replicate member) ▸ rfl
  filled := filled
  solid := fun c member => (named c member).2
  plain := fun sign => (named '=' sign).1 rfl

/-- The line `frame=  120 fps= 30 q=28.0 size=     256kB time=00:00:04.00 bitrate= 524.3kbits/s speed=1.99x`. -/
def sampleLine : StatisticsLine where
  frame := spaced 2 "120" (by decide) (by decide)
  fps := spaced 1 "30" (by decide) (by decide)
  q := spaced 0 "28.0" (by decide) (by decide)
  size := spaced 5 "256kB" (by decide) (by decide)
  time := spaced 0 "00:00:04.00" (by decide) (by decide)
  bitrate := spaced 1 "524.3kbits/s" (by decide) (by decide)
  speed := spaced 0 "1.99x" (by decide) (by decide)
  separator := fun _ => ⟨[' '], by decide, List.forall_mem_singleton.mpr rfl⟩
  frames := 120
  rate := 30
  decimal := ⟨by decide, List.all_eq_true.mp rfl, rfl⟩
  short := by decide
  fixed := .whole ⟨by decide, List.all_eq_true.mp rfl, rfl⟩

theorem sampleLine_reported :
    String.ofList sampleLine.text =
      "frame=  120 fps= 30 q=28.0 size=     256kB time=00:00:04.00 bitrate= 524.3kbits/s speed=1.99x" ∧
    ofLine sampleLine.text = .ok {
      message := "Processing... Time: 00:00:04.00, Speed: 1.99x"
      data := some [("time", .str "00:00:04.00"), ("speed", .str "1.99x"), ("frame", .int 120),
        ("fps", .num (Binary64.ofRat 30)), ("bitrate", .str "524.3kbits/s")] } :=
  ⟨by decide, (ofLine_statistics sampleLine).trans (by rfl)⟩

end Report

end Montage.Engine
