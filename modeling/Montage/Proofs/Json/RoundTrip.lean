import Montage.Proofs.Json.Scalar

/-! # Values are read back from their text

A value is read from its text, whatever comes after it, if each of its parts is: the induction is on the value, and over
the items of an array and the fields of an object. The reader needs no more steps and goes no deeper than the text is
long.
-/

namespace Montage.Json

attribute [local simp] render renderItems renderFields

/-- A value that is written as it is: its numbers are finite and its integers have digits up to a limit, the halves of
characters in its strings stand alone, and its objects have each key once. A string of whole characters may hold any. -/
inductive IsPlain (digits : Nat) : Json → Prop
  | null : IsPlain digits .null
  | bool (b : Bool) : IsPlain digits (.bool b)
  | int {n : Int} (few : (decimalDigits n.natAbs).length ≤ digits) : IsPlain digits (.int n)
  | num {x : Binary64} (finite : x.isFinite = true) : IsPlain digits (.num x)
  | str (text : String) : IsPlain digits (.str text)
  | broken {points : List Nat} (half : points.any isHalf = true) (valid : ∀ n ∈ points, n < 0x110000)
      (alone : points.IsChain fun a b => ¬Joins a b) : IsPlain digits (.broken points)
  | arr {items : List Json} (all : ∀ item ∈ items, IsPlain digits item) : IsPlain digits (.arr items)
  | obj {fields : List (String × Json)} (unique : (fields.map Prod.fst).Nodup)
      (all : ∀ field ∈ fields, IsPlain digits field.2) : IsPlain digits (.obj fields)

theorem renderItems_cons_cons (item next : Json) (others : List Json) :
    renderItems (item :: next :: others) = item.render ++ (',' :: ' ' :: renderItems (next :: others)) := by
  rw [renderItems]
  nofun

theorem renderFields_cons_cons (key : String) (found : Json) (next : String × Json) (others : List (String × Json)) :
    renderFields ((key, found) :: next :: others) =
      quote key ++ (':' :: ' ' :: (found.render ++ (',' :: ' ' :: renderFields (next :: others)))) := by
  rw [renderFields]
  nofun

namespace Reader

variable {limit fuel depth : Nat} {rest : List Char} {found : Json}

/-- A value is read from its text, whatever comes after it that is no part of a number. -/
def Reads (limit : Nat) (found : Json) : Prop :=
  ∀ (fuel depth : Nat) (rest : List Char), found.render.length ≤ fuel → found.render.length ≤ depth →
    Text.StopsAt goesOn rest → value limit fuel depth (found.render ++ rest) = .ok (found, rest)

theorem value_scalar {c : Char} {s : List Char} (quote : c ≠ '"') (bracket : c ≠ '[') (brace : c ≠ '\x7b') :
    value limit (fuel + 1) depth (c :: s) = scalar limit (c :: s) := by
  rw [value]
  all_goals simp_all

theorem value_quote {s : List Char} {found : List Nat} (read : points ('"' :: s) none s = .ok (found, rest)) :
    value limit (fuel + 1) depth ('"' :: s) = .ok (ofPoints found, rest) := by
  rw [value, read]
  rfl

theorem skip_cons {c : Char} {s : List Char} (solid : isSpace c = false) : skip (c :: s) = c :: s := by
  rw [skip, List.dropWhile_cons_of_neg]
  simp [solid]

/-- Whether a character can come first in a number. -/
def IsFirst (c : Char) : Prop := c = '-' ∨ c.isDigit = true

theorem IsFirst.ne {c other : Char} (first : IsFirst c) (minus : other ≠ '-') (digit : other.isDigit = false) :
    c ≠ other := by
  rintro rfl
  exact first.elim minus (Bool.eq_false_iff.mp digit)

theorem IsFirst.isSpace_eq {c : Char} (first : IsFirst c) : isSpace c = false := by
  have apart : c ≠ ' ' ∧ c ≠ '\t' ∧ c ≠ '\n' ∧ c ≠ '\r' :=
    ⟨first.ne (by decide) rfl, first.ne (by decide) rfl, first.ne (by decide) rfl, first.ne (by decide) rfl⟩
  simp [isSpace, apart]

theorem isFirst_number (negative : Bool) (p : Numeral.Spelling) :
    ∃ c s, p.signed negative = c :: s ∧ IsFirst c := by
  obtain ⟨c, s, split, digit⟩ := p.exists_head
  cases negative with
  | true => exact ⟨'-', p.text, rfl, .inl rfl⟩
  | false => exact ⟨c, s, split, .inr digit⟩

theorem opens_number (negative : Bool) (p : Numeral.Spelling) :
    ∃ c s, p.signed negative = c :: s ∧ isSpace c = false ∧ c ≠ ']' := by
  obtain ⟨c, s, split, first⟩ := isFirst_number negative p
  exact ⟨c, s, split, first.isSpace_eq, first.ne (by decide) rfl⟩

/-- The text of a value starts neither with a space nor with what closes an array. -/
theorem opens_render (found : Json) : ∃ c s, found.render = c :: s ∧ isSpace c = false ∧ c ≠ ']' := by
  unfold render
  split
  · exact ⟨_, _, rfl, rfl, by decide⟩
  · next b => cases b <;> exact ⟨_, _, rfl, rfl, by decide⟩
  · next n =>
    rw [toString_int]
    exact opens_number _ _
  · next x =>
    cases finite : x.isFinite with
    | true =>
      obtain ⟨negative, p, text, -⟩ := Binary64.exists_spelling finite
      rw [numberText_of_isFinite finite, text]
      exact opens_number _ _
    | false =>
      cases x with
      | finite | negZero => contradiction
      | infinite negative => cases negative <;> exact ⟨_, _, rfl, rfl, by decide⟩
      | nan => exact ⟨_, _, rfl, rfl, by decide⟩
  all_goals exact ⟨_, _, rfl, rfl, by decide⟩

theorem skip_render (found : Json) (rest : List Char) : skip (found.render ++ rest) = found.render ++ rest := by
  obtain ⟨c, s, split, solid, -⟩ := opens_render found
  rw [split, List.cons_append, skip_cons solid]

theorem exists_fuel (enough : found.render.length ≤ fuel) : ∃ more, fuel = more + 1 := by
  obtain ⟨c, s, split, -⟩ := opens_render found
  rw [split, List.length_cons] at enough
  exact ⟨fuel - 1, by omega⟩

/-- A value that has neither quotes nor brackets around it. -/
theorem reads_scalar {c : Char} {s : List Char} (split : found.render = c :: s)
    (apart : c ≠ '"' ∧ c ≠ '[' ∧ c ≠ '\x7b')
    (read : ∀ rest, Text.StopsAt goesOn rest → scalar limit (found.render ++ rest) = .ok (found, rest)) :
    Reads limit found := by
  intro fuel depth rest enough deep stops
  obtain ⟨fuel, rfl⟩ := exists_fuel enough
  rw [← read rest stops, split, List.cons_append]
  exact value_scalar apart.1 apart.2.1 apart.2.2

theorem reads_number (negative : Bool) (p : Numeral.Spelling) (text : found.render = p.signed negative)
    (read : ∀ rest, Text.StopsAt goesOn rest → number limit (p.signed negative ++ rest) = .ok (found, rest)) :
    Reads limit found := by
  obtain ⟨c, s, split, first⟩ := isFirst_number negative p
  refine reads_scalar (text.trans split)
    ⟨first.ne (by decide) rfl, first.ne (by decide) rfl, first.ne (by decide) rfl⟩ fun rest stops => ?_
  rw [text, scalar_number]
  exact read rest stops

theorem reads_null : Reads limit .null :=
  reads_scalar rfl (by decide) fun _ _ => rfl

theorem reads_bool (b : Bool) : Reads limit (.bool b) := by
  cases b <;> exact reads_scalar rfl (by decide) fun _ _ => rfl

theorem reads_int {n : Int} (few : (decimalDigits n.natAbs).length ≤ limit) : Reads limit (.int n) := by
  refine reads_number (decide (n < 0)) (.ofNat n.natAbs) (toString_int n) fun rest stops => ?_
  have sign : (if decide (n < 0) then -(n.natAbs : Int) else n.natAbs) = n := by
    rcases Int.lt_or_le n 0 with negative | positive
    · rw [decide_eq_true negative, if_pos rfl]
      omega
    · rw [decide_eq_false (Int.not_lt.mpr positive), if_neg Bool.false_ne_true]
      omega
  rw [number_eq limit _ stops, if_pos ⟨rfl, rfl⟩, Numeral.Spelling.mantissa_ofNat, sign]
  exact if_neg (Nat.not_lt.mpr few)

theorem reads_num {x : Binary64} (finite : x.isFinite = true) : Reads limit (.num x) := by
  obtain ⟨negative, p, text, broken, read⟩ := Binary64.exists_spelling finite
  have written : (Json.num x).render = p.signed negative := by
    rw [render, numberText_of_isFinite finite, text]
  refine reads_number negative p written fun rest stops => ?_
  rw [number_eq limit negative stops, read]
  exact if_neg broken

theorem reads_str (text : String) : Reads limit (.str text) := by
  intro fuel depth rest enough deep stops
  obtain ⟨fuel, rfl⟩ := exists_fuel enough
  have written : (Json.str text).render ++ rest = '"' :: (text.toList.flatMap escapeChar ++ '"' :: rest) := by
    rw [render, quote, List.cons_append, List.append_assoc, List.singleton_append]
  rw [written, value_quote (points_quote text), ofPoints_toNat]

theorem reads_broken {found : List Nat} (half : found.any isHalf = true) (valid : ∀ n ∈ found, n < 0x110000)
    (alone : found.IsChain fun a b => ¬Joins a b) : Reads limit (.broken found) := by
  intro fuel depth rest enough deep stops
  obtain ⟨fuel, rfl⟩ := exists_fuel enough
  have written : (Json.broken found).render ++ rest = '"' :: (found.flatMap escapePoint ++ '"' :: rest) := by
    rw [render, quotePoints, List.cons_append, List.append_assoc, List.singleton_append]
    rfl
  rw [written, value_quote (points_flatMap valid nofun alone), Option.toList_none, List.nil_append, ofPoints,
    if_pos half]

/-- An item is followed by the end of the array or by more items. -/
theorem items_item {s t : List Char} (read : value limit fuel depth s = .ok (found, t)) :
    (∀ rest, t = ']' :: rest → items limit (fuel + 1) depth s = .ok ([found], rest)) ∧
      ∀ others more rest, t = ',' :: ' ' :: more → skip more = more →
        items limit fuel depth more = .ok (others, rest) →
        items limit (fuel + 1) depth s = .ok (found :: others, rest) := by
  constructor
  · rintro rest rfl
    rw [items, read]
    rfl
  · rintro others more rest rfl solid reads
    have after : skip (' ' :: more) = more := solid
    have comma : skip (',' :: ' ' :: more) = ',' :: ' ' :: more := rfl
    simp only [items, read, comma, after, reads, bind, Except.bind]

theorem opens_renderItems (item : Json) (others : List Json) :
    ∃ c s, renderItems (item :: others) = c :: s ∧ isSpace c = false ∧ c ≠ ']' := by
  obtain ⟨c, s, split, opens⟩ := opens_render item
  cases others with
  | nil => exact ⟨c, s, split, opens⟩
  | cons next others =>
    refine ⟨c, s ++ (',' :: ' ' :: renderItems (next :: others)), ?_, opens⟩
    rw [renderItems_cons_cons, split]
    rfl

theorem skip_renderItems (item : Json) (others : List Json) (rest : List Char) :
    skip (renderItems (item :: others) ++ rest) = renderItems (item :: others) ++ rest := by
  obtain ⟨c, s, split, solid, -⟩ := opens_renderItems item others
  rw [split, List.cons_append, skip_cons solid]

theorem items_renderItems {found : List Json} (some : found ≠ []) (all : ∀ item ∈ found, Reads limit item)
    (enough : (renderItems found).length + 1 ≤ fuel) (deep : (renderItems found).length ≤ depth) :
    items limit fuel depth (renderItems found ++ ']' :: rest) = .ok (found, rest) := by
  induction found generalizing fuel with
  | nil => contradiction
  | cons item others ih =>
    obtain ⟨here, later⟩ := List.forall_mem_cons.mp all
    obtain ⟨fuel, rfl⟩ : ∃ more, fuel = more + 1 := ⟨fuel - 1, by omega⟩
    cases others with
    | nil =>
      have read := here fuel depth (']' :: rest) (by simpa using enough) deep (Text.stopsAt_cons.mpr rfl)
      exact (items_item read).1 _ rfl
    | cons next others =>
      have split := renderItems_cons_cons item next others
      have size : (renderItems (item :: next :: others)).length =
          item.render.length + (2 + (renderItems (next :: others)).length) := by
        rw [split, List.length_append, List.length_cons, List.length_cons]
        omega
      have read := here fuel depth (',' :: ' ' :: (renderItems (next :: others) ++ ']' :: rest)) (by omega) (by omega)
        (Text.stopsAt_cons.mpr rfl)
      rw [split, List.append_assoc]
      exact (items_item read).2 _ _ _ rfl (skip_renderItems next others _)
        (ih (List.cons_ne_nil _ _) later (by omega) (by omega))

theorem reads_arr {found : List Json} (all : ∀ item ∈ found, Reads limit item) : Reads limit (.arr found) := by
  intro fuel depth rest enough deep stops
  obtain ⟨fuel, rfl⟩ := exists_fuel enough
  have written : (Json.arr found).render ++ rest = '[' :: (renderItems found ++ ']' :: rest) := by
    rw [render, List.cons_append, List.append_assoc, List.singleton_append]
  have size : (Json.arr found).render.length = (renderItems found).length + 2 := by
    rw [render, List.length_cons, List.length_append, List.length_singleton]
  obtain ⟨depth, rfl⟩ : ∃ more, depth = more + 1 := ⟨depth - 1, by omega⟩
  rw [written]
  cases found with
  | nil => rfl
  | cons item others =>
    have start := skip_renderItems item others (']' :: rest)
    have read : items limit fuel depth (renderItems (item :: others) ++ ']' :: rest) = .ok (item :: others, rest) :=
      items_renderItems (List.cons_ne_nil item others) all (by omega) (by omega)
    rw [value.eq_5, start, read]
    · rfl
    · intro tail closed
      obtain ⟨c, s, split, -, notClosed⟩ := opens_renderItems item others
      rw [start, split, List.cons_append] at closed
      exact notClosed (List.cons.inj closed).1

/-- A field is followed by the end of the object or by more fields. -/
theorem fields_field {before : List (String × Json)} {key : String} {t : List Char}
    (absent : ∀ field ∈ before, field.1 ≠ key) (read : value limit fuel depth (found.render ++ t) = .ok (found, t)) :
    (∀ rest, t = '\x7d' :: rest →
        fields limit (fuel + 1) depth before (quote key ++ (':' :: ' ' :: (found.render ++ t))) =
          .ok (before ++ [(key, found)], rest)) ∧
      ∀ more, t = ',' :: ' ' :: more → skip more = more →
        fields limit (fuel + 1) depth before (quote key ++ (':' :: ' ' :: (found.render ++ t))) =
          fields limit fuel depth (before ++ [(key, found)]) more := by
  have written (s : List Char) : quote key ++ s = '"' :: (key.toList.flatMap escapeChar ++ '"' :: s) := by
    rw [quote, List.cons_append, List.append_assoc, List.singleton_append]
  have colon (s : List Char) : skip (':' :: s) = ':' :: s := rfl
  have gap (s : List Char) : skip (' ' :: s) = skip s := rfl
  rw [written]
  constructor
  · rintro rest rfl
    have close : skip ('\x7d' :: rest) = '\x7d' :: rest := rfl
    simp only [fields, points_quote, bind, Except.bind, colon, gap, skip_render, read, pointsText_toNat,
      Entries.set_of_absent absent, close]
  · rintro more rfl solid
    have comma : skip (',' :: ' ' :: more) = ',' :: ' ' :: more := rfl
    simp only [fields, points_quote, bind, Except.bind, colon, gap, skip_render, read, pointsText_toNat,
      Entries.set_of_absent absent, comma, solid]

theorem opens_renderFields (field : String × Json) (others : List (String × Json)) :
    ∃ s, renderFields (field :: others) = '"' :: s := by
  cases others with
  | nil => exact ⟨_, rfl⟩
  | cons next others =>
    rw [renderFields_cons_cons]
    exact ⟨_, rfl⟩

theorem skip_renderFields (field : String × Json) (others : List (String × Json)) (rest : List Char) :
    skip (renderFields (field :: others) ++ rest) = renderFields (field :: others) ++ rest := by
  obtain ⟨s, split⟩ := opens_renderFields field others
  rw [split]
  rfl

theorem fields_renderFields {before found : List (String × Json)} (some : found ≠ [])
    (unique : ((before ++ found).map Prod.fst).Nodup) (all : ∀ field ∈ found, Reads limit field.2)
    (enough : (renderFields found).length + 1 ≤ fuel) (deep : (renderFields found).length ≤ depth) :
    fields limit fuel depth before (renderFields found ++ '\x7d' :: rest) = .ok (before ++ found, rest) := by
  induction found generalizing before fuel with
  | nil => contradiction
  | cons field others ih =>
    obtain ⟨key, found⟩ := field
    have here : Reads limit found := all _ List.mem_cons_self
    have later : ∀ field ∈ others, Reads limit field.2 := fun field member => all field (List.mem_cons_of_mem _ member)
    obtain ⟨fuel, rfl⟩ : ∃ more, fuel = more + 1 := ⟨fuel - 1, by omega⟩
    have absent : ∀ field ∈ before, field.1 ≠ key := by
      intro field member same
      rw [List.map_append, List.nodup_append] at unique
      exact unique.2.2 _ (List.mem_map_of_mem member) _ (List.mem_map_of_mem List.mem_cons_self) same
    cases others with
    | nil =>
      have split : renderFields [(key, found)] = quote key ++ (':' :: ' ' :: found.render) := rfl
      rw [split, List.length_append, List.length_cons, List.length_cons] at enough deep
      have read := here fuel depth ('\x7d' :: rest) (by omega) (by omega) (Text.stopsAt_cons.mpr rfl)
      rw [split, List.append_assoc]
      exact (fields_field absent read).1 _ rfl
    | cons next others =>
      have split := renderFields_cons_cons key found next others
      have size : (renderFields ((key, found) :: next :: others)).length =
          (quote key).length + (2 + (found.render.length + (2 + (renderFields (next :: others)).length))) := by
        rw [split]
        simp only [List.length_append, List.length_cons]
        omega
      have read := here fuel depth (',' :: ' ' :: (renderFields (next :: others) ++ '\x7d' :: rest)) (by omega) (by omega)
        (Text.stopsAt_cons.mpr rfl)
      have keys : ((before ++ [(key, found)] ++ next :: others).map Prod.fst).Nodup := by
        rwa [List.append_assoc, List.singleton_append]
      have tail : fields limit fuel depth (before ++ [(key, found)]) (renderFields (next :: others) ++ '\x7d' :: rest) =
          .ok (before ++ [(key, found)] ++ next :: others, rest) :=
        ih (List.cons_ne_nil _ _) keys later (by omega) (by omega)
      have step := (fields_field absent read).2 _ rfl (skip_renderFields next others _)
      rw [split, List.append_assoc, List.cons_append, List.cons_append, List.append_assoc, List.cons_append,
        List.cons_append, step, tail, List.append_assoc, List.singleton_append]

theorem reads_obj {found : List (String × Json)} (unique : (found.map Prod.fst).Nodup)
    (all : ∀ field ∈ found, Reads limit field.2) : Reads limit (.obj found) := by
  intro fuel depth rest enough deep stops
  obtain ⟨fuel, rfl⟩ := exists_fuel enough
  have written : (Json.obj found).render ++ rest = '\x7b' :: (renderFields found ++ '\x7d' :: rest) := by
    rw [render, List.cons_append, List.append_assoc, List.singleton_append]
  have size : (Json.obj found).render.length = (renderFields found).length + 2 := by
    rw [render, List.length_cons, List.length_append, List.length_singleton]
  obtain ⟨depth, rfl⟩ : ∃ more, depth = more + 1 := ⟨depth - 1, by omega⟩
  rw [written]
  cases found with
  | nil => rfl
  | cons field others =>
    have start := skip_renderFields field others ('\x7d' :: rest)
    have read : fields limit fuel depth [] (renderFields (field :: others) ++ '\x7d' :: rest) =
        .ok (field :: others, rest) :=
      fields_renderFields (List.cons_ne_nil field others) unique all (by omega) (by omega)
    rw [value.eq_8, start, read]
    · rfl
    · intro tail closed
      obtain ⟨s, split⟩ := opens_renderFields field others
      rw [start, split, List.cons_append] at closed
      exact absurd (List.cons.inj closed).1 (by decide)

/-- A plain value is read from its text. -/
theorem reads_of_isPlain (plain : found.IsPlain limit) : Reads limit found := by
  induction plain with
  | null => exact reads_null
  | bool b => exact reads_bool b
  | int few => exact reads_int few
  | num finite => exact reads_num finite
  | str text => exact reads_str text
  | broken half valid alone => exact reads_broken half valid alone
  | arr _ ih => exact reads_arr ih
  | obj unique _ ih => exact reads_obj unique ih

end Reader

variable {digits : Nat} {found : Json}

theorem readWithin_render {depth : Nat} (plain : found.IsPlain digits) (deep : found.render.length ≤ depth) :
    readWithin digits depth found.render = .ok found := by
  have start := Reader.skip_render found []
  have read := Reader.reads_of_isPlain plain (2 * found.render.length + 2) depth [] (by omega) deep Text.stopsAt_nil
  rw [List.append_nil] at start read
  have none : Reader.skip [] = [] := rfl
  simp only [readWithin, start, read, bind, Except.bind, none]

theorem IsPlain.mono {more : Nat} (plain : found.IsPlain digits) (le : digits ≤ more) : found.IsPlain more := by
  induction plain with
  | null => exact .null
  | bool b => exact .bool b
  | int few => exact .int (few.trans le)
  | num finite => exact .num finite
  | str text => exact .str text
  | broken half valid alone => exact .broken half valid alone
  | arr _ ih => exact .arr ih
  | obj unique _ ih => exact .obj unique ih

/-! ## Parts of a text -/

theorem renderItems_eq_intercalate (items : List Json) :
    renderItems items = [',', ' '].intercalate (items.map render) := by
  induction items with
  | nil => rfl
  | cons item others ih =>
    cases others with
    | nil => rw [renderItems, List.map_singleton, List.intercalate_singleton]
    | cons next others =>
      rw [renderItems_cons_cons, ih, List.map_cons, List.map_cons, List.map_cons, List.intercalate_cons_cons,
        List.append_assoc]
      rfl

/-- A field in the text of an object. -/
def renderField (field : String × Json) : List Char := quote field.1 ++ (':' :: ' ' :: field.2.render)

theorem renderFields_eq_intercalate (fields : List (String × Json)) :
    renderFields fields = [',', ' '].intercalate (fields.map renderField) := by
  induction fields with
  | nil => rfl
  | cons field others ih =>
    cases others with
    | nil =>
      rw [List.map_singleton, List.intercalate_singleton]
      rfl
    | cons next others =>
      rw [renderFields_cons_cons, ih, List.map_cons, List.map_cons, List.map_cons, List.intercalate_cons_cons]
      simp [renderField]

theorem length_le_intercalate (gap : List Char) {part : List Char} {parts : List (List Char)} (member : part ∈ parts) :
    part.length ≤ (gap.intercalate parts).length := by
  induction parts with
  | nil => contradiction
  | cons first others ih =>
    cases others with
    | nil => rw [List.mem_singleton.mp member, List.intercalate_singleton]
    | cons next others =>
      rw [List.intercalate_cons_cons, List.length_append, List.length_append]
      rcases List.mem_cons.mp member with rfl | later
      · omega
      · have shorter := ih later
        omega

theorem forall_mem_intercalate {P : Char → Prop} {gap : List Char} {parts : List (List Char)} (between : ∀ c ∈ gap, P c)
    (all : ∀ part ∈ parts, ∀ c ∈ part, P c) : ∀ c ∈ gap.intercalate parts, P c := by
  induction parts with
  | nil => nofun
  | cons first others ih =>
    obtain ⟨here, later⟩ := List.forall_mem_cons.mp all
    cases others with
    | nil => rwa [List.intercalate_singleton]
    | cons next others =>
      rw [List.intercalate_cons_cons, List.forall_mem_append, List.forall_mem_append]
      exact ⟨⟨here, between⟩, ih later⟩

/-- Integers do not have more digits than a text that they stand in, so a limit of its length is none. -/
theorem isPlain_length (plain : found.IsPlain digits) : found.IsPlain found.render.length := by
  induction plain with
  | null => exact .null
  | bool b => exact .bool b
  | @int n few =>
    apply IsPlain.int
    have digits : (Numeral.Spelling.ofNat n.natAbs).text = decimalDigits n.natAbs := by
      simp [Numeral.Spelling.text, Numeral.Spelling.pointText, Numeral.Spelling.powerText, Numeral.Spelling.ofNat]
    rw [render, toString_int, Numeral.Spelling.signed, digits]
    split
    · exact Nat.le_succ _
    · exact le_rfl
  | num finite => exact .num finite
  | str text => exact .str text
  | broken half valid alone => exact .broken half valid alone
  | @arr items _ ih =>
    refine .arr fun item member => (ih item member).mono ?_
    have shorter := length_le_intercalate [',', ' '] (List.mem_map_of_mem (f := render) member)
    rw [render, List.length_cons, List.length_append, renderItems_eq_intercalate]
    omega
  | @obj fields unique _ ih =>
    refine .obj unique fun field member => (ih field member).mono ?_
    have shorter := length_le_intercalate [',', ' '] (List.mem_map_of_mem (f := renderField) member)
    rw [renderField, List.length_append, List.length_cons, List.length_cons] at shorter
    rw [render, List.length_cons, List.length_append, renderFields_eq_intercalate]
    omega

/-- A plain value is read back from its text, at any depth. -/
theorem decode_render (plain : found.IsPlain digits) : decode found.render = .ok found :=
  readWithin_render (isPlain_length plain) le_rfl

/-- A plain value whose integers are not too long is read back. -/
theorem ofText_text (plain : found.IsPlain integerDigitLimit) : ofText found.text = .ok found := by
  have same : found.text.toList = found.render := String.toList_ofList
  have length : found.text.length = found.render.length := by rw [← same, String.length_toList]
  rw [ofText, read, same, length]
  exact readWithin_render plain le_rfl

/-- The text of a plain value is printable: it has no line breaks. -/
theorem isPrintable_render (plain : found.IsPlain digits) : ∀ c ∈ found.render, IsPrintable c := by
  have gap : ∀ c ∈ [',', ' '], IsPrintable c := forall_isPrintable rfl
  induction plain with
  | null => exact forall_isPrintable rfl
  | bool b => cases b <;> exact forall_isPrintable rfl
  | @int n few =>
    rw [render, toString_int]
    exact isPrintable_number _ _
  | @num x finite =>
    obtain ⟨negative, p, text, -⟩ := Binary64.exists_spelling finite
    rw [render, numberText_of_isFinite finite, text]
    exact isPrintable_number _ _
  | str text => exact isPrintable_quote text
  | @broken points half valid alone => exact isPrintable_quotePoints points
  | @arr items _ ih =>
    rw [render, renderItems_eq_intercalate]
    refine List.forall_mem_cons.mpr ⟨by decide, List.forall_mem_append.mpr ⟨forall_mem_intercalate gap ?_, forall_isPrintable rfl⟩⟩
    exact List.forall_mem_map.mpr ih
  | @obj fields unique _ ih =>
    rw [render, renderFields_eq_intercalate]
    refine List.forall_mem_cons.mpr ⟨by decide, List.forall_mem_append.mpr ⟨forall_mem_intercalate gap ?_, forall_isPrintable rfl⟩⟩
    refine List.forall_mem_map.mpr fun field member => List.forall_mem_append.mpr ⟨isPrintable_quote field.1, ?_⟩
    exact List.forall_mem_cons.mpr ⟨by decide, List.forall_mem_cons.mpr ⟨by decide, ih field member⟩⟩

end Montage.Json
