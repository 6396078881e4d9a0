import Mathlib.Data.List.Chain
import Montage.Json.Reader
import Montage.Proofs.Entries
import Montage.Proofs.Number.Spelling

/-! # Strings and numbers are read back

A string is written as its code points. Each is read from its own escape, and the halves of characters that stand alone
are read as they are. A number is written as a numeral, with or without a point and an exponent, and its reader stops
behind it. Whatever a string holds and whatever the number, all that is written is printable.
-/

namespace Montage.Json

/-! ## Strings -/

/-- A code point in quotes. -/
def escapePoint (n : Nat) : List Char := if isHalf n then unitEscape n else escapeChar (Char.ofNat n)

theorem hexDigit_facts : ∀ k < 16, Text.hexValue? (Text.hexDigit k) = some k ∧
    32 ≤ (Text.hexDigit k).toNat ∧ (Text.hexDigit k).toNat < 127 := by
  decide

/-- The characters with a short escape, and its letter. -/
def shortEscapes : List (Char × Char) :=
  [('"', '"'), ('\\', '\\'), ('\n', 'n'), ('\r', 'r'), ('\t', 't'), ('\x08', 'b'), ('\x0c', 'f')]

theorem escapeChar_of_short : ∀ short ∈ shortEscapes,
    Reader.shortEscape? short.2 = some short.1 ∧ escapeChar short.1 = ['\\', short.2] ∧
      32 ≤ short.2.toNat ∧ short.2.toNat < 127 := by
  decide

/-- What a character is written as in quotes. -/
inductive IsEscape (c : Char) : List Char → Prop
  | short {letter : Char} (known : (c, letter) ∈ shortEscapes) : IsEscape c ['\\', letter]
  | plain (quote : c ≠ '"') (escape : c ≠ '\\') (least : 32 ≤ c.toNat) (most : c.toNat < 127) : IsEscape c [c]
  | unit (small : c.toNat < 0x10000) : IsEscape c (unitEscape c.toNat)
  | pair (large : 0x10000 ≤ c.toNat) :
      IsEscape c (unitEscape (0xD800 + (c.toNat - 0x10000) / 1024) ++ unitEscape (0xDC00 + (c.toNat - 0x10000) % 1024))

theorem isEscape_escapeChar (c : Char) : IsEscape c (escapeChar c) := by
  by_cases short : c ∈ shortEscapes.map Prod.fst
  · obtain ⟨⟨_, letter⟩, known, rfl⟩ := List.mem_map.mp short
    rw [(escapeChar_of_short _ known).2.1]
    exact .short known
  · have apart : c ≠ '"' ∧ c ≠ '\\' ∧ c ≠ '\n' ∧ c ≠ '\r' ∧ c ≠ '\t' ∧ c ≠ '\x08' ∧ c ≠ '\x0c' := by
      simpa [shortEscapes] using short
    obtain ⟨quote, escape, feed, back, tab, delete, page⟩ := apart
    simp only [escapeChar, quote, escape, feed, back, tab, delete, page, if_false]
    split
    · next printable => exact .plain quote escape printable.1 printable.2
    · split
      · next small => exact .unit small
      · next large => exact .pair (Nat.not_lt.mp large)

theorem isHighUnit_iff {n : Nat} : isHighUnit n = true ↔ 0xD800 ≤ n ∧ n < 0xDC00 := by simp [isHighUnit]

theorem isLowUnit_iff {n : Nat} : isLowUnit n = true ↔ 0xDC00 ≤ n ∧ n < 0xE000 := by simp [isLowUnit]

theorem isHalf_iff {n : Nat} : isHalf n = true ↔ 0xD800 ≤ n ∧ n < 0xE000 := by
  rw [isHalf, Bool.or_eq_true, isHighUnit_iff, isLowUnit_iff]
  omega

theorem toNat_range (c : Char) : c.toNat < 0xD800 ∨ 0xE000 ≤ c.toNat ∧ c.toNat < 0x110000 := c.valid

/-- A character is no half of one. -/
theorem isHalf_toNat (c : Char) : isHalf c.toNat = false := by
  have range := toNat_range c
  rw [Bool.eq_false_iff, ne_eq, isHalf_iff]
  omega

/-- A code point that is no half is a character. -/
theorem toNat_ofNat {n : Nat} (valid : n < 0x110000) (whole : isHalf n = false) : (Char.ofNat n).toNat = n := by
  rw [Bool.eq_false_iff, ne_eq, isHalf_iff] at whole
  have range : n.isValidChar := by
    unfold Nat.isValidChar
    omega
  rw [Char.ofNat, dif_pos range]
  rfl

/-- Whether a first half stands before a second one. -/
def Joins (a b : Nat) : Prop := isHighUnit a = true ∧ isLowUnit b = true

namespace Reader

variable {opened rest : List Char} {pending : Option Nat}

attribute [local simp] points

theorem unit?_hexDigits {n : Nat} (small : n < 0x10000) :
    unit? (Text.hexDigit (n / 4096 % 16)) (Text.hexDigit (n / 256 % 16)) (Text.hexDigit (n / 16 % 16))
      (Text.hexDigit (n % 16)) = some n := by
  have digit (m : Nat) : Text.hexValue? (Text.hexDigit (m % 16)) = some (m % 16) :=
    (hexDigit_facts _ (Nat.mod_lt _ (by decide))).1
  simp only [unit?, digit, Option.bind_eq_bind, Option.bind_some, Option.some.injEq]
  omega

/-- A code unit that goes with no first half before it is read from its escape; a first half is kept back itself. -/
theorem points_unitEscape {n : Nat} (small : n < 0x10000) (more : rest ≠ [])
    (apart : ∀ high ∈ pending, isLowUnit n = false) :
    points opened pending (unitEscape n ++ rest) =
      flushUnit pending (if isHighUnit n then points opened (some n) rest else consPoint n (points opened none rest)) := by
  have unit := unit?_hexDigits small
  have full : rest.isEmpty = false := by simpa using more
  cases pending with
  | none => exact points.eq_5 _ _ _ _ _ _ _ full unit
  | some high =>
    have read := points.eq_4 opened _ _ _ _ rest n high full unit
    rw [apart high rfl, if_neg Bool.false_ne_true] at read
    refine read.trans ?_
    cases isHighUnit n <;> rfl

/-- Two halves that belong together are read as the character. -/
theorem points_pair {high low : Nat} (opens : isHighUnit high = true) (closes : isLowUnit low = true) (more : rest ≠ []) :
    points opened pending (unitEscape high ++ (unitEscape low ++ rest)) =
      flushUnit pending
        (consPoint (0x10000 + (high - 0xD800) * 1024 + (low - 0xDC00)) (points opened none rest)) := by
  have first := isHighUnit_iff.mp opens
  have second := isLowUnit_iff.mp closes
  have alone : ∀ other ∈ pending, isLowUnit high = false := fun _ _ => by
    rw [Bool.eq_false_iff, ne_eq, isLowUnit_iff]
    omega
  have full : rest.isEmpty = false := by simpa using more
  have unit := unit?_hexDigits (n := low) (by omega)
  have read := points.eq_4 opened _ _ _ _ rest low high full unit
  rw [closes, if_pos rfl] at read
  rw [points_unitEscape (by omega) (by simp [unitEscape]) alone, opens, if_pos rfl]
  exact congrArg (flushUnit pending) read

theorem points_short {c plain : Char} (short : shortEscape? c = some plain) :
    points opened pending ('\\' :: c :: rest) = flushUnit pending (consPoint plain.toNat (points opened none rest)) := by
  have other : c ≠ 'u' := by
    rintro rfl
    contradiction
  rw [points, short]
  · exact fun _ _ _ _ _ same => absurd same other
  · exact other

theorem points_plain {c : Char} (quote : c ≠ '"') (escape : c ≠ '\\') (printable : 32 ≤ c.toNat) :
    points opened pending (c :: rest) = flushUnit pending (consPoint c.toNat (points opened none rest)) := by
  rw [points, if_neg (Nat.not_lt.mpr printable)]
  · exact quote
  all_goals intros; contradiction

/-- A character is read from its escape. -/
theorem points_escapeChar (c : Char) (more : rest ≠ []) :
    points opened pending (escapeChar c ++ rest) = flushUnit pending (consPoint c.toNat (points opened none rest)) := by
  have whole := isHalf_toNat c
  simp only [isHalf, Bool.or_eq_false_iff] at whole
  obtain ⟨notHigh, notLow⟩ := whole
  have form := isEscape_escapeChar c
  generalize escapeChar c = written at form
  cases form with
  | short known => exact points_short (escapeChar_of_short _ known).1
  | plain quote escape least most => exact points_plain quote escape least
  | unit small =>
    rw [points_unitEscape small more fun _ _ => notLow, notHigh]
    rfl
  | pair large =>
    have most := toNat_range c
    have opens : isHighUnit (0xD800 + (c.toNat - 0x10000) / 1024) = true := isHighUnit_iff.mpr (by omega)
    have closes : isLowUnit (0xDC00 + (c.toNat - 0x10000) % 1024) = true := isLowUnit_iff.mpr (by omega)
    have value : 0x10000 + (0xD800 + (c.toNat - 0x10000) / 1024 - 0xD800) * 1024 +
        (0xDC00 + (c.toNat - 0x10000) % 1024 - 0xDC00) = c.toNat := by omega
    rw [List.append_assoc, points_pair opens closes more, value]

/-- A code point is read from its escape: a first half is kept back. -/
theorem points_escapePoint {n : Nat} (valid : n < 0x110000) (more : rest ≠ [])
    (apart : ∀ high ∈ pending, isLowUnit n = false) :
    points opened pending (escapePoint n ++ rest) =
      flushUnit pending (if isHighUnit n then points opened (some n) rest else consPoint n (points opened none rest)) := by
  unfold escapePoint
  split
  · next half =>
    have range := isHalf_iff.mp half
    exact points_unitEscape (by omega) more apart
  · next whole =>
    rw [Bool.not_eq_true] at whole
    rw [points_escapeChar _ more, toNat_ofNat valid whole]
    simp only [isHalf, Bool.or_eq_false_iff] at whole
    rw [whole.1, if_neg Bool.false_ne_true]

/-- A run of code points is read from its escapes if no two of them are the halves of a character. -/
theorem points_flatMap {found : List Nat} (valid : ∀ n ∈ found, n < 0x110000)
    (kept : ∀ high ∈ pending, isHighUnit high = true)
    (apart : (pending.toList ++ found).IsChain fun a b => ¬Joins a b) :
    points opened pending (found.flatMap escapePoint ++ '"' :: rest) = .ok (pending.toList ++ found, rest) := by
  induction found generalizing pending with
  | nil =>
    cases pending <;> simp [flushUnit, consPoint]
  | cons n found ih =>
    obtain ⟨here, others⟩ := List.forall_mem_cons.mp valid
    have more : found.flatMap escapePoint ++ '"' :: rest ≠ [] := by simp
    have split : (∀ high ∈ pending, ¬Joins high n) ∧ (n :: found).IsChain fun a b => ¬Joins a b := by
      cases pending with
      | none => exact ⟨nofun, apart⟩
      | some high =>
        obtain ⟨alone, after⟩ := List.isChain_cons_cons.mp apart
        exact ⟨fun other member => Option.mem_some.mp member ▸ alone, after⟩
    obtain ⟨alone, after⟩ := split
    have single : ∀ high ∈ pending, isLowUnit n = false := fun high member =>
      Bool.eq_false_iff.mpr fun low => alone high member ⟨kept high member, low⟩
    rw [List.flatMap_cons, List.append_assoc, points_escapePoint here more single]
    split
    · next high =>
      have kept : points opened (some n) (found.flatMap escapePoint ++ '"' :: rest) = .ok (n :: found, rest) :=
        ih others (fun other member => Option.mem_some.mp member ▸ high) after
      rw [kept]
      cases pending <;> rfl
    · have free : points opened none (found.flatMap escapePoint ++ '"' :: rest) = .ok (found, rest) :=
        ih others nofun after.tail
      rw [free]
      cases pending <;> rfl

/-- A text is read between quotes. -/
theorem points_quote (text : String) :
    points opened none (text.toList.flatMap escapeChar ++ '"' :: rest) = .ok (text.toList.map Char.toNat, rest) := by
  have escapes : text.toList.flatMap escapeChar = (text.toList.map Char.toNat).flatMap escapePoint := by
    rw [List.flatMap_map]
    simp only [escapePoint, isHalf_toNat, Bool.false_eq_true, if_false, Char.ofNat_toNat]
  have whole (a b : Char) : ¬Joins a.toNat b.toNat := fun both => by
    have none := isHalf_toNat a
    rw [isHalf, both.1] at none
    contradiction
  rw [escapes]
  refine points_flatMap ?_ nofun (List.pairwise_map.mpr (List.pairwise_of_forall whole)).isChain
  rw [List.forall_mem_map]
  intro c _
  have range := toNat_range c
  omega

end Reader

theorem ofPoints_toNat (text : String) : ofPoints (text.toList.map Char.toNat) = .str text := by
  have whole : (text.toList.map Char.toNat).any isHalf = false := by
    simp [isHalf_toNat]
  rw [ofPoints, whole, if_neg Bool.false_ne_true, List.map_map]
  have same : Char.ofNat ∘ Char.toNat = id := funext Char.ofNat_toNat
  rw [same, List.map_id, String.ofList_toList]

theorem pointsText_toNat (text : String) : pointsText (text.toList.map Char.toNat) = text := by
  rw [pointsText, List.map_map]
  have same : (fun n => if isHalf n then '\uFFFD' else Char.ofNat n) ∘ Char.toNat = id := by
    funext c
    simp [isHalf_toNat]
  rw [same, List.map_id, String.ofList_toList]

/-! ## Numbers -/

namespace Reader

open Numeral (Spelling)

variable {rest : List Char} {p : Spelling}

/-- Whether a number goes on with a character. -/
def goesOn (c : Char) : Bool := c.isDigit || c == '.' || c == 'e' || c == 'E'

theorem stopsAt_of_goesOn {isPart : Char → Bool} (stops : Text.StopsAt goesOn rest)
    (parts : ∀ c, isPart c = true → goesOn c = true) : Text.StopsAt isPart rest := fun c first => by
  rw [Bool.eq_false_iff]
  exact fun part => Bool.eq_false_iff.mp (stops c first) (parts c part)

/-- Digits and a point come before the power of ten. -/
theorem stopsAt_power (stops : Text.StopsAt goesOn rest) :
    Text.StopsAt (fun c => c.isDigit || c == '.') (p.powerText ++ rest) := by
  unfold Spelling.powerText
  split
  · next e _ =>
    obtain ⟨negative, digits, text, -⟩ := exponentText_eq e
    rw [text]
    exact Text.stopsAt_cons.mpr rfl
  · exact stopsAt_of_goesOn stops fun c part => by simp_all [goesOn]

theorem stopsAt_point (stops : Text.StopsAt goesOn rest) :
    Text.StopsAt Char.isDigit (p.pointText ++ (p.powerText ++ rest)) := by
  unfold Spelling.pointText
  split
  · exact fun c first => (Bool.or_eq_false_iff.mp (stopsAt_power stops c first)).1
  · exact Text.stopsAt_cons.mpr rfl

theorem integerPart_append (stops : Text.StopsAt goesOn rest) :
    integerPart (p.whole ++ (p.pointText ++ (p.powerText ++ rest))) = p.whole := by
  have plain : ∀ c ∈ p.whole, c.isDigit = true := (List.forall_mem_append.mp p.digits).1
  have digits := Text.takeWhile_append plain (stopsAt_point (p := p) stops)
  rcases p.leading with zero | ⟨c, others, split, notZero⟩
  · rw [zero]
    rfl
  · rw [integerPart.eq_2, digits]
    intro tail same
    rw [split, List.cons_append] at same
    exact notZero (List.cons.inj same).1

theorem fractionPart_append (stops : Text.StopsAt goesOn rest) :
    fractionPart (p.pointText ++ (p.powerText ++ rest)) = p.pointText := by
  have after := stopsAt_power (p := p) stops
  unfold Spelling.pointText
  split
  · rw [List.nil_append, fractionPart.eq_2]
    intro tail same
    rw [same] at after
    exact absurd (Text.stopsAt_cons.mp after) (by decide)
  · next some =>
    have plain : ∀ c ∈ p.fraction, c.isDigit = true := (List.forall_mem_append.mp p.digits).2
    have digits := Text.takeWhile_append plain fun c first => (Bool.or_eq_false_iff.mp (after c first)).1
    rw [List.cons_append, fractionPart, digits]
    exact if_neg some

theorem exponentPart_append (stops : Text.StopsAt goesOn rest) : exponentPart (p.powerText ++ rest) = p.powerText := by
  unfold Spelling.powerText
  split
  · next e _ =>
    obtain ⟨negative, digits, text, some, plain, -⟩ := exponentText_eq e
    have found := Text.takeWhile_append plain (stopsAt_of_goesOn stops fun c digit => by simp [goesOn, digit])
    rw [text]
    cases negative <;> simp [exponentPart, found, some]
  · cases rest with
    | nil => rfl
    | cons c rest =>
      have other := Text.stopsAt_cons.mp stops
      have letters : ¬(c = 'e' ∨ c = 'E') := by
        rintro (rfl | rfl) <;> contradiction
      simp only [List.nil_append, exponentPart, letters, if_false]

theorem splitMinus_append (negative : Bool) (rest : List Char) :
    splitMinus (p.signed negative ++ rest) = (negative, p.text ++ rest) := by
  cases negative with
  | true => rfl
  | false =>
    rw [Spelling.signed, if_neg Bool.false_ne_true, splitMinus.eq_2]
    obtain ⟨c, others, split, digit⟩ := p.exists_head
    intro tail same
    rw [split, List.cons_append] at same
    rw [(List.cons.inj same).1] at digit
    contradiction

theorem number_eq (limit : Nat) (negative : Bool) (stops : Text.StopsAt goesOn rest) :
    number limit (p.signed negative ++ rest) =
      if p.fraction = [] ∧ p.power = none then
        if limit < p.whole.length then .error (.integerTooLong p.whole.length)
        else .ok (.int (if negative then -p.mantissa else p.mantissa), rest)
      else .ok (.num (Numeral.finiteValue negative p.whole p.fraction (p.power.getD 0)), rest) := by
  have text : p.text ++ rest = p.whole ++ (p.pointText ++ (p.powerText ++ rest)) := by
    simp only [Spelling.text, List.append_assoc]
  have whole := integerPart_append (p := p) stops
  have fraction := fractionPart_append (p := p) stops
  have power := exponentPart_append (p := p) stops
  have after : (p.pointText ++ (p.powerText ++ rest)).drop (p.pointText.length + p.powerText.length) = rest := by
    rw [← List.drop_drop, List.drop_left, List.drop_left]
  unfold number
  rw [splitMinus_append, text]
  simp only [whole, p.whole_ne_nil, if_false, List.drop_left, fraction, power, Spelling.pointText_eq_nil,
    Spelling.powerText_eq_nil, p.readExponent_powerText, p.drop_pointText, after, foldDigits_asciiValue]
  split
  · next both =>
    rw [Spelling.mantissa, both.1, List.append_nil]
  · rfl

/-- No word starts like a number. -/
theorem scalar_number (limit : Nat) (negative : Bool) (rest : List Char) :
    scalar limit (p.signed negative ++ rest) =
      number limit (p.signed negative ++ rest) := by
  have letters : ∀ entry ∈ words, 2 ≤ entry.1.toList.length ∧
      (entry.1.toList.take 2).any Char.isDigit = false := by decide
  have digit : ((p.signed negative ++ rest).take 2).any Char.isDigit = true := by
    obtain ⟨c, others, split, digit⟩ := p.exists_head
    rw [Spelling.signed, split]
    cases negative <;> simp [digit]
  unfold scalar
  split
  · next found some =>
    obtain ⟨⟨word, value⟩, member, here⟩ := List.exists_of_findSome?_eq_some some
    obtain ⟨after, start, -⟩ := Option.map_eq_some_iff.mp here
    obtain ⟨long, letter⟩ := letters _ member
    rw [Text.afterStart?_eq_some_iff.mp start, List.take_append_of_le_length long, letter] at digit
    contradiction
  · rfl

end Reader

theorem toString_int (n : Int) :
    (toString n).toList = (Numeral.Spelling.ofNat n.natAbs).signed (n < 0) := by
  have digits (k : Nat) : (toString k).toList = (Numeral.Spelling.ofNat k).text := by
    rw [Nat.toString_eq_ofList_toDigits, String.toList_ofList]
    simp [Numeral.Spelling.text, Numeral.Spelling.pointText, Numeral.Spelling.powerText, Numeral.Spelling.ofNat,
      decimalDigits]
  cases n with
  | ofNat k => exact digits k
  | negSucc k =>
    have minus : (toString (Int.negSucc k)).toList = '-' :: (toString (k + 1)).toList := String.toList_append
    rw [minus, digits, decide_eq_true (Int.negSucc_lt_zero k)]
    rfl

theorem numberText_of_isFinite {x : Binary64} (finite : x.isFinite = true) : numberText x = x.text := by
  cases x with
  | finite | negZero => rfl
  | infinite | nan => contradiction

/-! ## Letters -/

/-- A printable character of ASCII. -/
def IsPrintable (c : Char) : Prop := 32 ≤ c.toNat ∧ c.toNat < 127

instance (c : Char) : Decidable (IsPrintable c) := inferInstanceAs (Decidable (_ ∧ _))

theorem forall_isPrintable {s : List Char} (all : s.all (fun c => decide (IsPrintable c)) = true) :
    ∀ c ∈ s, IsPrintable c := fun c member => of_decide_eq_true (List.all_eq_true.mp all c member)

theorem isPrintable_of_isDigit {c : Char} (digit : c.isDigit = true) : IsPrintable c := by
  have range := Text.toNat_of_isDigit digit
  exact ⟨by omega, by omega⟩

theorem isPrintable_unitEscape (n : Nat) : ∀ c ∈ unitEscape n, IsPrintable c := by
  have digit (m : Nat) : IsPrintable (Text.hexDigit (m % 16)) := (hexDigit_facts _ (Nat.mod_lt _ (by decide))).2
  have letters : IsPrintable '\\' ∧ IsPrintable 'u' := by decide
  simp [unitEscape, digit, letters]

theorem isPrintable_escapeChar (letter : Char) : ∀ c ∈ escapeChar letter, IsPrintable c := by
  have form := isEscape_escapeChar letter
  generalize escapeChar letter = written at form
  cases form with
  | short known => exact List.forall_mem_cons.mpr ⟨by decide, List.forall_mem_singleton.mpr (escapeChar_of_short _ known).2.2⟩
  | plain quote escape least most => exact List.forall_mem_singleton.mpr ⟨least, most⟩
  | unit small => exact isPrintable_unitEscape _
  | pair large => exact List.forall_mem_append.mpr ⟨isPrintable_unitEscape _, isPrintable_unitEscape _⟩

theorem isPrintable_quote (text : String) : ∀ c ∈ quote text, IsPrintable c := by
  refine List.forall_mem_cons.mpr ⟨by decide, List.forall_mem_append.mpr ⟨fun c member => ?_, forall_isPrintable rfl⟩⟩
  obtain ⟨letter, -, here⟩ := List.mem_flatMap.mp member
  exact isPrintable_escapeChar letter c here

theorem isPrintable_quotePoints (points : List Nat) : ∀ c ∈ quotePoints points, IsPrintable c := by
  refine List.forall_mem_cons.mpr ⟨by decide, List.forall_mem_append.mpr ⟨fun c member => ?_, forall_isPrintable rfl⟩⟩
  obtain ⟨n, -, here⟩ := List.mem_flatMap.mp member
  split at here
  · exact isPrintable_unitEscape n c here
  · exact isPrintable_escapeChar _ c here

theorem isPrintable_spelling (p : Numeral.Spelling) : ∀ c ∈ p.text, IsPrintable c := by
  obtain ⟨whole, fraction⟩ := List.forall_mem_append.mp p.digits
  refine List.forall_mem_append.mpr ⟨List.forall_mem_append.mpr
    ⟨fun c member => isPrintable_of_isDigit (whole c member), ?_⟩, ?_⟩
  · unfold Numeral.Spelling.pointText
    split
    · nofun
    · exact List.forall_mem_cons.mpr ⟨by decide, fun c member => isPrintable_of_isDigit (fraction c member)⟩
  · unfold Numeral.Spelling.powerText
    split
    · next e _ =>
      obtain ⟨negative, digits, text, -, plain, -⟩ := exponentText_eq e
      rw [text]
      refine List.forall_mem_cons.mpr ⟨by decide, List.forall_mem_cons.mpr ⟨?_, fun c member =>
        isPrintable_of_isDigit (plain c member)⟩⟩
      cases negative <;> decide
    · nofun

theorem isPrintable_number (negative : Bool) (p : Numeral.Spelling) :
    ∀ c ∈ p.signed negative, IsPrintable c := by
  cases negative with
  | true => exact List.forall_mem_cons.mpr ⟨by decide, isPrintable_spelling p⟩
  | false => exact isPrintable_spelling p

end Montage.Json
