import Mathlib.Algebra.Group.Nat.Defs
import Mathlib.Data.List.Infix
import Mathlib.Tactic.SplitIfs
import Montage.Text.Utf8

/-! # What the decoder finds

A text in UTF-8 is the characters' octets one after the other. Octets that are no such text are decoded all
the same: where no character stands, the longest run of octets that a character could start with is
one fault, or a single octet if no character starts with it. The decoder finds exactly that, although
it takes the octets one by one and never looks ahead. So it reads back what was written, without a fault.
-/

namespace Montage.Text.Utf8

open String (utf8EncodeChar)

/-- Octets that a character can start with. -/
def IsStart (octets : List UInt8) : Prop := ∃ c, octets <+: utf8EncodeChar c

/-- Octets at which no character stands, as many as a character can start with, or a single one. -/
structure IsFault (bad rest : List UInt8) : Prop where
  nonempty : bad ≠ []
  invalid : ∀ c, ¬utf8EncodeChar c <+: bad ++ rest
  started : bad.length = 1 ∨ IsStart bad
  maximal : ∀ longer, longer <+: bad ++ rest → IsStart longer → longer.length ≤ bad.length

/-- The characters that octets stand for, with a replacement character for each fault. -/
inductive Decodes : List UInt8 → List Char → Prop
  | nil : Decodes [] []
  | character (c : Char) {rest : List UInt8} {chars : List Char} (others : Decodes rest chars) :
      Decodes (utf8EncodeChar c ++ rest) (c :: chars)
  | fault {bad rest : List UInt8} {chars : List Char} (fault : IsFault bad rest)
      (others : Decodes rest chars) : Decodes (bad ++ rest) ('\uFFFD' :: chars)

/-! ## Octets stand for one list of characters -/

/-- No character's octets are the beginning of another one's. -/
theorem eq_of_prefix {c d : Char} {first second : List UInt8}
    (same : utf8EncodeChar c ++ first = utf8EncodeChar d ++ second) : c = d := by
  have decoded (c : Char) (rest : List UInt8) :
      ((utf8EncodeChar c ++ rest).toByteArray).utf8DecodeChar? 0 = some c := by
    rw [List.toByteArray_append]
    exact ByteArray.utf8DecodeChar?_utf8EncodeChar_append
  exact Option.some.inj ((decoded c first).symm.trans (same ▸ decoded d second))

theorem IsFault.length_le {bad rest other after : List UInt8} (fault : IsFault bad rest)
    (second : IsFault other after) (same : bad ++ rest = other ++ after) :
    other.length ≤ bad.length := by
  rcases second.started with single | start
  · have := List.length_pos_iff.mpr fault.nonempty
    omega
  · exact fault.maximal other (same ▸ List.prefix_append other after) start

theorem Decodes.unique {octets : List UInt8} {chars others : List Char} (first : Decodes octets chars)
    (second : Decodes octets others) : chars = others := by
  induction first generalizing others with
  | nil =>
    generalize empty : ([] : List UInt8) = octets at second
    cases second with
    | nil => rfl
    | character c => exact absurd (List.append_eq_nil_iff.mp empty.symm).1 String.utf8EncodeChar_ne_nil
    | fault fault => exact absurd (List.append_eq_nil_iff.mp empty.symm).1 fault.nonempty
  | @character c rest chars _ ih =>
    generalize same : utf8EncodeChar c ++ rest = octets at second
    cases second with
    | nil => exact absurd (List.append_eq_nil_iff.mp same).1 String.utf8EncodeChar_ne_nil
    | character d after =>
      obtain rfl := eq_of_prefix same
      rw [ih (List.append_cancel_left same ▸ after)]
    | fault fault => exact absurd (same ▸ List.prefix_append _ rest) (fault.invalid c)
  | @fault bad rest chars fault _ ih =>
    generalize same : bad ++ rest = octets at second
    cases second with
    | nil => exact absurd (List.append_eq_nil_iff.mp same).1 fault.nonempty
    | character c => exact absurd (same ▸ List.prefix_append _ _) (fault.invalid c)
    | fault other after =>
      have length := Nat.le_antisymm (other.length_le fault same.symm) (fault.length_le other same)
      obtain ⟨rfl, rfl⟩ := List.append_inj same length
      rw [ih after]

/-! ## The octets of a character -/

/-- The octets after the first ones of a character, of which there are some left. -/
def tails : Nat → Nat → List UInt8
  | 0, _ => []
  | left + 1, n => UInt8.ofNat (n / 64 ^ left % 64 + 0x80) :: tails left n

theorem length_tails (left n : Nat) : (tails left n).length = left := by
  induction left with
  | zero => rfl
  | succ left ih => rw [tails, List.length_cons, ih]

/-- The ways in which characters of several octets are written: how many octets follow the first one, the
bounds of the first one, and the bounds of the characters' numbers. -/
structure Form where
  left : Nat
  lead : Nat
  beyond : Nat
  least : Nat
  limit : Nat

/-- The forms with two, three and four octets. -/
def forms : List Form :=
  [⟨1, 0xC0, 0xE0, 0x80, 0x800⟩, ⟨2, 0xE0, 0xF0, 0x800, 0x10000⟩, ⟨3, 0xF0, 0xF8, 0x10000, 0x110000⟩]

theorem mem_forms {form : Form} : form ∈ forms ↔ form = ⟨1, 0xC0, 0xE0, 0x80, 0x800⟩ ∨
    form = ⟨2, 0xE0, 0xF0, 0x800, 0x10000⟩ ∨ form = ⟨3, 0xF0, 0xF8, 0x10000, 0x110000⟩ := by
  simp [forms]

/-- The octets of a character by its number. -/
theorem encode_cases (c : Char) :
    (c.toNat < 0x80 ∧ utf8EncodeChar c = [UInt8.ofNat c.toNat]) ∨
    ∃ form ∈ forms, form.least ≤ c.toNat ∧ c.toNat < form.limit ∧ utf8EncodeChar c =
      UInt8.ofNat (c.toNat / 64 ^ form.left + form.lead) :: tails form.left c.toNat := by
  have bound : c.toNat < 0x110000 := by
    have valid : c.toNat.isValidChar := c.valid
    rcases valid with low | ⟨_, high⟩ <;> omega
  have code : c.val.toNat = c.toNat := rfl
  simp only [utf8EncodeChar, code]
  by_cases one : c.toNat ≤ 127
  · exact .inl ⟨by omega, by simp [one]⟩
  by_cases two : c.toNat ≤ 2047
  · have lead : c.toNat / 64 % 32 = c.toNat / 64 := by omega
    refine .inr ⟨_, mem_forms.mpr (.inl rfl), Nat.lt_of_not_le one, Nat.lt_succ_of_le two, ?_⟩
    simp [one, two, lead, tails]
  by_cases three : c.toNat ≤ 65535
  · have lead : c.toNat / 4096 % 16 = c.toNat / 4096 := by omega
    refine .inr ⟨_, mem_forms.mpr (.inr (.inl rfl)), Nat.lt_of_not_le two, Nat.lt_succ_of_le three, ?_⟩
    simp [one, two, three, lead, tails]
  · have lead : c.toNat / 262144 % 8 = c.toNat / 262144 := by omega
    refine .inr ⟨_, mem_forms.mpr (.inr (.inr rfl)), Nat.lt_of_not_le three, bound, ?_⟩
    simp [one, two, three, lead, tails]

theorem Form.bounds {form : Form} (known : form ∈ forms) :
    0 < form.left ∧ 0xC0 ≤ form.lead ∧ form.beyond < 0x100 ∧ 0x80 ≤ form.least := by
  rcases mem_forms.mp known with rfl | rfl | rfl <;> decide

/-- The first octet of a form lies within its bounds, which tell it from the other forms. -/
theorem Form.lead_bounds {form : Form} (known : form ∈ forms) {n : Nat} (below : n < form.limit) :
    n / 64 ^ form.left + form.lead < form.beyond := by
  rcases mem_forms.mp known with rfl | rfl | rfl <;> simp at below ⊢ <;> omega

theorem Form.eq_of_lead {form other : Form} (known : form ∈ forms) (too : other ∈ forms) {octet : Nat}
    (inside : form.lead ≤ octet ∧ octet < form.beyond)
    (within : other.lead ≤ octet ∧ octet < other.beyond) : form = other := by
  rcases mem_forms.mp known with rfl | rfl | rfl <;> rcases mem_forms.mp too with rfl | rfl | rfl <;>
    first | rfl | (simp at inside within; omega)

theorem Form.eq_of_number {form other : Form} (known : form ∈ forms) (too : other ∈ forms) {n : Nat}
    (inside : form.least ≤ n ∧ n < form.limit) (within : other.least ≤ n ∧ n < other.limit) :
    form = other := by
  rcases mem_forms.mp known with rfl | rfl | rfl <;> rcases mem_forms.mp too with rfl | rfl | rfl <;>
    first | rfl | (simp at inside within; omega)

/-- The first octet of a character of a form. -/
theorem Form.toNat_lead {form : Form} (known : form ∈ forms) {n : Nat} (below : n < form.limit) :
    (UInt8.ofNat (n / 64 ^ form.left + form.lead)).toNat = n / 64 ^ form.left + form.lead := by
  have lead := Form.lead_bounds known below
  have bounds := Form.bounds known
  rw [UInt8.toNat_ofNat', Nat.mod_eq_of_lt (by omega)]

/-- The numbers that can still come of a sequence that has been started. -/
def Pending.Fits (p : Pending) (n : Nat) : Prop :=
  n / 64 ^ (p.need - 1) / 64 = p.bits ∧ p.low ≤ n / 64 ^ (p.need - 1) % 64 + 0x80 ∧
    n / 64 ^ (p.need - 1) % 64 + 0x80 ≤ p.high

/-- A sequence that the taken octets have started: the characters that can come of it are those that start
with these octets. -/
structure Pending.Follows (p : Pending) (taken : List UInt8) : Prop where
  begun : taken ≠ []
  positive : 0 < p.need
  range : 0x80 ≤ p.low ∧ p.low ≤ p.high ∧ p.high ≤ 0xBF
  valid : ∀ n, p.Fits n → n.isValidChar
  encode : ∀ c, p.Fits c.toNat → utf8EncodeChar c = taken ++ tails p.need c.toNat
  fits : ∀ c, taken <+: utf8EncodeChar c → p.Fits c.toNat

theorem toNat_ofNat {n : Nat} (valid : n.isValidChar) : (Char.ofNat n).toNat = n := by
  rw [Char.ofNat, dif_pos valid]
  exact UInt32.toNat_ofNatLT ..

/-- The number of an octet that is not the first one of its character. -/
theorem toNat_tail (n : Nat) : (UInt8.ofNat (n % 64 + 0x80)).toNat = n % 64 + 0x80 := by
  rw [UInt8.toNat_ofNat']
  omega

namespace Pending.Follows

variable {p : Pending} {taken rest : List UInt8}

/-- Some character can come of it, whichever octet of the range comes next. -/
theorem exists_char (follows : p.Follows taken) {octet : Nat} (low : p.low ≤ octet)
    (high : octet ≤ p.high) : ∃ c : Char, p.Fits c.toNat ∧
      c.toNat = (p.bits * 64 + (octet - 0x80)) * 64 ^ (p.need - 1) := by
  have range := follows.range
  have fits : p.Fits ((p.bits * 64 + (octet - 0x80)) * 64 ^ (p.need - 1)) := by
    rw [Fits, Nat.mul_div_cancel _ (Nat.pow_pos (by decide))]
    refine ⟨?_, ?_, ?_⟩ <;> omega
  have code := toNat_ofNat (follows.valid _ fits)
  exact ⟨_, by rwa [code], code⟩

/-- The octets that have been taken are a start. -/
theorem isStart (follows : p.Follows taken) : IsStart taken := by
  obtain ⟨c, fits, -⟩ := follows.exists_char le_rfl follows.range.2.1
  exact ⟨c, follows.encode c fits ▸ List.prefix_append taken _⟩

/-- The octet that comes next in a character that starts like this. -/
theorem next_octet (follows : p.Follows taken) {c : Char} {octet : UInt8}
    (start : taken ++ [octet] <+: utf8EncodeChar c) :
    octet.toNat = c.toNat / 64 ^ (p.need - 1) % 64 + 0x80 := by
  have fits := follows.fits c ((List.prefix_append taken [octet]).trans start)
  obtain ⟨left, need⟩ := Nat.exists_eq_add_one_of_ne_zero follows.positive.ne'
  rw [follows.encode c fits, List.prefix_append_right_inj, need, tails, List.cons_prefix_cons] at start
  rw [start.1, toNat_tail, need, Nat.add_sub_cancel]

/-- Where the next octet is out of the range, or there is none, what has been taken is a fault. -/
theorem isFault (follows : p.Follows taken)
    (stops : ∀ octet ∈ rest.head?, ¬(p.low ≤ octet.toNat ∧ octet.toNat ≤ p.high)) :
    IsFault taken rest := by
  obtain ⟨d, fits, -⟩ := follows.exists_char le_rfl follows.range.2.1
  -- No character goes on from here.
  have stuck (longer : List UInt8) (inside : longer <+: taken ++ rest) (start : IsStart longer) :
      longer.length ≤ taken.length := by
    by_contra more
    obtain ⟨c, start⟩ := start
    have begun : taken <+: longer :=
      List.prefix_of_prefix_length_le (List.prefix_append taken rest) inside (by omega)
    obtain ⟨after, rfl⟩ := begun
    cases after with
    | nil => simp at more
    | cons octet after =>
      have here : taken ++ [octet] <+: utf8EncodeChar c :=
        List.IsPrefix.trans ⟨after, by simp⟩ start
      have number := follows.next_octet here
      have fits := follows.fits c ((List.prefix_append taken _).trans start)
      rw [List.prefix_append_right_inj] at inside
      refine stops octet ?_ ⟨number ▸ fits.2.1, number ▸ fits.2.2⟩
      cases rest with
      | nil => simp at inside
      | cons first rest => rw [(List.cons_prefix_cons.mp inside).1]; rfl
  refine ⟨follows.begun, fun c whole => ?_, .inr follows.isStart, stuck⟩
  have inside : utf8EncodeChar c <+: taken :=
    List.prefix_of_prefix_length_le whole (List.prefix_append taken rest)
      (stuck _ whole ⟨c, List.prefix_refl _⟩)
  have encoded := follows.encode d fits
  obtain ⟨after, same⟩ := inside.trans (encoded ▸ List.prefix_append taken _)
  obtain rfl : c = d := eq_of_prefix (same.trans (List.append_nil _).symm)
  have shorter := inside.length_le
  have positive := follows.positive
  rw [encoded, List.length_append, length_tails] at shorter
  omega

/-- The number that the bits stand for after one more octet of the range. -/
theorem fits_next {left : Nat} {octet : UInt8} (follows : p.Follows taken) (need : p.need = left + 2)
    (low : p.low ≤ octet.toNat) (high : octet.toNat ≤ p.high) (n : Nat) :
    Pending.Fits ⟨left + 1, 0x80, 0xBF, p.bits * 64 + (octet.toNat - 0x80)⟩ n ↔
      p.Fits n ∧ octet.toNat = n / 64 ^ (left + 1) % 64 + 0x80 := by
  have range := follows.range
  have quotient : n / 64 ^ left / 64 = n / 64 ^ (left + 1) := by
    rw [Nat.div_div_eq_div_mul, ← Nat.pow_succ]
  have before : left + 2 - 1 = left + 1 := rfl
  simp only [Fits, need, Nat.add_sub_cancel, before, quotient]
  generalize n / 64 ^ (left + 1) = m
  omega

/-- One more octet of the range, of which more are needed. -/
theorem next {left : Nat} {octet : UInt8} (follows : p.Follows taken) (need : p.need = left + 2)
    (low : p.low ≤ octet.toNat) (high : octet.toNat ≤ p.high) :
    Pending.Follows ⟨left + 1, 0x80, 0xBF, p.bits * 64 + (octet.toNat - 0x80)⟩ (taken ++ [octet]) := by
  have fits (n : Nat) := follows.fits_next need low high n
  refine ⟨by simp, Nat.succ_pos _, ⟨le_rfl, by simp, le_rfl⟩, fun n here => ?_, fun c here => ?_,
    fun c start => ?_⟩
  · exact follows.valid n ((fits n).mp here).1
  · obtain ⟨before, number⟩ := (fits _).mp here
    rw [follows.encode c before, need, tails, ← number, UInt8.ofNat_toNat, List.append_assoc]
    rfl
  · refine (fits _).mpr ⟨follows.fits c ((List.prefix_append taken _).trans start), ?_⟩
    have number := follows.next_octet start
    rwa [need] at number

/-- The last octet of a character. -/
theorem last {octet : UInt8} (follows : p.Follows taken) (need : p.need = 1)
    (low : p.low ≤ octet.toNat) (high : octet.toNat ≤ p.high) :
    utf8EncodeChar (Char.ofNat (p.bits * 64 + (octet.toNat - 0x80))) = taken ++ [octet] := by
  obtain ⟨c, fits, code⟩ := follows.exists_char low high
  have range := follows.range
  rw [need, Nat.sub_self, Nat.pow_zero, Nat.mul_one] at code
  have number : octet.toNat = c.toNat / 64 ^ 0 % 64 + 0x80 := by omega
  rw [← code, Char.ofNat_toNat, follows.encode c fits, need, tails, ← number, UInt8.ofNat_toNat]
  rfl

end Pending.Follows

/-- An octet that starts a sequence of a form, where the range of the next octet is that of the numbers of
the form. -/
theorem follows_lead {form : Form} (known : form ∈ forms) {octet : UInt8} {low high bits : Nat}
    (first : form.lead + bits = octet.toNat) (inside : octet.toNat < form.beyond)
    (range : 0x80 ≤ low ∧ low ≤ high ∧ high ≤ 0xBF)
    (exact : ∀ n, n / 64 ^ form.left + form.lead = octet.toNat →
      (low ≤ n / 64 ^ (form.left - 1) % 64 + 0x80 ∧ n / 64 ^ (form.left - 1) % 64 + 0x80 ≤ high ↔
        form.least ≤ n ∧ n < form.limit ∧ n.isValidChar)) :
    Pending.Follows ⟨form.left, low, high, bits⟩ [octet] := by
  have bounds := Form.bounds known
  have quotient (n : Nat) : n / 64 ^ (form.left - 1) / 64 = n / 64 ^ form.left := by
    rw [Nat.div_div_eq_div_mul, ← Nat.pow_succ, Nat.succ_eq_add_one, Nat.sub_add_cancel bounds.1]
  have fits (n : Nat) : Pending.Fits ⟨form.left, low, high, bits⟩ n ↔
      n / 64 ^ form.left + form.lead = octet.toNat ∧ form.least ≤ n ∧ n < form.limit ∧ n.isValidChar := by
    simp only [Pending.Fits, quotient]
    constructor
    · rintro ⟨same, next⟩
      have lead : n / 64 ^ form.left + form.lead = octet.toNat := by omega
      exact ⟨lead, (exact n lead).mp next⟩
    · rintro ⟨lead, numbers⟩
      exact ⟨by omega, (exact n lead).mpr numbers⟩
  refine ⟨List.cons_ne_nil _ _, bounds.1, range, fun n here => ((fits n).mp here).2.2.2,
    fun c here => ?_, fun c start => (fits _).mpr ?_⟩
  · obtain ⟨lead, least, below, -⟩ := (fits _).mp here
    rcases encode_cases c with ⟨plain, -⟩ | ⟨other, too, more, less, whole⟩
    · omega
    · obtain rfl := Form.eq_of_number known too ⟨least, below⟩ ⟨more, less⟩
      rw [whole, lead, UInt8.ofNat_toNat]
      rfl
  · rcases encode_cases c with ⟨plain, whole⟩ | ⟨other, too, least, below, whole⟩
    · rw [whole, List.cons_prefix_cons] at start
      have number : octet.toNat = c.toNat := by
        rw [start.1, UInt8.toNat_ofNat', Nat.mod_eq_of_lt (by omega)]
      omega
    · rw [whole, List.cons_prefix_cons] at start
      have lead := Form.toNat_lead too below
      rw [← start.1] at lead
      have above := Form.lead_bounds too below
      have within : other.lead ≤ octet.toNat ∧ octet.toNat < other.beyond := by
        rw [lead]
        exact ⟨Nat.le_add_left .., above⟩
      obtain rfl := Form.eq_of_lead known too ⟨by omega, inside⟩ within
      exact ⟨lead.symm, least, below, c.valid⟩

/-- What has been taken by a decoder that keeps a sequence that has been started, if any. -/
def Keeps (taken : List UInt8) : Option Pending → Prop
  | none => taken = []
  | some p => p.Follows taken

/-- An octet below 128 is a character. -/
theorem encode_plain {octet : UInt8} (plain : octet.toNat < 0x80) :
    utf8EncodeChar (Char.ofNat octet.toNat) = [octet] := by
  have code := toNat_ofNat (show octet.toNat.isValidChar from .inl (by omega))
  rcases encode_cases (Char.ofNat octet.toNat) with ⟨-, whole⟩ | ⟨form, known, least, -⟩
  · rw [whole, code, UInt8.ofNat_toNat]
  · have bounds := Form.bounds known
    omega

/-- An octet with which no character starts. -/
theorem isFault_single {octet : UInt8} (plain : ¬octet.toNat < 0x80)
    (lead : octet.toNat < 0xC2 ∨ 0xF4 < octet.toNat) (rest : List UInt8) : IsFault [octet] rest := by
  have stuck (c : Char) : ¬[octet] <+: utf8EncodeChar c := by
    intro start
    rcases encode_cases c with ⟨less, whole⟩ | ⟨form, known, least, below, whole⟩
    · rw [whole, List.cons_prefix_cons] at start
      rw [start.1, UInt8.toNat_ofNat'] at plain
      omega
    · rw [whole, List.cons_prefix_cons] at start
      have number := Form.toNat_lead known below
      rw [← start.1] at number
      rcases mem_forms.mp known with rfl | rfl | rfl <;> simp at number least below <;> omega
  have begun {longer : List UInt8} (inside : longer <+: [octet] ++ rest) (some : longer ≠ []) :
      [octet] <+: longer := by
    cases longer with
    | nil => exact absurd rfl some
    | cons first longer =>
      rw [(List.cons_prefix_cons.mp inside).1]
      exact List.prefix_append [octet] longer
  refine ⟨List.cons_ne_nil _ _, fun c whole => ?_, .inl rfl, fun longer inside ⟨c, start⟩ => ?_⟩
  · exact stuck c (begun whole String.utf8EncodeChar_ne_nil)
  · by_contra more
    refine stuck c ((begun inside ?_).trans start)
    rintro rfl
    simp at more

/-- What is found at an octet that starts something, and what is kept then. -/
theorem start_finds (octet : UInt8) : ∃ taken, Keeps taken (start octet.toNat).2 ∧
    ∀ rest chars, Decodes (taken ++ rest) chars →
      Decodes (octet :: rest) (replaceFaults (start octet.toNat).1 ++ chars) := by
  have sequence {form : Form} (known : form ∈ forms) {low high bits : Nat}
      (first : form.lead + bits = octet.toNat) (inside : octet.toNat < form.beyond)
      (range : 0x80 ≤ low ∧ low ≤ high ∧ high ≤ 0xBF)
      (exact : ∀ n, n / 64 ^ form.left + form.lead = octet.toNat →
        (low ≤ n / 64 ^ (form.left - 1) % 64 + 0x80 ∧ n / 64 ^ (form.left - 1) % 64 + 0x80 ≤ high ↔
          form.least ≤ n ∧ n < form.limit ∧ n.isValidChar)) :
      ∃ taken, Keeps taken (some ⟨form.left, low, high, bits⟩) ∧ ∀ rest chars,
        Decodes (taken ++ rest) chars → Decodes (octet :: rest) (replaceFaults [] ++ chars) :=
    ⟨[octet], follows_lead known first inside range exact, fun _ _ => id⟩
  have two := mem_forms.mpr (.inl rfl)
  have three := mem_forms.mpr (.inr (.inl rfl))
  have four := mem_forms.mpr (.inr (.inr rfl))
  rw [start]
  split
  · next plain =>
    refine ⟨[], rfl, fun rest chars decodes => ?_⟩
    have here := Decodes.character (Char.ofNat octet.toNat) decodes
    rw [encode_plain plain] at here
    exact here
  split
  · apply sequence two <;> simp <;> omega
  split
  · apply sequence three <;> simp <;> omega
  split
  · apply sequence three <;> simp <;> omega
  split
  · apply sequence three <;> simp <;> omega
  split
  · apply sequence four <;> simp <;> omega
  split
  · apply sequence four <;> simp <;> omega
  split
  · apply sequence four <;> simp <;> omega
  · refine ⟨[], rfl, fun rest chars decodes => .fault (isFault_single (by assumption) (by omega) rest) ?_⟩
    exact decodes

/-- What is found at an octet, and what is kept then. -/
theorem step_finds {taken : List UInt8} {state : Option Pending} (keeps : Keeps taken state)
    (octet : UInt8) : ∃ after, Keeps after (step state octet).2 ∧
      ∀ rest chars, Decodes (after ++ rest) chars →
        Decodes (taken ++ octet :: rest) (replaceFaults (step state octet).1 ++ chars) := by
  cases state with
  | none =>
    obtain rfl : taken = [] := keeps
    exact start_finds octet
  | some p =>
    have follows : p.Follows taken := keeps
    simp only [step]
    split
    · next range =>
      obtain ⟨left, need⟩ := Nat.exists_eq_add_one_of_ne_zero follows.positive.ne'
      cases left with
      | zero =>
        rw [if_pos need.le]
        refine ⟨[], rfl, fun rest chars decodes => ?_⟩
        have here := Decodes.character (Char.ofNat (p.bits * 64 + (octet.toNat - 0x80))) decodes
        rw [follows.last need range.1 range.2, List.append_assoc] at here
        rw [replaceFaults, List.map_singleton, Option.getD_some]
        exact here
      | succ left =>
        rw [if_neg (by omega), need]
        refine ⟨taken ++ [octet], follows.next need range.1 range.2, fun rest chars decodes => ?_⟩
        rwa [List.append_assoc] at decodes
    · next stops =>
      obtain ⟨after, keeps, finds⟩ := start_finds octet
      refine ⟨after, keeps, fun rest chars decodes => ?_⟩
      have fault : IsFault taken (octet :: rest) := follows.isFault (by simpa using stops)
      exact .fault fault (finds rest chars decodes)

/-- What is found in octets, after those that a decoder has taken. -/
theorem run_finds {taken : List UInt8} {state : Option Pending} (keeps : Keeps taken state)
    (octets : List UInt8) : Decodes (taken ++ octets)
      (replaceFaults ((run state octets).1 ++ finish (run state octets).2)) := by
  induction octets generalizing taken state with
  | nil =>
    cases state with
    | none =>
      obtain rfl : taken = [] := keeps
      exact .nil
    | some p => exact .fault (Pending.Follows.isFault keeps (by simp)) .nil
  | cons octet octets ih =>
    obtain ⟨after, keeps, finds⟩ := step_finds keeps octet
    have found := finds octets _ (ih keeps)
    rw [run, List.append_assoc]
    simpa [replaceFaults] using found

/-- The decoder finds the one list of characters that octets stand for. -/
theorem decodes_iff {octets : List UInt8} {chars : List Char} :
    Decodes octets chars ↔ chars = replaceFaults (decode octets) := by
  have nothing : Keeps [] none := rfl
  have found : Decodes octets (replaceFaults (decode octets)) := run_finds nothing octets
  constructor
  · exact fun decodes => decodes.unique found
  · rintro rfl
    exact found

/-- Octets may be taken in two parts. -/
theorem run_append (state : Option Pending) (first second : List UInt8) :
    run state (first ++ second) = ((run state first).1 ++ (run (run state first).2 second).1,
      (run (run state first).2 second).2) := by
  induction first generalizing state with
  | nil => rfl
  | cons octet first ih => simp only [List.cons_append, run, ih, List.append_assoc]

/-! ## Text is read back -/

/-- The octets after the first one of a character complete it. -/
theorem run_tails {p : Pending} {n left : Nat} (need : p.need = left + 1) (fits : p.Fits n) :
    run (some p) (tails (left + 1) n) = ([some (Char.ofNat n)], none) := by
  induction left generalizing p with
  | zero =>
    obtain ⟨bits, low, high⟩ := fits
    rw [need] at bits low high
    have whole : p.bits * 64 + (n / 64 ^ 0 % 64 + 0x80 - 0x80) = n := by
      simp at bits ⊢
      omega
    simp only [tails, run, step, toNat_tail]
    rw [if_pos ⟨low, high⟩, if_pos need.le, whole]
    rfl
  | succ left ih =>
    obtain ⟨bits, low, high⟩ := fits
    have before : p.need - 1 = left + 1 := by omega
    rw [before] at bits low high
    have whole : p.bits * 64 + (n / 64 ^ (left + 1) % 64 + 0x80 - 0x80) = n / 64 ^ (left + 1) := by
      rw [← bits]
      omega
    have later : Pending.Fits ⟨left + 1, 0x80, 0xBF, n / 64 ^ (left + 1)⟩ n := by
      refine ⟨?_, Nat.le_add_left _ _, ?_⟩
      · rw [Nat.add_sub_cancel, Nat.div_div_eq_div_mul, ← Nat.pow_succ]
      · simp only [Nat.add_sub_cancel]
        omega
    rw [tails, run, step, toNat_tail]
    dsimp only
    rw [if_pos ⟨low, high⟩, if_neg (by omega), whole, before, ih rfl later]
    rfl

/-- The first octet of a character of several octets starts a sequence that the character can come of. -/
theorem start_lead {form : Form} (known : form ∈ forms) {n : Nat} (least : form.least ≤ n)
    (below : n < form.limit) (valid : n.isValidChar) : ∃ p : Pending,
      start (n / 64 ^ form.left + form.lead) = ([], some p) ∧ p.need = form.left ∧ p.Fits n := by
  have sequence {p : Pending} (fits : p.Fits n) : ∃ q : Pending,
      (([] : List (Option Char)), some p) = ([], some q) ∧ q.need = p.need ∧ q.Fits n := ⟨p, rfl, rfl, fits⟩
  rcases mem_forms.mp known with rfl | rfl | rfl <;> simp at least below ⊢ <;> rw [start]
  · rw [if_neg (by omega), if_pos (by omega)]
    apply sequence
    simp [Pending.Fits]
    omega
  · rw [if_neg (by omega), if_neg (by omega)]
    split
    · apply sequence
      simp [Pending.Fits]
      omega
    split
    · -- The numbers that halves of characters have are left out.
      apply sequence
      simp [Pending.Fits]
      rcases valid with low | ⟨high, -⟩ <;> omega
    · rw [if_pos (by omega)]
      apply sequence
      simp [Pending.Fits]
      omega
  · iterate 5 rw [if_neg (by omega)]
    split
    · apply sequence
      simp [Pending.Fits]
      omega
    split
    · apply sequence
      simp [Pending.Fits]
      omega
    · rw [if_pos (by omega)]
      apply sequence
      simp [Pending.Fits]
      omega

/-- The octets of a character are found to be that character. -/
theorem run_encodeChar (c : Char) : run none (utf8EncodeChar c) = ([some c], none) := by
  rcases encode_cases c with ⟨plain, octets⟩ | ⟨form, known, least, below, octets⟩
  · rw [octets, run, step, UInt8.toNat_ofNat', Nat.mod_eq_of_lt (by omega), start, if_pos plain, Char.ofNat_toNat]
    rfl
  · obtain ⟨p, starts, need, fits⟩ := start_lead known least below c.valid
    obtain ⟨left, several⟩ := Nat.exists_eq_add_one_of_ne_zero (Form.bounds known).1.ne'
    rw [several] at need
    rw [octets, run, step, Form.toNat_lead known below, starts, several]
    dsimp only
    rw [run_tails need fits, Char.ofNat_toNat]
    rfl

/-- A text is read back from its octets, without a fault. -/
theorem run_encode (s : List Char) : run none (s.flatMap utf8EncodeChar) = (s.map some, none) := by
  induction s with
  | nil => rfl
  | cons c rest ih =>
    rw [List.flatMap_cons, run_append, run_encodeChar, ih]
    rfl

theorem length_start (octet : Nat) : (start octet).1.length + (finish (start octet).2).length = 1 := by
  unfold start
  split_ifs <;> rfl

/-- An octet adds one character or fault at most to what will be found. -/
theorem length_step_le (pending : Option Pending) (octet : UInt8) :
    (step pending octet).1.length + (finish (step pending octet).2).length ≤ (finish pending).length + 1 := by
  have started := length_start octet.toNat
  cases pending with
  | none => exact started.le
  | some p =>
    unfold step
    dsimp only
    split
    · split
      · exact Nat.le_succ 1
      · exact Nat.le_succ 1
    · simp only [List.length_cons, finish] at started ⊢
      omega

/-- A text is refused if there is any fault in it. -/
theorem refuseFaults_eq_some_iff {found : List (Option Char)} {s : List Char} :
    refuseFaults found = some s ↔ found = s.map some := by
  unfold refuseFaults
  induction found generalizing s with
  | nil =>
    rw [List.mapM_nil, eq_comm (a := []), List.map_eq_nil_iff]
    exact Option.some_inj.trans eq_comm
  | cons first found ih =>
    rw [List.mapM_cons]
    cases first with
    | none => cases s <;> exact iff_of_false nofun nofun
    | some c =>
      change ((found.mapM id).bind fun more => some (c :: more)) = some s ↔ some c :: found = s.map some
      rw [Option.bind_eq_some_iff]
      cases s with
      | nil => exact iff_of_false nofun nofun
      | cons d s => simp [ih, and_comm]

end Montage.Text.Utf8
