import Mathlib.Data.List.Chain
import Mathlib.Data.List.Nodup
import Montage.Proofs.Graph.Acceptance
import Montage.Proofs.Graph.Selector

/-! # Programs as trees

Every pad but the output of a sound program has one reader, which comes later. Going from reader to reader
therefore ends at the last statement, and there is one way to go: a program that the checker accepts is one
tree, rooted at its output.
-/

namespace Montage.Graph

variable {p : Program} {inputs : Int} {i j : Nat}

/-- A statement reads the pad that another one produces; both are named by their places. -/
def Program.Consumes (p : Program) (i j : Nat) : Prop :=
  ∃ producer consumer, p.statements[i]? = some producer ∧ p.statements[j]? = some consumer ∧
    producer.output ∈ innerPads consumer.inputs

/-- Statements of which each is read by the next, from the one at a place to the last of the program. -/
structure Program.LeadsOut (p : Program) (i : Nat) (chain : List Nat) : Prop where
  start : chain.head? = some i
  finish : chain.getLast? = some (p.statements.length - 1)
  consumed : chain.IsChain p.Consumes

namespace Program.IsSound

/-- Two statements that produce the same pad are one. -/
theorem eq_of_output (sound : p.IsSound inputs) {s t : Statement} (first : p.statements[i]? = some s)
    (second : p.statements[j]? = some t) (same : s.output = t.output) : i = j := by
  have inside : i < p.producedPads.length := by
    rw [Program.producedPads, List.length_map]
    exact (List.getElem?_eq_some_iff.mp first).1
  refine (List.getElem?_inj inside sound.produced_once).mp ?_
  rw [Program.producedPads, List.getElem?_map, List.getElem?_map, first, second, Option.map_some, same,
    Option.map_some]

/-- A pad is read by a later statement. -/
theorem lt_of_consumes (sound : p.IsSound inputs) (consumes : p.Consumes i j) : i < j := by
  obtain ⟨s, t, first, second, read⟩ := consumes
  obtain ⟨read, plain⟩ := mem_innerPads.mp read
  obtain ⟨within, rfl⟩ := List.getElem?_eq_some_iff.mp second
  have place : p.statements = p.statements.take j ++ p.statements[j] :: p.statements.drop (j + 1) := by
    rw [List.getElem_cons_drop, List.take_append_drop]
  have earlier := sound.read_later _ _ _ place s.output read plain
  obtain ⟨other, taken, same⟩ := List.mem_map.mp earlier
  obtain ⟨k, inside, rfl⟩ := List.mem_iff_getElem.mp taken
  rw [List.length_take] at inside
  rw [List.getElem_take] at same
  have here : p.statements[k]? = some p.statements[k] := List.getElem?_eq_getElem (by omega)
  have together : k = i := sound.eq_of_output here first same
  omega

/-- A pad is read by one statement only. -/
theorem eq_of_consumes (sound : p.IsSound inputs) {k : Nat} (one : p.Consumes i j)
    (other : p.Consumes i k) : j = k := by
  obtain ⟨s, t, first, second, read⟩ := one
  obtain ⟨s', u, again, third, too⟩ := other
  obtain rfl : s = s' := Option.some.inj (first.symm.trans again)
  have once := sound.read_once
  rw [Program.readPads, innerPads, List.filter_flatMap] at once
  have apart := List.pairwise_iff_getElem.mp (List.nodup_flatMap.mp once).2
  obtain ⟨within, rfl⟩ := List.getElem?_eq_some_iff.mp second
  obtain ⟨inside, rfl⟩ := List.getElem?_eq_some_iff.mp third
  rcases Nat.lt_trichotomy j k with before | same | after
  · exact absurd too (apart j k within inside before read)
  · exact same
  · exact absurd read (apart k j inside within after too)

/-- The last statement produces the output. -/
theorem last_output (sound : p.IsSound inputs) : ∃ last,
    p.statements[p.statements.length - 1]? = some last ∧ p.outputPad = some last.output := by
  obtain ⟨last, ends, output⟩ := sound.output_last
  rw [List.getLast?_eq_getElem?] at ends
  exact ⟨last, ends, output⟩

/-- What a statement before the last produces is read. -/
theorem exists_consumes (sound : p.IsSound inputs) (inner : i + 1 < p.statements.length) :
    ∃ j, p.Consumes i j := by
  have here : p.statements[i]? = some p.statements[i] := List.getElem?_eq_getElem (by omega)
  obtain ⟨last, ends, output⟩ := sound.last_output
  have other : p.outputPad ≠ some p.statements[i].output := by
    intro same
    have outputs := Option.some.inj (output.symm.trans same)
    have := sound.eq_of_output here ends outputs.symm
    omega
  have read := sound.all_read _ (List.mem_map_of_mem (List.getElem_mem _)) other
  rw [Program.readPads, innerPads, List.filter_flatMap, List.mem_flatMap] at read
  obtain ⟨consumer, taken, read⟩ := read
  obtain ⟨j, second⟩ := List.getElem?_of_mem taken
  exact ⟨j, _, consumer, here, second, read⟩

/-- Nobody reads the output. -/
theorem not_consumes_last (sound : p.IsSound inputs) : ¬p.Consumes (p.statements.length - 1) j := by
  intro consumes
  have later := sound.lt_of_consumes consumes
  obtain ⟨_, _, _, second, _⟩ := consumes
  have := (List.getElem?_eq_some_iff.mp second).1
  omega

theorem leadsOut_last (sound : p.IsSound inputs) :
    ∃! chain, p.LeadsOut (p.statements.length - 1) chain := by
  refine ⟨[p.statements.length - 1], ⟨rfl, rfl, List.isChain_singleton _⟩, ?_⟩
  rintro chain ⟨start, -, consumed⟩
  cases chain with
  | nil => cases start
  | cons first rest =>
    obtain rfl := Option.some.inj start
    cases rest with
    | nil => rfl
    | cons next rest =>
      exact absurd (List.isChain_cons_cons.mp consumed).1 sound.not_consumes_last

/-- Where a pad is read, the way on from its statement is that of its reader. -/
theorem leadsOut_cons (sound : p.IsSound inputs) (consumes : p.Consumes i j)
    (onward : ∃! chain, p.LeadsOut j chain) : ∃! chain, p.LeadsOut i chain := by
  obtain ⟨way, ⟨start, finish, consumed⟩, only⟩ := onward
  cases way with
  | nil => cases start
  | cons next rest =>
    obtain rfl := Option.some.inj start
    refine ⟨i :: next :: rest, ⟨rfl, ?_, List.isChain_cons_cons.mpr ⟨consumes, consumed⟩⟩, ?_⟩
    · rwa [List.getLast?_cons_cons]
    · rintro chain ⟨start, finish, consumed⟩
      cases chain with
      | nil => cases start
      | cons first others =>
        obtain rfl := Option.some.inj start
        cases others with
        | nil =>
          obtain rfl := Option.some.inj finish
          exact absurd consumes sound.not_consumes_last
        | cons second others =>
          obtain ⟨reads, consumed⟩ := List.isChain_cons_cons.mp consumed
          obtain rfl := sound.eq_of_consumes consumes reads
          rw [List.getLast?_cons_cons] at finish
          rw [only (_ :: others) ⟨rfl, finish, consumed⟩]

/-- From every statement of a sound program one way leads from reader to reader to the last statement. -/
theorem leadsOut (sound : p.IsSound inputs) (inside : i < p.statements.length) :
    ∃! chain, p.LeadsOut i chain := by
  -- The number of statements that come after the place falls from reader to reader.
  induction rest : p.statements.length - i using Nat.strong_induction_on generalizing i with
  | _ rest ih =>
    by_cases inner : i + 1 < p.statements.length
    · obtain ⟨j, consumes⟩ := sound.exists_consumes inner
      have later := sound.lt_of_consumes consumes
      have within : j < p.statements.length := by
        obtain ⟨_, _, _, second, _⟩ := consumes
        exact (List.getElem?_eq_some_iff.mp second).1
      exact sound.leadsOut_cons consumes (ih (p.statements.length - j) (by omega) within rfl)
    · obtain rfl : i = p.statements.length - 1 := by omega
      exact sound.leadsOut_last

end Program.IsSound

/-- The checker accepts exactly the programs that are sound and whose streams have numbers short enough to
be read; what it accepts is one tree, rooted at the output. -/
theorem Program.validate_accepts (p : Program) (inputs : Int) :
    (p.validate inputs = .ok () ↔
      p.IsSound inputs ∧ ∀ pad ∈ p.readPads, isSelector pad = true → IsShort pad) ∧
    (p.validate inputs = .ok () → ∀ i < p.statements.length, ∃! chain, p.LeadsOut i chain) := by
  refine ⟨validate_eq_ok_iff, fun accepted i inside => ?_⟩
  exact (validate_eq_ok_iff.mp accepted).1.leadsOut inside

/-- A picture laid over another one. -/
def overlaid : Program :=
  Program.addAll {} [⟨["0:v"], "scale=64:64", "base"⟩, ⟨["1:v"], "hflip", "badge"⟩,
    ⟨["base", "badge"], "overlay", "out"⟩]

theorem overlaid_accepted : overlaid.validate 2 = .ok () ∧ 0 < overlaid.statements.length ∧
    ∃! chain, overlaid.LeadsOut 0 chain :=
  ⟨by decide +kernel, by decide, (overlaid.validate_accepts 2).2 (by decide +kernel) 0 (by decide)⟩

/-- The video stream of the first input, whose number is written with one digit more than can be read. -/
def overlongStream : String := String.ofList (List.replicate (integerDigitLimit + 1) '0' ++ [':', 'v'])

/-- A copy of that stream. -/
def overlongCopy : Program := Program.add {} ⟨[overlongStream], "copy", "out"⟩

theorem isDigit_zeros {k : Nat} : ∀ c ∈ List.replicate k '0', c.isDigit = true := by
  intro c member
  rw [List.eq_of_mem_replicate member]
  rfl

theorem isDecimal_zeros {k : Nat} (positive : 0 < k) : IsDecimal (List.replicate k '0') 0 := by
  refine ⟨?_, fun c member => Text.isDecimalDigit_of_isDigit (isDigit_zeros c member), ?_⟩
  · rw [ne_eq, List.replicate_eq_nil_iff]
    omega
  · rw [foldDigits_eq_ofDigitChars isDigit_zeros]
    clear positive
    induction k with
    | zero => rfl
    | succ k ih => simp [List.replicate_succ, Nat.ofDigitChars_cons, ih]

theorem isSelector_overlong : isSelector overlongStream = true :=
  isSelector_of_digits (String.toList_ofList ..) (isDecimal_zeros (Nat.succ_pos _)).nonempty isDigit_zeros

theorem splitSelector_overlong :
    splitSelector overlongStream = (List.replicate (integerDigitLimit + 1) '0', ['v']) :=
  splitSelector_of_digits (String.toList_ofList ..) isDigit_zeros

/-- The copy is sound over the one input, and refused. -/
theorem overlongCopy_refused : overlongCopy.IsSound 1 ∧
    overlongCopy.validate 1 = .error (.selector (.tooLong (integerDigitLimit + 1))) := by
  have statements : overlongCopy.statements = [⟨[overlongStream], "copy", "out"⟩] := rfl
  have reads : overlongCopy.readPads = [overlongStream] := rfl
  have inner : innerPads [overlongStream] = [] := by
    rw [innerPads, List.filter_singleton, isSelector_overlong]
    rfl
  constructor
  · refine ⟨⟨_, rfl, rfl⟩, by decide, ?_, ?_, ?_, ?_⟩
    · intro before s after place pad read plain
      have member : pad ∈ overlongCopy.readPads := by
        rw [Program.readPads, place, List.flatMap_append, List.flatMap_cons]
        simp [read]
      rw [reads, List.mem_singleton] at member
      rw [member, isSelector_overlong] at plain
      cases plain
    · rw [reads, inner]
      exact List.nodup_nil
    · intro pad produced other
      obtain rfl := List.mem_singleton.mp produced
      exact absurd rfl other
    · intro pad read _
      obtain rfl := List.mem_singleton.mp (reads ▸ read)
      rw [splitSelector_overlong]
      exact ⟨0, isDecimal_zeros (Nat.succ_pos _), by decide⟩
  · have refused : readInteger (splitSelector overlongStream).1 =
        .error (.tooLong (integerDigitLimit + 1)) := by
      rw [splitSelector_overlong, readInteger_of_digits (isDecimal_zeros (Nat.succ_pos _)).nonempty
        isDigit_zeros, List.length_replicate, if_pos (Nat.lt_succ_self _)]
    rw [Program.validate, statements, List.zipIdx_singleton, List.foldlM_cons, Usage.check,
      List.foldlM_cons, Usage.readPad, isSelector_overlong, refused]
    rfl

end Montage.Graph
