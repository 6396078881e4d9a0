/-! # UTF-8

Octets are decoded one by one. A sequence that cannot be continued counts as one fault, and so does an
octet that starts none; what the decoder finds is a list of characters and faults, which readers turn
into replacement characters or into a refusal.
-/

namespace Montage.Text.Utf8

/-- A sequence that has been started: how many octets it still needs, the range of the next one, and
the bits so far. -/
structure Pending where
  need : Nat
  low : Nat
  high : Nat
  bits : Nat
  deriving DecidableEq, Repr

/-- Starts a sequence, or finds a character of one octet, or a fault. -/
def start (octet : Nat) : List (Option Char) × Option Pending :=
  if octet < 0x80 then ([some (Char.ofNat octet)], none)
  else if 0xC2 ≤ octet ∧ octet ≤ 0xDF then ([], some ⟨1, 0x80, 0xBF, octet - 0xC0⟩)
  else if octet = 0xE0 then ([], some ⟨2, 0xA0, 0xBF, 0⟩)
  else if octet = 0xED then ([], some ⟨2, 0x80, 0x9F, 0xD⟩)
  else if 0xE1 ≤ octet ∧ octet ≤ 0xEF then ([], some ⟨2, 0x80, 0xBF, octet - 0xE0⟩)
  else if octet = 0xF0 then ([], some ⟨3, 0x90, 0xBF, 0⟩)
  else if octet = 0xF4 then ([], some ⟨3, 0x80, 0x8F, 4⟩)
  else if 0xF1 ≤ octet ∧ octet ≤ 0xF3 then ([], some ⟨3, 0x80, 0xBF, octet - 0xF0⟩)
  else ([none], none)

/-- Takes one octet: what is found, and the sequence that is then started. -/
def step (pending : Option Pending) (octet : UInt8) : List (Option Char) × Option Pending :=
  let octet := octet.toNat
  match pending with
  | none => start octet
  | some p =>
    if p.low ≤ octet ∧ octet ≤ p.high then
      let bits := p.bits * 64 + (octet - 0x80)
      if p.need ≤ 1 then ([some (Char.ofNat bits)], none)
      else ([], some ⟨p.need - 1, 0x80, 0xBF, bits⟩)
    else
      let (found, next) := start octet
      (none :: found, next)

/-- Takes octets in order: what is found, and the sequence that is then started. -/
def run (pending : Option Pending) : List UInt8 → List (Option Char) × Option Pending
  | [] => ([], pending)
  | octet :: rest =>
    let (found, next) := step pending octet
    let (more, last) := run next rest
    (found ++ more, last)

/-- What is found at the end of the text: a sequence that was started and not finished is a fault. -/
def finish (pending : Option Pending) : List (Option Char) :=
  match pending with
  | none => []
  | some _ => [none]

/-- All characters and faults of a list of octets. -/
def decode (octets : List UInt8) : List (Option Char) :=
  let (found, pending) := run none octets
  found ++ finish pending

/-- The characters found, each fault a replacement character. -/
def replaceFaults (found : List (Option Char)) : List Char := found.map fun c => c.getD '\uFFFD'

/-- The characters found; `none` if there is any fault. -/
def refuseFaults (found : List (Option Char)) : Option (List Char) := found.mapM id

end Montage.Text.Utf8
