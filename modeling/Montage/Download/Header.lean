import Montage.Text.Quoted

/-! # Header texts

The names and the values of headers are sent as ASCII, so that no others can be. The fault of a text with
other characters tells where its first run of them stands.
-/

namespace Montage

/-- A run of characters that cannot be sent: what comes before it, its first character, and the
others. -/
structure HeaderFault where
  position : Nat
  first : Char
  others : List Char
  deriving DecidableEq, Repr

namespace HeaderFault

/-- The code point of a character as it is written in a message. -/
def pointText (c : Char) : String :=
  let n := c.toNat
  let (letter, digits) := if n < 0x100 then ('x', 2) else if n < 0x10000 then ('u', 4) else ('U', 8)
  String.ofList ('\\' :: letter :: Text.Quoted.hexDigits digits n)

/-- The characters of the fault and their place. -/
def placeText (fault : HeaderFault) : String :=
  if fault.others.isEmpty then s!"character '{pointText fault.first}' in position {fault.position}"
  else s!"characters in position {fault.position}-{fault.position + fault.others.length}"

/-- The wording of the fault. -/
def message (fault : HeaderFault) : String :=
  s!"'ascii' codec can't encode {fault.placeText}: ordinal not in range(128)"

end HeaderFault

/-- Whether a character can be sent in a header. -/
def isSendableInHeader (c : Char) : Bool := c.toNat < 0x80

/-- The fault of a text that cannot be sent in a header. -/
def headerFault? (text : List Char) : Option HeaderFault :=
  let before := text.takeWhile isSendableInHeader
  match text.drop before.length with
  | [] => none
  | c :: rest => some ⟨before.length, c, rest.takeWhile (!isSendableInHeader ·)⟩

end Montage
