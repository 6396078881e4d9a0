/-! # Content codings

A body may have been packed by codings, of which the last is undone first. No more than the start of a
packed body is looked at: it is refused if it cannot start a body in that coding, and what it holds is
not unpacked.
-/

namespace Montage

/-- The codings that can be undone. -/
inductive Coding where
  | gzip
  | deflate
  deriving DecidableEq, Repr

namespace Coding

/-- The coding of a name. -/
def ofName? : String → Option Coding
  | "gzip" => some .gzip
  | "deflate" => some .deflate
  | _ => none

/-- Whether two octets start a stream with a header of its own. -/
def isStreamHeader (first second : Nat) : Bool :=
  first % 16 == 8 && (first * 256 + second) % 31 == 0

/-- What is wrong with the start of a stream without a header. -/
def blockFault? : List Nat → Option String
  | first :: rest =>
    match first / 2 % 4, rest with
    | 0, a :: b :: c :: d :: _ =>
      if a + 256 * b + (c + 256 * d) = 65535 then none else some "invalid stored block lengths"
    | 3, _ => some "invalid block type"
    | _, _ => none
  | [] => none

/-- What is wrong with the start of a body, if there is enough of it to tell. -/
def fault? (coding : Coding) (octets : List Nat) : Option String :=
  match coding, octets with
  | .gzip, first :: second :: _ =>
    if first = 0x1F ∧ second = 0x8B then none else some "incorrect header check"
  | .deflate, first :: second :: rest =>
    if isStreamHeader first second then none else blockFault? (first :: second :: rest)
  | _, _ => none

/-- The wording of a fault at the start of a body. -/
def faultText (fault : String) : String := "Error -3 while decompressing data: " ++ fault

end Coding

end Montage
