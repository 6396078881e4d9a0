import Montage.Files.Path
import Montage.Number.Numeral

/-! # Ranges

A request may ask for ranges of a file. A range has a first and a last octet, of which one may be left
out: without a last one it goes on to the end, and without a first one it is as many octets at the end.
Parts that make no sense are passed over, and ranges that touch are put together.
-/

namespace Montage.Http

/-- Octets of a file from `first` up to and without `stop`. -/
structure Span where
  first : Int
  stop : Int
  deriving DecidableEq, Repr

/-- Why the ranges that are asked for cannot be sent. -/
inductive SpanFault where
  | noUnit
  | otherUnit
  | noRange
  | outside
  | reversed
  deriving DecidableEq, Repr

/-- The wording of ranges that cannot be sent; of those outside the file there is none. -/
def SpanFault.message : SpanFault → String
  | .noUnit => "Malformed range header."
  | .otherUnit => "Only support bytes range"
  | .noRange => "Range header: range must be requested"
  | .outside => ""
  | .reversed => "Range header: start must be less than end"

/-- The response status that goes with ranges that cannot be sent. -/
def SpanFault.status : SpanFault → Nat
  | .outside => 416
  | _ => 400

namespace Span

/-- The range of a file of a size that a text asks for, if it makes sense. -/
def ofText? (size : Nat) (text : List Char) : Option Span :=
  if text.contains '-' then
    let first := Text.strip (text.takeWhile (· != '-'))
    let last := Text.strip ((text.dropWhile (· != '-')).drop 1)
    if first = [] then
      (Numeral.readSigned? last).map fun count => ⟨max (size - count) 0, size⟩
    else if last = [] then (Numeral.readSigned? first).map fun first => ⟨first, size⟩
    else do
      let first ← Numeral.readSigned? first
      let last ← Numeral.readSigned? last
      return ⟨first, if last < size then last + 1 else size⟩
  else none

/-- Whether a range comes before another one, or is the shorter of two that start together. -/
def before (a b : Span) : Bool := a.first < b.first || (a.first == b.first && a.stop ≤ b.stop)

/-- Puts together the ranges that touch, of those that are left after one, in order. -/
def mergeFrom (current : Span) : List Span → List Span
  | [] => [current]
  | next :: rest =>
    if next.first ≤ current.stop then mergeFrom ⟨current.first, max current.stop next.stop⟩ rest
    else current :: mergeFrom next rest

/-- Ranges in order, with those that touch put together. -/
def merge (spans : List Span) : List Span :=
  match spans.mergeSort before with
  | [] => []
  | first :: rest => mergeFrom first rest

/-- The ranges of a file of a size that a header asks for. -/
def ofHeader (size : Nat) (header : String) : Except SpanFault (List Span) :=
  let unit := header.toList.takeWhile (· != '=')
  match header.toList.drop unit.length with
  | [] => .error .noUnit
  | _ :: parts =>
    if String.ofList ((Text.strip unit).map Char.toLower) ≠ "bytes" then .error .otherUnit
    else
      let spans := (Path.splitAt ',' parts).filterMap (ofText? size)
      if spans = [] then .error .noRange
      else if spans.any fun span => span.first < 0 || size ≤ span.first then .error .outside
      else if spans.any fun span => span.stop < span.first then .error .reversed
      else .ok (merge spans)

/-- The octets of a range. -/
def cut (span : Span) (content : ByteArray) : ByteArray :=
  content.extract span.first.toNat span.stop.toNat

end Span

end Montage.Http
