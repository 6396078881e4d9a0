import Montage.HostName.Composite
import Montage.HostName.Direction
import Montage.HostName.Letter
import Montage.HostName.Neighbour
import Montage.Text.Punycode

/-! # Labels

The labels of a host name stand between its dots. One that has other characters than ASCII is sent in
few letters, after a mark that says so. A label is valid if its letters may stand where they do, it is
composed, starts with no mark, has its hyphens in other places than that mark has them, and can be shown in
order.
-/

namespace Montage.HostName

/-- The greatest number of characters of a label as it is sent. -/
def labelLimit : Nat := 63

/-- The code point of the hyphen. -/
def hyphen : Nat := 0x2D

/-- What a label in few letters starts with. -/
def encodedStart : List Char := ['x', 'n', '-', '-']

/-- Whether no hyphen is the first or the last letter of a label, or the third and the fourth both. -/
def hasGoodHyphens (points : List Nat) : Bool :=
  points.head? != some hyphen && points.getLast? != some hyphen &&
    (points.drop 2).take 2 != [hyphen, hyphen]

/-- Whether a text is a label. -/
def isLabel (points : List Nat) : Bool :=
  !points.isEmpty && points.all isLetter && hasGoodHyphens points &&
    !(points.head?.map isMark).getD false && arePlaced [] points && isComposed points && isShowable points

/-- Whether a text of ASCII characters is a label, which may be in few letters. -/
def isPlainLabel (label : List Char) : Bool :=
  if encodedStart.isPrefixOf label then
    let rest := label.drop encodedStart.length
    !rest.isEmpty && rest.getLast? != some '-' && ((Text.Punycode.decode? rest).map isLabel).getD false
  else isLabel (label.map Char.toNat)

/-- A label as it is sent, unless it is none. -/
def sentLabel? (label : List Char) : Option (List Char) :=
  let isPlain := label.all fun c => c.toNat < 0x80
  let isValid := if isPlain then isPlainLabel label else isLabel (label.map Char.toNat)
  let sent := if isPlain then label else encodedStart ++ Text.Punycode.encode (label.map Char.toNat)
  if isValid && sent.length ≤ labelLimit then some sent else none

end Montage.HostName
