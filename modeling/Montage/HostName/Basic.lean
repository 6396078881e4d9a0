import Montage.Files.Path
import Montage.HostName.Label
import Montage.Text.SmallForm

/-! # Host names

A host name is a row of labels with dots between them, of which the last may be followed by a dot too.
Capitals stand for their small forms, and three dots of other scripts for the dot.
-/

namespace Montage.HostName

/-- The greatest number of characters of a host name as it is sent, without a last dot. -/
def lengthLimit : Nat := 253

/-- Whether a character stands between labels. -/
def isDot (c : Char) : Bool := c == '.' || c == '\u3002' || c == '\uFF0E' || c == '\uFF61'

/-- A text in small letters. -/
def toSmall (s : List Char) : List Char :=
  s.flatMap fun c => (Text.smallForm c.toNat).map Char.ofNat

/-- The labels of a host name, without the empty one after a last dot. -/
def labels (host : List Char) : List (List Char) :=
  let found := Path.splitAt '.' ((toSmall host).map fun c => if isDot c then '.' else c)
  if found.getLast? = some [] then found.dropLast else found

/-- Whether a host name can be sent. None is shorter as it is sent, so that too long a name is refused
without looking at its labels. -/
def isSendable (host : List Char) : Bool :=
  if lengthLimit + 1 < host.length then false
  else
    match (labels host).mapM sentLabel? with
    | none => false
    | some sent => (List.intercalate ['.'] sent).length ≤ lengthLimit

end Montage.HostName
