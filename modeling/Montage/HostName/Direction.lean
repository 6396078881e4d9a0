import Montage.HostName.Mark

/-! # Directions

Letters run to the right or to the left. A label with letters or numerals that run to the left has to
start with such a letter and end with one or with a digit, with no letter that runs to the right between
them, and its digits are all of one kind.
-/

namespace Montage.HostName

/-- How a letter runs. -/
inductive Direction where
  | rightward
  | leftward
  | digit
  | arabicDigit
  | roomless
  | neutral
  deriving DecidableEq, Repr

/-- The bounds of the runs of letters that run to the left. -/
def leftwardBounds : List Nat :=
  [0x5D0, 0x610, 0x620, 0x64B, 0x66E, 0x670, 0x671, 0x6D6, 0x6E5, 0x6E7, 0x6EE, 0x6F0, 0x6FA, 0x711,
  0x712, 0x730, 0x74D, 0x7A6, 0x7B1, 0x7EB, 0x7F4, 0x7FD, 0x800, 0x816, 0x81A, 0x81B, 0x824, 0x825,
  0x828, 0x829, 0x840, 0x859, 0x860, 0x898, 0x8A0, 0x8CA, 0xFE73, 0x10000, 0x10800, 0x10A01,
  0x10A10, 0x10A38, 0x10A60, 0x10AE5, 0x10B00, 0x10D24, 0x10E80, 0x10EAB, 0x10EB0, 0x10F46, 0x10F70,
  0x10F82, 0x10FB0, 0x11000, 0x1E800, 0x1E8D0, 0x1E922, 0x1E944, 0x1E94B, 0x20000]

/-- The bounds of the runs of digits that run as in European numerals. -/
def digitBounds : List Nat :=
  [0x30, 0x61, 0x6F0, 0x6FA]

/-- The bounds of the runs of digits that run as in Arabic numerals. -/
def arabicDigitBounds : List Nat :=
  [0x660, 0x66E, 0x10D30, 0x10E80]

/-- The bounds of the runs of letters without a direction of their own. -/
def neutralBounds : List Nat :=
  [0x2D, 0x30, 0xB7, 0xDF, 0x2B9, 0x2BB, 0x2C6, 0x2D0, 0x2EC, 0x2EE, 0x375, 0x377, 0x200C, 0x214E,
  0x2E2F, 0x3005, 0x30FB, 0x30FC, 0xA67F, 0xA681, 0xA717, 0xA723, 0xA788, 0xA78C]

/-- The direction of a letter. -/
def direction (n : Nat) : Direction :=
  if Text.inRuns leftwardBounds n then .leftward
  else if Text.inRuns digitBounds n then .digit
  else if Text.inRuns arabicDigitBounds n then .arabicDigit
  else if Text.inRuns neutralBounds n then .neutral
  else if isRoomless n then .roomless
  else .rightward

/-- Whether the letters of a label can be shown in order. -/
def isShowable (points : List Nat) : Bool :=
  let found := points.map direction
  let ending := (found.filter (· != .roomless)).getLast?
  !found.any (fun d => d == .leftward || d == .arabicDigit) ||
    (found.head? == some .leftward && !found.contains .rightward && ending != some .neutral &&
      !(found.contains .digit && found.contains .arabicDigit))

end Montage.HostName
