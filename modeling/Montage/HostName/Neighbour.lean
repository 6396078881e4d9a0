import Montage.HostName.Mark

/-! # Neighbours

Some letters may stand in a label only if the letters around them allow it: joiners, the dot between two
letters `l`, the numeral sign of Greek, the two marks of abbreviation of Hebrew, the dot of Katakana and the
two kinds of digits of Arabic, which may not be mixed.
-/

namespace Montage.HostName

/-- The bounds of the runs of letters that are joined with the letter after them. -/
def joinedAfterBounds : List Nat :=
  [0x620, 0x621, 0x626, 0x627, 0x628, 0x629, 0x62A, 0x62F, 0x633, 0x648, 0x649, 0x64B, 0x66E, 0x670,
  0x679, 0x688, 0x69A, 0x6C0, 0x6C1, 0x6C3, 0x6CC, 0x6CD, 0x6CE, 0x6CF, 0x6D0, 0x6D2, 0x6FA, 0x6FD,
  0x6FF, 0x710, 0x712, 0x715, 0x71A, 0x71E, 0x71F, 0x728, 0x729, 0x72A, 0x72B, 0x72C, 0x72D, 0x72F,
  0x74E, 0x759, 0x75C, 0x76B, 0x76D, 0x771, 0x772, 0x773, 0x775, 0x778, 0x77A, 0x780, 0x7CA, 0x7EB,
  0x841, 0x846, 0x848, 0x849, 0x84A, 0x854, 0x855, 0x856, 0x860, 0x861, 0x862, 0x866, 0x868, 0x869,
  0x886, 0x887, 0x889, 0x88E, 0x8A0, 0x8AA, 0x8AF, 0x8B1, 0x8B3, 0x8B9, 0x8BA, 0x8C9, 0x1820,
  0x1880, 0x1887, 0x18A9, 0x18AA, 0x18B0, 0xA840, 0xA873, 0x10AC0, 0x10AC5, 0x10ACD, 0x10ACE,
  0x10AD3, 0x10ADD, 0x10ADE, 0x10AE1, 0x10B80, 0x10B81, 0x10B82, 0x10B83, 0x10B86, 0x10B89, 0x10B8A,
  0x10B8C, 0x10B8D, 0x10B8E, 0x10B90, 0x10B91, 0x10D00, 0x10D22, 0x10D23, 0x10D24, 0x10F30, 0x10F33,
  0x10F34, 0x10F45, 0x10F70, 0x10F74, 0x10F76, 0x10F82, 0x10FB0, 0x10FB1, 0x10FB2, 0x10FB4, 0x10FB8,
  0x10FB9, 0x10FBB, 0x10FBD, 0x10FBE, 0x10FC0, 0x10FC1, 0x10FC2, 0x10FC4, 0x10FE0, 0x1E922, 0x1E944]

/-- The bounds of the runs of letters that are joined with the letter before them. -/
def joinedBeforeBounds : List Nat :=
  [0x620, 0x621, 0x622, 0x64B, 0x66E, 0x670, 0x671, 0x674, 0x679, 0x6D6, 0x6EE, 0x6F0, 0x6FA, 0x6FD,
  0x6FF, 0x711, 0x712, 0x730, 0x74D, 0x780, 0x7CA, 0x7EB, 0x840, 0x859, 0x860, 0x861, 0x862, 0x866,
  0x867, 0x883, 0x886, 0x887, 0x889, 0x898, 0x8A0, 0x8AD, 0x8AE, 0x8C9, 0x1820, 0x1880, 0x1887,
  0x18A9, 0x18AA, 0x18B0, 0xA840, 0xA872, 0x10AC0, 0x10AC6, 0x10AC7, 0x10ACB, 0x10ACE, 0x10AD7,
  0x10AD8, 0x10AE2, 0x10AE4, 0x10AE5, 0x10B80, 0x10C00, 0x10D01, 0x10D24, 0x10F30, 0x10F45, 0x10F70,
  0x10F82, 0x10FB0, 0x10FB1, 0x10FB2, 0x10FB7, 0x10FB8, 0x10FC0, 0x10FC1, 0x10FE0, 0x1E922, 0x1E944]

/-- The letters that joining passes over though they take room. -/
def passedOver : List Nat :=
  [0xCBF, 0xCC6, 0x11A07, 0x11A08, 0x11C3F, 0x1E94B]

/-- The mark without room that joining does not pass over. -/
def joinStopper : Nat := 0x1171E

/-- Whether joining passes over a letter. -/
def isPassedOver (n : Nat) : Bool := (isRoomless n && n != joinStopper) || passedOver.contains n

/-- The bounds of the runs of Greek letters. -/
def greekBounds : List Nat :=
  [0x371, 0x3E3, 0x3F3, 0x430, 0x1D26, 0x1D2B, 0x1F00, 0x200C, 0xAB65, 0xAB66]

/-- The bounds of the runs of Hebrew letters. -/
def hebrewBounds : List Nat :=
  [0x591, 0x610, 0xFB1E, 0xFE20]

/-- The bounds of the runs of Hiragana, Katakana and Han. -/
def japaneseBounds : List Nat :=
  [0x3005, 0x3006, 0x3007, 0x302A, 0x3041, 0x3099, 0x309D, 0x30FB, 0x30FD, 0x3105, 0x31F0, 0xA000,
  0xFA0E, 0xFB1E, 0x16FE3, 0x16FE4, 0x16FF0, 0x17000, 0x1AFF0, 0x1B170, 0x20000]

/-- Whether a letter is a digit of one kind of Arabic digits. -/
def isEasternDigit (n : Nat) : Bool := 0x660 ≤ n && n ≤ 0x669

/-- Whether a letter is a digit of the other kind of Arabic digits. -/
def isExtendedDigit (n : Nat) : Bool := 0x6F0 ≤ n && n ≤ 0x6F9

/-- Whether the letter before is a mark that takes the vowel from a letter. -/
def followsVowelKiller (before : List Nat) : Bool := before.head?.map markClass == some vowelKillerClass

/-- Whether the first of some letters that joining does not pass over lies in a set. -/
def meets (bounds letters : List Nat) : Bool :=
  ((letters.find? (!isPassedOver ·)).map (Text.inRuns bounds)).getD false

/-- Whether a letter may stand where it does in a label: after some letters, the nearest of which comes
first, and before some others. -/
def isPlaced (before : List Nat) (n : Nat) (after : List Nat) : Bool :=
  if n = 0x200C then
    followsVowelKiller before || (meets joinedAfterBounds before && meets joinedBeforeBounds after)
  else if n = 0x200D then followsVowelKiller before
  else if n = 0xB7 then before.head? == some 0x6C && after.head? == some 0x6C
  else if n = 0x375 then (after.head?.map (Text.inRuns greekBounds)).getD false
  else if n = 0x5F3 ∨ n = 0x5F4 then (before.head?.map (Text.inRuns hebrewBounds)).getD false
  else if n = 0x30FB then (before ++ after).any (Text.inRuns japaneseBounds)
  else if isEasternDigit n then !(before ++ after).any isExtendedDigit
  else if isExtendedDigit n then !(before ++ after).any isEasternDigit
  else true

/-- Whether all letters of a label may stand where they do, after the letters before them. -/
def arePlaced (before : List Nat) : List Nat → Bool
  | [] => true
  | n :: after => isPlaced before n after && arePlaced (n :: before) after

end Montage.HostName
