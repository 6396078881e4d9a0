import Montage.Text.Runs

/-! # Marks

Marks belong to the letter before them. Each has a class, by which several marks on one letter are put
in order, and most take no room of their own. The tables tell letters of host names apart and leave
other code points open.
-/

namespace Montage.HostName

/-- The bounds of the runs of marks. -/
def markBounds : List Nat :=
  [0x300, 0x371, 0x483, 0x48B, 0x591, 0x5D0, 0x610, 0x620, 0x64B, 0x660, 0x670, 0x671, 0x6D6, 0x6E5,
  0x6E7, 0x6EE, 0x711, 0x712, 0x730, 0x74D, 0x7A6, 0x7B1, 0x7EB, 0x7F4, 0x7FD, 0x800, 0x816, 0x81A,
  0x81B, 0x824, 0x825, 0x828, 0x829, 0x840, 0x859, 0x860, 0x898, 0x8A0, 0x8CA, 0x904, 0x93A, 0x93D,
  0x93E, 0x950, 0x951, 0x960, 0x962, 0x966, 0x981, 0x985, 0x9BC, 0x9BD, 0x9BE, 0x9CE, 0x9D7, 0x9E0,
  0x9E2, 0x9E6, 0x9FE, 0xA05, 0xA3C, 0xA5C, 0xA70, 0xA72, 0xA75, 0xA85, 0xABC, 0xABD, 0xABE, 0xAD0,
  0xAE2, 0xAE6, 0xAFA, 0xB05, 0xB3C, 0xB3D, 0xB3E, 0xB5F, 0xB62, 0xB66, 0xB82, 0xB83, 0xBBE, 0xBD0,
  0xBD7, 0xBE6, 0xC00, 0xC05, 0xC3C, 0xC3D, 0xC3E, 0xC58, 0xC62, 0xC66, 0xC81, 0xC85, 0xCBC, 0xCBD,
  0xCBE, 0xCDD, 0xCE2, 0xCE6, 0xD00, 0xD04, 0xD3B, 0xD3D, 0xD3E, 0xD4E, 0xD57, 0xD5F, 0xD62, 0xD66,
  0xD81, 0xD85, 0xDCA, 0xDE6, 0xDF2, 0xE01, 0xE31, 0xE32, 0xE34, 0xE40, 0xE47, 0xE50, 0xEB1, 0xEB2,
  0xEB4, 0xEBD, 0xEC8, 0xED0, 0xF18, 0xF20, 0xF35, 0xF40, 0xF71, 0xF88, 0xF8D, 0x1000, 0x102B,
  0x103F, 0x1056, 0x105A, 0x105E, 0x1061, 0x1062, 0x1065, 0x1067, 0x106E, 0x1071, 0x1075, 0x1082,
  0x108E, 0x108F, 0x1090, 0x109A, 0x10D0, 0x135D, 0x1380, 0x1712, 0x171F, 0x1732, 0x1740, 0x1752,
  0x1760, 0x1772, 0x1780, 0x17B6, 0x17D7, 0x17DD, 0x17E0, 0x1885, 0x1887, 0x18A9, 0x18AA, 0x1920,
  0x1946, 0x1A17, 0x1A20, 0x1A55, 0x1A80, 0x1AB0, 0x1B05, 0x1B34, 0x1B45, 0x1B6B, 0x1B83, 0x1BA1,
  0x1BAE, 0x1BE6, 0x1C00, 0x1C24, 0x1C40, 0x1CD0, 0x1CE9, 0x1CED, 0x1CEE, 0x1CF4, 0x1CF5, 0x1CF7,
  0x1CFA, 0x1DC0, 0x1E01, 0x2CEF, 0x2CF3, 0x2D7F, 0x2D80, 0x2DE0, 0x2E2F, 0x302A, 0x303C, 0x3099,
  0x309D, 0xA66F, 0xA67F, 0xA69E, 0xA6A0, 0xA6F0, 0xA717, 0xA802, 0xA803, 0xA806, 0xA807, 0xA80B,
  0xA80C, 0xA823, 0xA840, 0xA880, 0xA882, 0xA8B4, 0xA8D0, 0xA8E0, 0xA8F2, 0xA8FF, 0xA900, 0xA926,
  0xA930, 0xA947, 0xA984, 0xA9B3, 0xA9CF, 0xA9E5, 0xA9E6, 0xAA29, 0xAA40, 0xAA43, 0xAA44, 0xAA4C,
  0xAA50, 0xAA7B, 0xAA7E, 0xAAB0, 0xAAB1, 0xAAB2, 0xAAB5, 0xAAB7, 0xAAB9, 0xAABE, 0xAAC0, 0xAAC1,
  0xAAC2, 0xAAEB, 0xAAF2, 0xAAF5, 0xAB01, 0xABE3, 0xABF0, 0xFB1E, 0xFE73, 0x101FD, 0x10280, 0x102E0,
  0x10300, 0x10376, 0x10380, 0x10A01, 0x10A10, 0x10A38, 0x10A60, 0x10AE5, 0x10B00, 0x10D24, 0x10D30,
  0x10EAB, 0x10EB0, 0x10F46, 0x10F70, 0x10F82, 0x10FB0, 0x11000, 0x11003, 0x11038, 0x11066, 0x11070,
  0x11071, 0x11073, 0x11075, 0x1107F, 0x11083, 0x110B0, 0x110D0, 0x11100, 0x11103, 0x11127, 0x11136,
  0x11145, 0x11147, 0x11173, 0x11176, 0x11180, 0x11183, 0x111B3, 0x111C1, 0x111C9, 0x111D0, 0x1122C,
  0x11280, 0x112DF, 0x112F0, 0x11300, 0x11305, 0x1133B, 0x1133D, 0x1133E, 0x11350, 0x11357, 0x1135D,
  0x11362, 0x11400, 0x11435, 0x11447, 0x1145E, 0x1145F, 0x114B0, 0x114C4, 0x115AF, 0x115D8, 0x115DC,
  0x11600, 0x11630, 0x11644, 0x116AB, 0x116B8, 0x1171D, 0x11730, 0x1182C, 0x118C0, 0x11930, 0x1193F,
  0x11940, 0x11941, 0x11942, 0x11950, 0x119D1, 0x119E1, 0x119E4, 0x11A00, 0x11A01, 0x11A0B, 0x11A33,
  0x11A3A, 0x11A3B, 0x11A50, 0x11A51, 0x11A5C, 0x11A8A, 0x11A9D, 0x11C2F, 0x11C40, 0x11C92, 0x11D00,
  0x11D31, 0x11D46, 0x11D47, 0x11D50, 0x11D8A, 0x11D98, 0x11EF3, 0x11FB0, 0x16AF0, 0x16B00, 0x16B30,
  0x16B40, 0x16F4F, 0x16F50, 0x16F51, 0x16F93, 0x16FE4, 0x17000, 0x1BC9D, 0x1DF00, 0x1E000, 0x1E100,
  0x1E130, 0x1E137, 0x1E2AE, 0x1E2C0, 0x1E2EC, 0x1E2F0, 0x1E8D0, 0x1E922, 0x1E944, 0x1E94B]

/-- Whether a letter is a mark. -/
def isMark (n : Nat) : Bool := Text.inRuns markBounds n

/-- The bounds of the runs of marks that take no room. -/
def roomlessBounds : List Nat :=
  [0x300, 0x371, 0x483, 0x48B, 0x591, 0x5D0, 0x610, 0x620, 0x64B, 0x660, 0x670, 0x671, 0x6D6, 0x6E5,
  0x6E7, 0x6EE, 0x711, 0x712, 0x730, 0x74D, 0x7A6, 0x7B1, 0x7EB, 0x7F4, 0x7FD, 0x800, 0x816, 0x81A,
  0x81B, 0x824, 0x825, 0x828, 0x829, 0x840, 0x859, 0x860, 0x898, 0x8A0, 0x8CA, 0x903, 0x93A, 0x93B,
  0x93C, 0x93D, 0x941, 0x949, 0x94D, 0x94E, 0x951, 0x960, 0x962, 0x966, 0x981, 0x982, 0x9BC, 0x9BD,
  0x9C1, 0x9C7, 0x9CD, 0x9CE, 0x9E2, 0x9E6, 0x9FE, 0xA03, 0xA3C, 0xA3E, 0xA41, 0xA5C, 0xA70, 0xA72,
  0xA75, 0xA83, 0xABC, 0xABD, 0xAC1, 0xAC9, 0xACD, 0xAD0, 0xAE2, 0xAE6, 0xAFA, 0xB02, 0xB3C, 0xB3D,
  0xB3F, 0xB40, 0xB41, 0xB47, 0xB4D, 0xB57, 0xB62, 0xB66, 0xB82, 0xB83, 0xBC0, 0xBC1, 0xBCD, 0xBD0,
  0xC00, 0xC01, 0xC04, 0xC05, 0xC3C, 0xC3D, 0xC3E, 0xC41, 0xC46, 0xC58, 0xC62, 0xC66, 0xC81, 0xC82,
  0xCBC, 0xCBD, 0xCCC, 0xCD5, 0xCE2, 0xCE6, 0xD00, 0xD02, 0xD3B, 0xD3D, 0xD41, 0xD46, 0xD4D, 0xD4E,
  0xD62, 0xD66, 0xD81, 0xD82, 0xDCA, 0xDCF, 0xDD2, 0xDD8, 0xE31, 0xE32, 0xE34, 0xE40, 0xE47, 0xE50,
  0xEB1, 0xEB2, 0xEB4, 0xEBD, 0xEC8, 0xED0, 0xF18, 0xF20, 0xF35, 0xF3E, 0xF71, 0xF7F, 0xF80, 0xF88,
  0xF8D, 0x1000, 0x102D, 0x1031, 0x1032, 0x1038, 0x1039, 0x103B, 0x103D, 0x103F, 0x1058, 0x105A,
  0x105E, 0x1061, 0x1071, 0x1075, 0x1082, 0x1083, 0x1085, 0x1087, 0x108D, 0x108E, 0x109D, 0x10D0,
  0x135D, 0x1380, 0x1712, 0x1715, 0x1732, 0x1734, 0x1752, 0x1760, 0x1772, 0x1780, 0x17B7, 0x17BE,
  0x17C6, 0x17C7, 0x17C9, 0x17D7, 0x17DD, 0x17E0, 0x1885, 0x1887, 0x18A9, 0x18AA, 0x1920, 0x1923,
  0x1927, 0x1929, 0x1932, 0x1933, 0x1939, 0x1946, 0x1A17, 0x1A19, 0x1A1B, 0x1A20, 0x1A56, 0x1A57,
  0x1A58, 0x1A61, 0x1A62, 0x1A63, 0x1A65, 0x1A6D, 0x1A73, 0x1A80, 0x1AB0, 0x1B04, 0x1B34, 0x1B35,
  0x1B36, 0x1B3B, 0x1B3C, 0x1B3D, 0x1B42, 0x1B43, 0x1B6B, 0x1B82, 0x1BA2, 0x1BA6, 0x1BA8, 0x1BAA,
  0x1BAB, 0x1BAE, 0x1BE6, 0x1BE7, 0x1BE8, 0x1BEA, 0x1BED, 0x1BEE, 0x1BEF, 0x1BF2, 0x1C2C, 0x1C34,
  0x1C36, 0x1C40, 0x1CD0, 0x1CE1, 0x1CE2, 0x1CE9, 0x1CED, 0x1CEE, 0x1CF4, 0x1CF5, 0x1CF8, 0x1CFA,
  0x1DC0, 0x1E01, 0x2CEF, 0x2CF3, 0x2D7F, 0x2D80, 0x2DE0, 0x2E2F, 0x302A, 0x303C, 0x3099, 0x309D,
  0xA66F, 0xA67F, 0xA69E, 0xA6A0, 0xA6F0, 0xA717, 0xA802, 0xA803, 0xA806, 0xA807, 0xA80B, 0xA80C,
  0xA825, 0xA827, 0xA82C, 0xA840, 0xA8C4, 0xA8D0, 0xA8E0, 0xA8F2, 0xA8FF, 0xA900, 0xA926, 0xA930,
  0xA947, 0xA952, 0xA980, 0xA983, 0xA9B3, 0xA9B4, 0xA9B6, 0xA9BA, 0xA9BC, 0xA9BE, 0xA9E5, 0xA9E6,
  0xAA29, 0xAA2F, 0xAA31, 0xAA33, 0xAA35, 0xAA40, 0xAA43, 0xAA44, 0xAA4C, 0xAA4D, 0xAA7C, 0xAA7D,
  0xAAB0, 0xAAB1, 0xAAB2, 0xAAB5, 0xAAB7, 0xAAB9, 0xAABE, 0xAAC0, 0xAAC1, 0xAAC2, 0xAAEC, 0xAAEE,
  0xAAF6, 0xAB01, 0xABE5, 0xABE6, 0xABE8, 0xABE9, 0xABED, 0xABF0, 0xFB1E, 0xFE73, 0x101FD, 0x10280,
  0x102E0, 0x10300, 0x10376, 0x10380, 0x10A01, 0x10A10, 0x10A38, 0x10A60, 0x10AE5, 0x10B00, 0x10D24,
  0x10D30, 0x10EAB, 0x10EB0, 0x10F46, 0x10F70, 0x10F82, 0x10FB0, 0x11001, 0x11002, 0x11038, 0x11066,
  0x11070, 0x11071, 0x11073, 0x11075, 0x1107F, 0x11082, 0x110B3, 0x110B7, 0x110B9, 0x110D0, 0x11100,
  0x11103, 0x11127, 0x1112C, 0x1112D, 0x11136, 0x11173, 0x11176, 0x11180, 0x11182, 0x111B6, 0x111BF,
  0x111C9, 0x111CE, 0x111CF, 0x111D0, 0x1122F, 0x11232, 0x11234, 0x11235, 0x11236, 0x11280, 0x112DF,
  0x112E0, 0x112E3, 0x112F0, 0x11300, 0x11302, 0x1133B, 0x1133D, 0x11340, 0x11341, 0x11366, 0x11400,
  0x11438, 0x11440, 0x11442, 0x11445, 0x11446, 0x11447, 0x1145E, 0x1145F, 0x114B3, 0x114B9, 0x114BA,
  0x114BB, 0x114BF, 0x114C1, 0x114C2, 0x114C4, 0x115B2, 0x115B8, 0x115BC, 0x115BE, 0x115BF, 0x115D8,
  0x115DC, 0x11600, 0x11633, 0x1163B, 0x1163D, 0x1163E, 0x1163F, 0x11644, 0x116AB, 0x116AC, 0x116AD,
  0x116AE, 0x116B0, 0x116B6, 0x116B7, 0x116B8, 0x1171D, 0x11720, 0x11722, 0x11726, 0x11727, 0x11730,
  0x1182F, 0x11838, 0x11839, 0x118C0, 0x1193B, 0x1193D, 0x1193E, 0x1193F, 0x11943, 0x11950, 0x119D4,
  0x119DC, 0x119E0, 0x119E1, 0x11A01, 0x11A07, 0x11A09, 0x11A0B, 0x11A33, 0x11A39, 0x11A3B, 0x11A50,
  0x11A51, 0x11A57, 0x11A59, 0x11A5C, 0x11A8A, 0x11A97, 0x11A98, 0x11A9D, 0x11C30, 0x11C3E, 0x11C92,
  0x11CA9, 0x11CAA, 0x11CB1, 0x11CB2, 0x11CB4, 0x11CB5, 0x11D00, 0x11D31, 0x11D46, 0x11D47, 0x11D50,
  0x11D90, 0x11D93, 0x11D95, 0x11D96, 0x11D97, 0x11D98, 0x11EF3, 0x11EF5, 0x16AF0, 0x16B00, 0x16B30,
  0x16B40, 0x16F4F, 0x16F50, 0x16F8F, 0x16F93, 0x16FE4, 0x16FF0, 0x1BC9D, 0x1DF00, 0x1E000, 0x1E100,
  0x1E130, 0x1E137, 0x1E2AE, 0x1E2C0, 0x1E2EC, 0x1E2F0, 0x1E8D0, 0x1E922, 0x1E944, 0x1E94B]

/-- Whether a letter is a mark that takes no room. -/
def isRoomless (n : Nat) : Bool := Text.inRuns roomlessBounds n

/-- Where the class of letters changes, and what it is from there on. Before the first row it is
zero, which is that of letters that are no marks. -/
def classRows : List (Nat × Nat) :=
  [(0x300, 230), (0x315, 232), (0x316, 220), (0x31A, 232), (0x31B, 216), (0x31C, 220), (0x321, 202),
  (0x323, 220), (0x327, 202), (0x329, 220), (0x334, 1), (0x339, 220), (0x33D, 230), (0x347, 220),
  (0x34A, 230), (0x34D, 220), (0x350, 230), (0x353, 220), (0x357, 230), (0x358, 232), (0x359, 220),
  (0x35B, 230), (0x35C, 233), (0x35D, 234), (0x35F, 233), (0x360, 234), (0x362, 233), (0x363, 230),
  (0x371, 0), (0x483, 230), (0x48B, 0), (0x591, 220), (0x592, 230), (0x596, 220), (0x597, 230),
  (0x59A, 222), (0x59B, 220), (0x59C, 230), (0x5A2, 220), (0x5A8, 230), (0x5AA, 220), (0x5AB, 230),
  (0x5AD, 222), (0x5AE, 228), (0x5AF, 230), (0x5B0, 10), (0x5B1, 11), (0x5B2, 12), (0x5B3, 13),
  (0x5B4, 14), (0x5B5, 15), (0x5B6, 16), (0x5B7, 17), (0x5B8, 18), (0x5B9, 19), (0x5BB, 20),
  (0x5BC, 21), (0x5BD, 22), (0x5BF, 23), (0x5C1, 24), (0x5C2, 25), (0x5C4, 230), (0x5C5, 220),
  (0x5C7, 18), (0x5D0, 0), (0x610, 230), (0x618, 30), (0x619, 31), (0x61A, 32), (0x620, 0),
  (0x64B, 27), (0x64C, 28), (0x64D, 29), (0x64E, 30), (0x64F, 31), (0x650, 32), (0x651, 33),
  (0x652, 34), (0x653, 230), (0x655, 220), (0x657, 230), (0x65C, 220), (0x65D, 230), (0x65F, 220),
  (0x660, 0), (0x670, 35), (0x671, 0), (0x6D6, 230), (0x6E3, 220), (0x6E4, 230), (0x6E5, 0),
  (0x6E7, 230), (0x6EA, 220), (0x6EB, 230), (0x6ED, 220), (0x6EE, 0), (0x711, 36), (0x712, 0),
  (0x730, 230), (0x731, 220), (0x732, 230), (0x734, 220), (0x735, 230), (0x737, 220), (0x73A, 230),
  (0x73B, 220), (0x73D, 230), (0x73E, 220), (0x73F, 230), (0x742, 220), (0x743, 230), (0x744, 220),
  (0x745, 230), (0x746, 220), (0x747, 230), (0x748, 220), (0x749, 230), (0x74D, 0), (0x7EB, 230),
  (0x7F2, 220), (0x7F3, 230), (0x7F4, 0), (0x7FD, 220), (0x800, 0), (0x816, 230), (0x81A, 0),
  (0x81B, 230), (0x824, 0), (0x825, 230), (0x828, 0), (0x829, 230), (0x840, 0), (0x859, 220),
  (0x860, 0), (0x898, 230), (0x899, 220), (0x89C, 230), (0x8A0, 0), (0x8CA, 230), (0x8CF, 220),
  (0x8D4, 230), (0x8E3, 220), (0x8E4, 230), (0x8E6, 220), (0x8E7, 230), (0x8E9, 220), (0x8EA, 230),
  (0x8ED, 220), (0x8F0, 27), (0x8F1, 28), (0x8F2, 29), (0x8F3, 230), (0x8F6, 220), (0x8F7, 230),
  (0x8F9, 220), (0x8FB, 230), (0x900, 0), (0x93C, 7), (0x93D, 0), (0x94D, 9), (0x94E, 0),
  (0x951, 230), (0x952, 220), (0x953, 230), (0x955, 0), (0x9BC, 7), (0x9BD, 0), (0x9CD, 9),
  (0x9CE, 0), (0x9FE, 230), (0xA01, 0), (0xA3C, 7), (0xA3E, 0), (0xA4D, 9), (0xA51, 0), (0xABC, 7),
  (0xABD, 0), (0xACD, 9), (0xAD0, 0), (0xB3C, 7), (0xB3D, 0), (0xB4D, 9), (0xB55, 0), (0xBCD, 9),
  (0xBD0, 0), (0xC3C, 7), (0xC3D, 0), (0xC4D, 9), (0xC55, 84), (0xC56, 91), (0xC58, 0), (0xCBC, 7),
  (0xCBD, 0), (0xCCD, 9), (0xCD5, 0), (0xD3B, 9), (0xD3D, 0), (0xD4D, 9), (0xD4E, 0), (0xDCA, 9),
  (0xDCF, 0), (0xE38, 103), (0xE3A, 9), (0xE40, 0), (0xE48, 107), (0xE4C, 0), (0xEB8, 118),
  (0xEBA, 9), (0xEBB, 0), (0xEC8, 122), (0xECC, 0), (0xF18, 220), (0xF20, 0), (0xF35, 220),
  (0xF39, 216), (0xF3E, 0), (0xF71, 129), (0xF72, 130), (0xF74, 132), (0xF7A, 130), (0xF7E, 0),
  (0xF80, 130), (0xF82, 230), (0xF84, 9), (0xF86, 230), (0xF88, 0), (0xFC6, 220), (0x1000, 0),
  (0x1037, 7), (0x1038, 0), (0x1039, 9), (0x103B, 0), (0x108D, 220), (0x108E, 0), (0x135D, 230),
  (0x1380, 0), (0x1714, 9), (0x171F, 0), (0x1734, 9), (0x1740, 0), (0x17D2, 9), (0x17D3, 0),
  (0x17DD, 230), (0x17E0, 0), (0x18A9, 228), (0x18AA, 0), (0x1939, 222), (0x193A, 230),
  (0x193B, 220), (0x1946, 0), (0x1A17, 230), (0x1A18, 220), (0x1A19, 0), (0x1A60, 9), (0x1A61, 0),
  (0x1A75, 230), (0x1A7F, 220), (0x1A80, 0), (0x1AB0, 230), (0x1AB5, 220), (0x1ABB, 230),
  (0x1ABD, 220), (0x1AC1, 230), (0x1AC3, 220), (0x1AC5, 230), (0x1ACA, 220), (0x1ACB, 230),
  (0x1B00, 0), (0x1B34, 7), (0x1B35, 0), (0x1B44, 9), (0x1B45, 0), (0x1B6B, 230), (0x1B6C, 220),
  (0x1B6D, 230), (0x1B80, 0), (0x1BAA, 9), (0x1BAC, 0), (0x1BE6, 7), (0x1BE7, 0), (0x1BF2, 9),
  (0x1C00, 0), (0x1C37, 7), (0x1C40, 0), (0x1CD0, 230), (0x1CD4, 1), (0x1CD5, 220), (0x1CDA, 230),
  (0x1CDC, 220), (0x1CE0, 230), (0x1CE1, 0), (0x1CE2, 1), (0x1CE9, 0), (0x1CED, 220), (0x1CEE, 0),
  (0x1CF4, 230), (0x1CF5, 0), (0x1CF8, 230), (0x1CFA, 0), (0x1DC0, 230), (0x1DC2, 220),
  (0x1DC3, 230), (0x1DCA, 220), (0x1DCB, 230), (0x1DCD, 234), (0x1DCE, 214), (0x1DCF, 220),
  (0x1DD0, 202), (0x1DD1, 230), (0x1DF6, 232), (0x1DF7, 228), (0x1DF9, 220), (0x1DFA, 218),
  (0x1DFB, 230), (0x1DFC, 233), (0x1DFD, 220), (0x1DFE, 230), (0x1DFF, 220), (0x1E01, 0),
  (0x2CEF, 230), (0x2CF3, 0), (0x2D7F, 9), (0x2D80, 0), (0x2DE0, 230), (0x2E2F, 0), (0x302A, 218),
  (0x302B, 228), (0x302C, 232), (0x302D, 222), (0x303C, 0), (0x3099, 8), (0x309D, 0), (0xA66F, 230),
  (0xA67F, 0), (0xA69E, 230), (0xA6A0, 0), (0xA6F0, 230), (0xA717, 0), (0xA806, 9), (0xA807, 0),
  (0xA82C, 9), (0xA840, 0), (0xA8C4, 9), (0xA8C5, 0), (0xA8E0, 230), (0xA8F2, 0), (0xA92B, 220),
  (0xA930, 0), (0xA953, 9), (0xA980, 0), (0xA9B3, 7), (0xA9B4, 0), (0xA9C0, 9), (0xA9CF, 0),
  (0xAAB0, 230), (0xAAB1, 0), (0xAAB2, 230), (0xAAB4, 220), (0xAAB5, 0), (0xAAB7, 230), (0xAAB9, 0),
  (0xAABE, 230), (0xAAC0, 0), (0xAAC1, 230), (0xAAC2, 0), (0xAAF6, 9), (0xAB01, 0), (0xABED, 9),
  (0xABF0, 0), (0xFB1E, 26), (0xFE20, 230), (0xFE27, 220), (0xFE2E, 230), (0xFE73, 0),
  (0x101FD, 220), (0x10280, 0), (0x102E0, 220), (0x10300, 0), (0x10376, 230), (0x10380, 0),
  (0x10A0D, 220), (0x10A0E, 0), (0x10A0F, 230), (0x10A10, 0), (0x10A38, 230), (0x10A39, 1),
  (0x10A3A, 220), (0x10A3F, 9), (0x10A60, 0), (0x10AE5, 230), (0x10AE6, 220), (0x10B00, 0),
  (0x10D24, 230), (0x10D30, 0), (0x10EAB, 230), (0x10EB0, 0), (0x10F46, 220), (0x10F48, 230),
  (0x10F4B, 220), (0x10F4C, 230), (0x10F4D, 220), (0x10F70, 0), (0x10F82, 230), (0x10F83, 220),
  (0x10F84, 230), (0x10F85, 220), (0x10FB0, 0), (0x11046, 9), (0x11066, 0), (0x11070, 9),
  (0x11071, 0), (0x1107F, 9), (0x11080, 0), (0x110B9, 9), (0x110BA, 7), (0x110C2, 0),
  (0x11100, 230), (0x11103, 0), (0x11133, 9), (0x11136, 0), (0x11173, 7), (0x11176, 0),
  (0x111C0, 9), (0x111C1, 0), (0x111CA, 7), (0x111CB, 0), (0x11235, 9), (0x11236, 7), (0x11237, 0),
  (0x112E9, 7), (0x112EA, 9), (0x112F0, 0), (0x1133B, 7), (0x1133D, 0), (0x1134D, 9), (0x11350, 0),
  (0x11366, 230), (0x11400, 0), (0x11442, 9), (0x11443, 0), (0x11446, 7), (0x11447, 0),
  (0x1145E, 230), (0x1145F, 0), (0x114C2, 9), (0x114C3, 7), (0x114C4, 0), (0x115BF, 9),
  (0x115C0, 7), (0x115D8, 0), (0x1163F, 9), (0x11640, 0), (0x116B6, 9), (0x116B7, 7), (0x116B8, 0),
  (0x1172B, 9), (0x11730, 0), (0x11839, 9), (0x1183A, 7), (0x118C0, 0), (0x1193D, 9), (0x1193F, 0),
  (0x11943, 7), (0x11950, 0), (0x119E0, 9), (0x119E1, 0), (0x11A34, 9), (0x11A35, 0), (0x11A47, 9),
  (0x11A50, 0), (0x11A99, 9), (0x11A9D, 0), (0x11C3F, 9), (0x11C40, 0), (0x11D42, 7), (0x11D43, 0),
  (0x11D44, 9), (0x11D46, 0), (0x11D97, 9), (0x11D98, 0), (0x16AF0, 1), (0x16B00, 0),
  (0x16B30, 230), (0x16B40, 0), (0x16FF0, 6), (0x17000, 0), (0x1BC9E, 1), (0x1CF00, 0),
  (0x1E000, 230), (0x1E100, 0), (0x1E130, 230), (0x1E137, 0), (0x1E2AE, 230), (0x1E2C0, 0),
  (0x1E2EC, 230), (0x1E2F0, 0), (0x1E8D0, 220), (0x1E922, 0), (0x1E944, 230), (0x1E94A, 7),
  (0x1E94B, 0)]

/-- The class of a letter. -/
def markClass (n : Nat) : Nat :=
  classRows.foldl (fun found row => if row.1 ≤ n then row.2 else found) 0

/-- The class of marks that take the vowel from a letter. -/
def vowelKillerClass : Nat := 9

end Montage.HostName
