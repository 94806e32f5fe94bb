import FunctionSynthesis.Text.Word

/-!
# Plain forms of words

Some characters are ASCII letters, digits or low lines in another shape: wide,
raised, in a style of their own, or several joined to one. Words that differ in
such shapes only are the same name. `Text.plainForm` writes them with the ASCII
characters, and leaves a word that consists of those as it is
(`plainForm_of_isAscii`).
-/

namespace FunctionSynthesis.Text

/-- The spans of shapes that stand for one character each: the first one for the
character that is given, and the others for those that follow it. -/
def shapeSpans : List (Nat × Nat × Char) :=
  [(0xAA, 0xAA, 'a'), (0xBA, 0xBA, 'o'), (0x17F, 0x17F, 's'),
    (0x2B0, 0x2B0, 'h'), (0x2B2, 0x2B2, 'j'), (0x2B3, 0x2B3, 'r'),
    (0x2B7, 0x2B7, 'w'), (0x2B8, 0x2B8, 'y'), (0x2E1, 0x2E1, 'l'),
    (0x2E2, 0x2E2, 's'), (0x2E3, 0x2E3, 'x'), (0x1D2C, 0x1D2C, 'A'),
    (0x1D2E, 0x1D2E, 'B'), (0x1D30, 0x1D31, 'D'), (0x1D33, 0x1D3A, 'G'),
    (0x1D3C, 0x1D3C, 'O'), (0x1D3E, 0x1D3E, 'P'), (0x1D3F, 0x1D3F, 'R'),
    (0x1D40, 0x1D41, 'T'), (0x1D42, 0x1D42, 'W'), (0x1D43, 0x1D43, 'a'),
    (0x1D47, 0x1D47, 'b'), (0x1D48, 0x1D49, 'd'), (0x1D4D, 0x1D4D, 'g'),
    (0x1D4F, 0x1D4F, 'k'), (0x1D50, 0x1D50, 'm'), (0x1D52, 0x1D52, 'o'),
    (0x1D56, 0x1D56, 'p'), (0x1D57, 0x1D58, 't'), (0x1D5B, 0x1D5B, 'v'),
    (0x1D62, 0x1D62, 'i'), (0x1D63, 0x1D63, 'r'), (0x1D64, 0x1D65, 'u'),
    (0x1D9C, 0x1D9C, 'c'), (0x1DA0, 0x1DA0, 'f'), (0x1DBB, 0x1DBB, 'z'),
    (0x2071, 0x2071, 'i'), (0x207F, 0x207F, 'n'), (0x2090, 0x2090, 'a'),
    (0x2091, 0x2091, 'e'), (0x2092, 0x2092, 'o'), (0x2093, 0x2093, 'x'),
    (0x2095, 0x2095, 'h'), (0x2096, 0x2099, 'k'), (0x209A, 0x209A, 'p'),
    (0x209B, 0x209C, 's'), (0x2102, 0x2102, 'C'), (0x210A, 0x210A, 'g'),
    (0x210B, 0x210B, 'H'), (0x210C, 0x210C, 'H'), (0x210D, 0x210D, 'H'),
    (0x210E, 0x210E, 'h'), (0x2110, 0x2110, 'I'), (0x2111, 0x2111, 'I'),
    (0x2112, 0x2112, 'L'), (0x2113, 0x2113, 'l'), (0x2115, 0x2115, 'N'),
    (0x2119, 0x211B, 'P'), (0x211C, 0x211C, 'R'), (0x211D, 0x211D, 'R'),
    (0x2124, 0x2124, 'Z'), (0x2128, 0x2128, 'Z'), (0x212A, 0x212A, 'K'),
    (0x212C, 0x212D, 'B'), (0x212F, 0x212F, 'e'), (0x2130, 0x2131, 'E'),
    (0x2133, 0x2133, 'M'), (0x2134, 0x2134, 'o'), (0x2139, 0x2139, 'i'),
    (0x2145, 0x2145, 'D'), (0x2146, 0x2147, 'd'), (0x2148, 0x2149, 'i'),
    (0x2160, 0x2160, 'I'), (0x2164, 0x2164, 'V'), (0x2169, 0x2169, 'X'),
    (0x216C, 0x216C, 'L'), (0x216D, 0x216E, 'C'), (0x216F, 0x216F, 'M'),
    (0x2170, 0x2170, 'i'), (0x2174, 0x2174, 'v'), (0x2179, 0x2179, 'x'),
    (0x217C, 0x217C, 'l'), (0x217D, 0x217E, 'c'), (0x217F, 0x217F, 'm'),
    (0x2C7C, 0x2C7C, 'j'), (0x2C7D, 0x2C7D, 'V'), (0xA7F2, 0xA7F2, 'C'),
    (0xA7F3, 0xA7F3, 'F'), (0xA7F4, 0xA7F4, 'Q'), (0xFE33, 0xFE33, '_'),
    (0xFE34, 0xFE34, '_'), (0xFE4D, 0xFE4D, '_'), (0xFE4E, 0xFE4E, '_'),
    (0xFE4F, 0xFE4F, '_'), (0xFF10, 0xFF19, '0'), (0xFF21, 0xFF3A, 'A'),
    (0xFF3F, 0xFF3F, '_'), (0xFF41, 0xFF5A, 'a'), (0x107A5, 0x107A5, 'q'),
    (0x1D400, 0x1D419, 'A'), (0x1D41A, 0x1D433, 'a'), (0x1D434, 0x1D44D, 'A'),
    (0x1D44E, 0x1D454, 'a'), (0x1D456, 0x1D467, 'i'), (0x1D468, 0x1D481, 'A'),
    (0x1D482, 0x1D49B, 'a'), (0x1D49C, 0x1D49C, 'A'), (0x1D49E, 0x1D49F, 'C'),
    (0x1D4A2, 0x1D4A2, 'G'), (0x1D4A5, 0x1D4A6, 'J'), (0x1D4A9, 0x1D4AC, 'N'),
    (0x1D4AE, 0x1D4B5, 'S'), (0x1D4B6, 0x1D4B9, 'a'), (0x1D4BB, 0x1D4BB, 'f'),
    (0x1D4BD, 0x1D4C3, 'h'), (0x1D4C5, 0x1D4CF, 'p'), (0x1D4D0, 0x1D4E9, 'A'),
    (0x1D4EA, 0x1D503, 'a'), (0x1D504, 0x1D505, 'A'), (0x1D507, 0x1D50A, 'D'),
    (0x1D50D, 0x1D514, 'J'), (0x1D516, 0x1D51C, 'S'), (0x1D51E, 0x1D537, 'a'),
    (0x1D538, 0x1D539, 'A'), (0x1D53B, 0x1D53E, 'D'), (0x1D540, 0x1D544, 'I'),
    (0x1D546, 0x1D546, 'O'), (0x1D54A, 0x1D550, 'S'), (0x1D552, 0x1D56B, 'a'),
    (0x1D56C, 0x1D585, 'A'), (0x1D586, 0x1D59F, 'a'), (0x1D5A0, 0x1D5B9, 'A'),
    (0x1D5BA, 0x1D5D3, 'a'), (0x1D5D4, 0x1D5ED, 'A'), (0x1D5EE, 0x1D607, 'a'),
    (0x1D608, 0x1D621, 'A'), (0x1D622, 0x1D63B, 'a'), (0x1D63C, 0x1D655, 'A'),
    (0x1D656, 0x1D66F, 'a'), (0x1D670, 0x1D689, 'A'), (0x1D68A, 0x1D6A3, 'a'),
    (0x1D7CE, 0x1D7D7, '0'), (0x1D7D8, 0x1D7E1, '0'), (0x1D7E2, 0x1D7EB, '0'),
    (0x1D7EC, 0x1D7F5, '0'), (0x1D7F6, 0x1D7FF, '0'), (0x1FBF0, 0x1FBF9, '0')]

/-- The shapes that stand for several characters. -/
def joinedShapes : List (Nat × String) :=
  [(0x132, "IJ"), (0x133, "ij"), (0x1C7, "LJ"), (0x1C8, "Lj"), (0x1C9, "lj"),
    (0x1CA, "NJ"), (0x1CB, "Nj"), (0x1CC, "nj"), (0x1F1, "DZ"), (0x1F2, "Dz"),
    (0x1F3, "dz"), (0x2161, "II"), (0x2162, "III"), (0x2163, "IV"),
    (0x2165, "VI"), (0x2166, "VII"), (0x2167, "VIII"), (0x2168, "IX"),
    (0x216A, "XI"), (0x216B, "XII"), (0x2171, "ii"), (0x2172, "iii"),
    (0x2173, "iv"), (0x2175, "vi"), (0x2176, "vii"), (0x2177, "viii"),
    (0x2178, "ix"), (0x217A, "xi"), (0x217B, "xii"), (0xFB00, "ff"),
    (0xFB01, "fi"), (0xFB02, "fl"), (0xFB03, "ffi"), (0xFB04, "ffl"),
    (0xFB05, "st"), (0xFB06, "st")]

/-- The ASCII characters that a character is a shape of. Others stand for
themselves. -/
def plainShape (c : Char) : List Char :=
  match shapeSpans.find? fun (first, last, _) => first ≤ c.toNat && c.toNat ≤ last with
  | some (first, _, plain) => [Char.ofNat (plain.toNat + (c.toNat - first))]
  | none =>
      match joinedShapes.lookup c.toNat with
      | some plain => plain.toList
      | none => [c]

/-- Whether a word consists of ASCII characters. -/
def isAscii (word : String) : Bool :=
  word.toList.all fun c => c.toNat < 0x80

/-- A word with ASCII characters in place of their other shapes. -/
def plainForm (word : String) : String :=
  if isAscii word then word
  else String.ofList (word.toList.flatMap plainShape)

theorem plainForm_of_isAscii {word : String} (h : isAscii word = true) :
    plainForm word = word := by
  simp [plainForm, h]

end FunctionSynthesis.Text
