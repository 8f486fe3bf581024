import QueryScan.Text.RangeMap

/-!
# Upper-casing

Words of a query are compared and reported in upper case. The mapping is the full one of
the character standard, without any rule that depends on a language or on neighbouring
characters: most letters map to one code point at a fixed distance, and some to two or
three code points (`ß` to `SS`, `ŉ` to `ʼN`). A few characters that are no letters have a rule
too (`ⅻ`, `ⓐ`). A character without a rule is its own upper case; digits and `_` are of that
kind, and so are the letters of scripts without case.

Upper-casing works character by character, so it distributes over concatenation.

## Main results

* `upperRules_ordered`: the rules are listed in order, so at most one applies to a
  character (`RangeMap.find?_eq_some_iff`).
* `upperCase_append`: upper-casing distributes over concatenation.
-/

namespace QueryScan

/-- How the characters of a range are upper-cased. -/
inductive CaseRule where
  /-- Every member maps to the code point at this distance. -/
  | all (distance : Int)
  /-- Every second member, starting with the first, maps to the code point at this
  distance; the members between them are upper case already. -/
  | alternate (distance : Int)
  /-- The character maps to these code points. -/
  | expand (codes : List Nat)
  deriving DecidableEq, Repr

/-- The upper case of a character that lies in the range of a rule. -/
def CaseRule.apply (rule : CaseRule) (first : Nat) (c : Char) : List Char :=
  match rule with
  | .all distance => [Char.ofNat (c.toNat + distance).toNat]
  | .alternate distance =>
    if (c.toNat - first) % 2 = 0 then [Char.ofNat (c.toNat + distance).toNat] else [c]
  | .expand codes => codes.map Char.ofNat

/-- The case rules of all characters that differ from their upper case. -/
def upperRuleSpans : List (Span CaseRule) :=
  [⟨0x61, 0x7A, .all (-0x20)⟩, ⟨0xB5, 0xB5, .all 0x2E7⟩, ⟨0xDF, 0xDF, .expand [0x53, 0x53]⟩,
  ⟨0xE0, 0xF6, .all (-0x20)⟩, ⟨0xF8, 0xFE, .all (-0x20)⟩, ⟨0xFF, 0xFF, .all 0x79⟩,
  ⟨0x101, 0x12F, .alternate (-0x1)⟩, ⟨0x131, 0x131, .all (-0xE8)⟩,
  ⟨0x133, 0x137, .alternate (-0x1)⟩, ⟨0x13A, 0x148, .alternate (-0x1)⟩,
  ⟨0x149, 0x149, .expand [0x2BC, 0x4E]⟩, ⟨0x14B, 0x177, .alternate (-0x1)⟩,
  ⟨0x17A, 0x17E, .alternate (-0x1)⟩, ⟨0x17F, 0x17F, .all (-0x12C)⟩, ⟨0x180, 0x180, .all 0xC3⟩,
  ⟨0x183, 0x185, .alternate (-0x1)⟩, ⟨0x188, 0x188, .all (-0x1)⟩, ⟨0x18C, 0x18C, .all (-0x1)⟩,
  ⟨0x192, 0x192, .all (-0x1)⟩, ⟨0x195, 0x195, .all 0x61⟩, ⟨0x199, 0x199, .all (-0x1)⟩,
  ⟨0x19A, 0x19A, .all 0xA3⟩, ⟨0x19B, 0x19B, .all 0xA641⟩, ⟨0x19E, 0x19E, .all 0x82⟩,
  ⟨0x1A1, 0x1A5, .alternate (-0x1)⟩, ⟨0x1A8, 0x1A8, .all (-0x1)⟩, ⟨0x1AD, 0x1AD, .all (-0x1)⟩,
  ⟨0x1B0, 0x1B0, .all (-0x1)⟩, ⟨0x1B4, 0x1B6, .alternate (-0x1)⟩, ⟨0x1B9, 0x1B9, .all (-0x1)⟩,
  ⟨0x1BD, 0x1BD, .all (-0x1)⟩, ⟨0x1BF, 0x1BF, .all 0x38⟩, ⟨0x1C5, 0x1C5, .all (-0x1)⟩,
  ⟨0x1C6, 0x1C6, .all (-0x2)⟩, ⟨0x1C8, 0x1C8, .all (-0x1)⟩, ⟨0x1C9, 0x1C9, .all (-0x2)⟩,
  ⟨0x1CB, 0x1CB, .all (-0x1)⟩, ⟨0x1CC, 0x1CC, .all (-0x2)⟩, ⟨0x1CE, 0x1DC, .alternate (-0x1)⟩,
  ⟨0x1DD, 0x1DD, .all (-0x4F)⟩, ⟨0x1DF, 0x1EF, .alternate (-0x1)⟩,
  ⟨0x1F0, 0x1F0, .expand [0x4A, 0x30C]⟩, ⟨0x1F2, 0x1F2, .all (-0x1)⟩, ⟨0x1F3, 0x1F3, .all (-0x2)⟩,
  ⟨0x1F5, 0x1F5, .all (-0x1)⟩, ⟨0x1F9, 0x21F, .alternate (-0x1)⟩,
  ⟨0x223, 0x233, .alternate (-0x1)⟩, ⟨0x23C, 0x23C, .all (-0x1)⟩, ⟨0x23F, 0x240, .all 0x2A3F⟩,
  ⟨0x242, 0x242, .all (-0x1)⟩, ⟨0x247, 0x24F, .alternate (-0x1)⟩, ⟨0x250, 0x250, .all 0x2A1F⟩,
  ⟨0x251, 0x251, .all 0x2A1C⟩, ⟨0x252, 0x252, .all 0x2A1E⟩, ⟨0x253, 0x253, .all (-0xD2)⟩,
  ⟨0x254, 0x254, .all (-0xCE)⟩, ⟨0x256, 0x257, .all (-0xCD)⟩, ⟨0x259, 0x259, .all (-0xCA)⟩,
  ⟨0x25B, 0x25B, .all (-0xCB)⟩, ⟨0x25C, 0x25C, .all 0xA54F⟩, ⟨0x260, 0x260, .all (-0xCD)⟩,
  ⟨0x261, 0x261, .all 0xA54B⟩, ⟨0x263, 0x263, .all (-0xCF)⟩, ⟨0x264, 0x264, .all 0xA567⟩,
  ⟨0x265, 0x265, .all 0xA528⟩, ⟨0x266, 0x266, .all 0xA544⟩, ⟨0x268, 0x268, .all (-0xD1)⟩,
  ⟨0x269, 0x269, .all (-0xD3)⟩, ⟨0x26A, 0x26A, .all 0xA544⟩, ⟨0x26B, 0x26B, .all 0x29F7⟩,
  ⟨0x26C, 0x26C, .all 0xA541⟩, ⟨0x26F, 0x26F, .all (-0xD3)⟩, ⟨0x271, 0x271, .all 0x29FD⟩,
  ⟨0x272, 0x272, .all (-0xD5)⟩, ⟨0x275, 0x275, .all (-0xD6)⟩, ⟨0x27D, 0x27D, .all 0x29E7⟩,
  ⟨0x280, 0x280, .all (-0xDA)⟩, ⟨0x282, 0x282, .all 0xA543⟩, ⟨0x283, 0x283, .all (-0xDA)⟩,
  ⟨0x287, 0x287, .all 0xA52A⟩, ⟨0x288, 0x288, .all (-0xDA)⟩, ⟨0x289, 0x289, .all (-0x45)⟩,
  ⟨0x28A, 0x28B, .all (-0xD9)⟩, ⟨0x28C, 0x28C, .all (-0x47)⟩, ⟨0x292, 0x292, .all (-0xDB)⟩,
  ⟨0x29D, 0x29D, .all 0xA515⟩, ⟨0x29E, 0x29E, .all 0xA512⟩, ⟨0x345, 0x345, .all 0x54⟩,
  ⟨0x371, 0x373, .alternate (-0x1)⟩,
  ⟨0x377, 0x377, .all (-0x1)⟩, ⟨0x37B, 0x37D, .all 0x82⟩,
  ⟨0x390, 0x390, .expand [0x399, 0x308, 0x301]⟩, ⟨0x3AC, 0x3AC, .all (-0x26)⟩,
  ⟨0x3AD, 0x3AF, .all (-0x25)⟩, ⟨0x3B0, 0x3B0, .expand [0x3A5, 0x308, 0x301]⟩,
  ⟨0x3B1, 0x3C1, .all (-0x20)⟩, ⟨0x3C2, 0x3C2, .all (-0x1F)⟩, ⟨0x3C3, 0x3CB, .all (-0x20)⟩,
  ⟨0x3CC, 0x3CC, .all (-0x40)⟩, ⟨0x3CD, 0x3CE, .all (-0x3F)⟩, ⟨0x3D0, 0x3D0, .all (-0x3E)⟩,
  ⟨0x3D1, 0x3D1, .all (-0x39)⟩, ⟨0x3D5, 0x3D5, .all (-0x2F)⟩, ⟨0x3D6, 0x3D6, .all (-0x36)⟩,
  ⟨0x3D7, 0x3D7, .all (-0x8)⟩, ⟨0x3D9, 0x3EF, .alternate (-0x1)⟩, ⟨0x3F0, 0x3F0, .all (-0x56)⟩,
  ⟨0x3F1, 0x3F1, .all (-0x50)⟩, ⟨0x3F2, 0x3F2, .all 0x7⟩, ⟨0x3F3, 0x3F3, .all (-0x74)⟩,
  ⟨0x3F5, 0x3F5, .all (-0x60)⟩, ⟨0x3F8, 0x3F8, .all (-0x1)⟩, ⟨0x3FB, 0x3FB, .all (-0x1)⟩,
  ⟨0x430, 0x44F, .all (-0x20)⟩, ⟨0x450, 0x45F, .all (-0x50)⟩, ⟨0x461, 0x481, .alternate (-0x1)⟩,
  ⟨0x48B, 0x4BF, .alternate (-0x1)⟩, ⟨0x4C2, 0x4CE, .alternate (-0x1)⟩,
  ⟨0x4CF, 0x4CF, .all (-0xF)⟩, ⟨0x4D1, 0x52F, .alternate (-0x1)⟩, ⟨0x561, 0x586, .all (-0x30)⟩,
  ⟨0x587, 0x587, .expand [0x535, 0x552]⟩, ⟨0x10D0, 0x10FA, .all 0xBC0⟩,
  ⟨0x10FD, 0x10FF, .all 0xBC0⟩, ⟨0x13F8, 0x13FD, .all (-0x8)⟩, ⟨0x1C80, 0x1C80, .all (-0x186E)⟩,
  ⟨0x1C81, 0x1C81, .all (-0x186D)⟩, ⟨0x1C82, 0x1C82, .all (-0x1864)⟩,
  ⟨0x1C83, 0x1C84, .all (-0x1862)⟩, ⟨0x1C85, 0x1C85, .all (-0x1863)⟩,
  ⟨0x1C86, 0x1C86, .all (-0x185C)⟩, ⟨0x1C87, 0x1C87, .all (-0x1825)⟩,
  ⟨0x1C88, 0x1C88, .all 0x89C2⟩, ⟨0x1C8A, 0x1C8A, .all (-0x1)⟩, ⟨0x1D79, 0x1D79, .all 0x8A04⟩,
  ⟨0x1D7D, 0x1D7D, .all 0xEE6⟩, ⟨0x1D8E, 0x1D8E, .all 0x8A38⟩,
  ⟨0x1E01, 0x1E95, .alternate (-0x1)⟩, ⟨0x1E96, 0x1E96, .expand [0x48, 0x331]⟩,
  ⟨0x1E97, 0x1E97, .expand [0x54, 0x308]⟩, ⟨0x1E98, 0x1E98, .expand [0x57, 0x30A]⟩,
  ⟨0x1E99, 0x1E99, .expand [0x59, 0x30A]⟩, ⟨0x1E9A, 0x1E9A, .expand [0x41, 0x2BE]⟩,
  ⟨0x1E9B, 0x1E9B, .all (-0x3B)⟩, ⟨0x1EA1, 0x1EFF, .alternate (-0x1)⟩, ⟨0x1F00, 0x1F07, .all 0x8⟩,
  ⟨0x1F10, 0x1F15, .all 0x8⟩, ⟨0x1F20, 0x1F27, .all 0x8⟩, ⟨0x1F30, 0x1F37, .all 0x8⟩,
  ⟨0x1F40, 0x1F45, .all 0x8⟩, ⟨0x1F50, 0x1F50, .expand [0x3A5, 0x313]⟩,
  ⟨0x1F51, 0x1F51, .all 0x8⟩, ⟨0x1F52, 0x1F52, .expand [0x3A5, 0x313, 0x300]⟩,
  ⟨0x1F53, 0x1F53, .all 0x8⟩, ⟨0x1F54, 0x1F54, .expand [0x3A5, 0x313, 0x301]⟩,
  ⟨0x1F55, 0x1F55, .all 0x8⟩, ⟨0x1F56, 0x1F56, .expand [0x3A5, 0x313, 0x342]⟩,
  ⟨0x1F57, 0x1F57, .all 0x8⟩, ⟨0x1F60, 0x1F67, .all 0x8⟩, ⟨0x1F70, 0x1F71, .all 0x4A⟩,
  ⟨0x1F72, 0x1F75, .all 0x56⟩, ⟨0x1F76, 0x1F77, .all 0x64⟩, ⟨0x1F78, 0x1F79, .all 0x80⟩,
  ⟨0x1F7A, 0x1F7B, .all 0x70⟩, ⟨0x1F7C, 0x1F7D, .all 0x7E⟩,
  ⟨0x1F80, 0x1F80, .expand [0x1F08, 0x399]⟩, ⟨0x1F81, 0x1F81, .expand [0x1F09, 0x399]⟩,
  ⟨0x1F82, 0x1F82, .expand [0x1F0A, 0x399]⟩, ⟨0x1F83, 0x1F83, .expand [0x1F0B, 0x399]⟩,
  ⟨0x1F84, 0x1F84, .expand [0x1F0C, 0x399]⟩, ⟨0x1F85, 0x1F85, .expand [0x1F0D, 0x399]⟩,
  ⟨0x1F86, 0x1F86, .expand [0x1F0E, 0x399]⟩, ⟨0x1F87, 0x1F87, .expand [0x1F0F, 0x399]⟩,
  ⟨0x1F88, 0x1F88, .expand [0x1F08, 0x399]⟩, ⟨0x1F89, 0x1F89, .expand [0x1F09, 0x399]⟩,
  ⟨0x1F8A, 0x1F8A, .expand [0x1F0A, 0x399]⟩, ⟨0x1F8B, 0x1F8B, .expand [0x1F0B, 0x399]⟩,
  ⟨0x1F8C, 0x1F8C, .expand [0x1F0C, 0x399]⟩, ⟨0x1F8D, 0x1F8D, .expand [0x1F0D, 0x399]⟩,
  ⟨0x1F8E, 0x1F8E, .expand [0x1F0E, 0x399]⟩, ⟨0x1F8F, 0x1F8F, .expand [0x1F0F, 0x399]⟩,
  ⟨0x1F90, 0x1F90, .expand [0x1F28, 0x399]⟩, ⟨0x1F91, 0x1F91, .expand [0x1F29, 0x399]⟩,
  ⟨0x1F92, 0x1F92, .expand [0x1F2A, 0x399]⟩, ⟨0x1F93, 0x1F93, .expand [0x1F2B, 0x399]⟩,
  ⟨0x1F94, 0x1F94, .expand [0x1F2C, 0x399]⟩, ⟨0x1F95, 0x1F95, .expand [0x1F2D, 0x399]⟩,
  ⟨0x1F96, 0x1F96, .expand [0x1F2E, 0x399]⟩, ⟨0x1F97, 0x1F97, .expand [0x1F2F, 0x399]⟩,
  ⟨0x1F98, 0x1F98, .expand [0x1F28, 0x399]⟩, ⟨0x1F99, 0x1F99, .expand [0x1F29, 0x399]⟩,
  ⟨0x1F9A, 0x1F9A, .expand [0x1F2A, 0x399]⟩, ⟨0x1F9B, 0x1F9B, .expand [0x1F2B, 0x399]⟩,
  ⟨0x1F9C, 0x1F9C, .expand [0x1F2C, 0x399]⟩, ⟨0x1F9D, 0x1F9D, .expand [0x1F2D, 0x399]⟩,
  ⟨0x1F9E, 0x1F9E, .expand [0x1F2E, 0x399]⟩, ⟨0x1F9F, 0x1F9F, .expand [0x1F2F, 0x399]⟩,
  ⟨0x1FA0, 0x1FA0, .expand [0x1F68, 0x399]⟩, ⟨0x1FA1, 0x1FA1, .expand [0x1F69, 0x399]⟩,
  ⟨0x1FA2, 0x1FA2, .expand [0x1F6A, 0x399]⟩, ⟨0x1FA3, 0x1FA3, .expand [0x1F6B, 0x399]⟩,
  ⟨0x1FA4, 0x1FA4, .expand [0x1F6C, 0x399]⟩, ⟨0x1FA5, 0x1FA5, .expand [0x1F6D, 0x399]⟩,
  ⟨0x1FA6, 0x1FA6, .expand [0x1F6E, 0x399]⟩, ⟨0x1FA7, 0x1FA7, .expand [0x1F6F, 0x399]⟩,
  ⟨0x1FA8, 0x1FA8, .expand [0x1F68, 0x399]⟩, ⟨0x1FA9, 0x1FA9, .expand [0x1F69, 0x399]⟩,
  ⟨0x1FAA, 0x1FAA, .expand [0x1F6A, 0x399]⟩, ⟨0x1FAB, 0x1FAB, .expand [0x1F6B, 0x399]⟩,
  ⟨0x1FAC, 0x1FAC, .expand [0x1F6C, 0x399]⟩, ⟨0x1FAD, 0x1FAD, .expand [0x1F6D, 0x399]⟩,
  ⟨0x1FAE, 0x1FAE, .expand [0x1F6E, 0x399]⟩, ⟨0x1FAF, 0x1FAF, .expand [0x1F6F, 0x399]⟩,
  ⟨0x1FB0, 0x1FB1, .all 0x8⟩, ⟨0x1FB2, 0x1FB2, .expand [0x1FBA, 0x399]⟩,
  ⟨0x1FB3, 0x1FB3, .expand [0x391, 0x399]⟩, ⟨0x1FB4, 0x1FB4, .expand [0x386, 0x399]⟩,
  ⟨0x1FB6, 0x1FB6, .expand [0x391, 0x342]⟩, ⟨0x1FB7, 0x1FB7, .expand [0x391, 0x342, 0x399]⟩,
  ⟨0x1FBC, 0x1FBC, .expand [0x391, 0x399]⟩, ⟨0x1FBE, 0x1FBE, .all (-0x1C25)⟩,
  ⟨0x1FC2, 0x1FC2, .expand [0x1FCA, 0x399]⟩, ⟨0x1FC3, 0x1FC3, .expand [0x397, 0x399]⟩,
  ⟨0x1FC4, 0x1FC4, .expand [0x389, 0x399]⟩, ⟨0x1FC6, 0x1FC6, .expand [0x397, 0x342]⟩,
  ⟨0x1FC7, 0x1FC7, .expand [0x397, 0x342, 0x399]⟩, ⟨0x1FCC, 0x1FCC, .expand [0x397, 0x399]⟩,
  ⟨0x1FD0, 0x1FD1, .all 0x8⟩, ⟨0x1FD2, 0x1FD2, .expand [0x399, 0x308, 0x300]⟩,
  ⟨0x1FD3, 0x1FD3, .expand [0x399, 0x308, 0x301]⟩, ⟨0x1FD6, 0x1FD6, .expand [0x399, 0x342]⟩,
  ⟨0x1FD7, 0x1FD7, .expand [0x399, 0x308, 0x342]⟩, ⟨0x1FE0, 0x1FE1, .all 0x8⟩,
  ⟨0x1FE2, 0x1FE2, .expand [0x3A5, 0x308, 0x300]⟩,
  ⟨0x1FE3, 0x1FE3, .expand [0x3A5, 0x308, 0x301]⟩, ⟨0x1FE4, 0x1FE4, .expand [0x3A1, 0x313]⟩,
  ⟨0x1FE5, 0x1FE5, .all 0x7⟩, ⟨0x1FE6, 0x1FE6, .expand [0x3A5, 0x342]⟩,
  ⟨0x1FE7, 0x1FE7, .expand [0x3A5, 0x308, 0x342]⟩, ⟨0x1FF2, 0x1FF2, .expand [0x1FFA, 0x399]⟩,
  ⟨0x1FF3, 0x1FF3, .expand [0x3A9, 0x399]⟩, ⟨0x1FF4, 0x1FF4, .expand [0x38F, 0x399]⟩,
  ⟨0x1FF6, 0x1FF6, .expand [0x3A9, 0x342]⟩, ⟨0x1FF7, 0x1FF7, .expand [0x3A9, 0x342, 0x399]⟩,
  ⟨0x1FFC, 0x1FFC, .expand [0x3A9, 0x399]⟩, ⟨0x214E, 0x214E, .all (-0x1C)⟩,
  ⟨0x2170, 0x217F, .all (-0x10)⟩, ⟨0x2184, 0x2184, .all (-0x1)⟩, ⟨0x24D0, 0x24E9, .all (-0x1A)⟩,
  ⟨0x2C30, 0x2C5F, .all (-0x30)⟩, ⟨0x2C61, 0x2C61, .all (-0x1)⟩,
  ⟨0x2C65, 0x2C65, .all (-0x2A2B)⟩, ⟨0x2C66, 0x2C66, .all (-0x2A28)⟩,
  ⟨0x2C68, 0x2C6C, .alternate (-0x1)⟩, ⟨0x2C73, 0x2C73, .all (-0x1)⟩,
  ⟨0x2C76, 0x2C76, .all (-0x1)⟩, ⟨0x2C81, 0x2CE3, .alternate (-0x1)⟩,
  ⟨0x2CEC, 0x2CEE, .alternate (-0x1)⟩, ⟨0x2CF3, 0x2CF3, .all (-0x1)⟩,
  ⟨0x2D00, 0x2D25, .all (-0x1C60)⟩, ⟨0x2D27, 0x2D27, .all (-0x1C60)⟩,
  ⟨0x2D2D, 0x2D2D, .all (-0x1C60)⟩, ⟨0xA641, 0xA66D, .alternate (-0x1)⟩,
  ⟨0xA681, 0xA69B, .alternate (-0x1)⟩, ⟨0xA723, 0xA72F, .alternate (-0x1)⟩,
  ⟨0xA733, 0xA76F, .alternate (-0x1)⟩, ⟨0xA77A, 0xA77C, .alternate (-0x1)⟩,
  ⟨0xA77F, 0xA787, .alternate (-0x1)⟩, ⟨0xA78C, 0xA78C, .all (-0x1)⟩,
  ⟨0xA791, 0xA793, .alternate (-0x1)⟩, ⟨0xA794, 0xA794, .all 0x30⟩,
  ⟨0xA797, 0xA7A9, .alternate (-0x1)⟩, ⟨0xA7B5, 0xA7C3, .alternate (-0x1)⟩,
  ⟨0xA7C8, 0xA7CA, .alternate (-0x1)⟩, ⟨0xA7CD, 0xA7CD, .all (-0x1)⟩,
  ⟨0xA7D1, 0xA7DB, .alternate (-0x1)⟩, ⟨0xA7F6, 0xA7F6, .all (-0x1)⟩,
  ⟨0xAB53, 0xAB53, .all (-0x3A0)⟩, ⟨0xAB70, 0xABBF, .all (-0x97D0)⟩,
  ⟨0xFB00, 0xFB00, .expand [0x46, 0x46]⟩, ⟨0xFB01, 0xFB01, .expand [0x46, 0x49]⟩,
  ⟨0xFB02, 0xFB02, .expand [0x46, 0x4C]⟩, ⟨0xFB03, 0xFB03, .expand [0x46, 0x46, 0x49]⟩,
  ⟨0xFB04, 0xFB04, .expand [0x46, 0x46, 0x4C]⟩, ⟨0xFB05, 0xFB05, .expand [0x53, 0x54]⟩,
  ⟨0xFB06, 0xFB06, .expand [0x53, 0x54]⟩, ⟨0xFB13, 0xFB13, .expand [0x544, 0x546]⟩,
  ⟨0xFB14, 0xFB14, .expand [0x544, 0x535]⟩, ⟨0xFB15, 0xFB15, .expand [0x544, 0x53B]⟩,
  ⟨0xFB16, 0xFB16, .expand [0x54E, 0x546]⟩, ⟨0xFB17, 0xFB17, .expand [0x544, 0x53D]⟩,
  ⟨0xFF41, 0xFF5A, .all (-0x20)⟩, ⟨0x10428, 0x1044F, .all (-0x28)⟩,
  ⟨0x104D8, 0x104FB, .all (-0x28)⟩, ⟨0x10597, 0x105A1, .all (-0x27)⟩,
  ⟨0x105A3, 0x105B1, .all (-0x27)⟩, ⟨0x105B3, 0x105B9, .all (-0x27)⟩,
  ⟨0x105BB, 0x105BC, .all (-0x27)⟩, ⟨0x10CC0, 0x10CF2, .all (-0x40)⟩,
  ⟨0x10D70, 0x10D85, .all (-0x20)⟩, ⟨0x118C0, 0x118DF, .all (-0x20)⟩,
  ⟨0x16E60, 0x16E7F, .all (-0x20)⟩, ⟨0x1E922, 0x1E943, .all (-0x22)⟩]

/-- The case rules, indexed for lookup. -/
def upperRules : RangeMap CaseRule :=
  .ofList upperRuleSpans

/-- The ranges of the rules stand in increasing order and do not meet. -/
theorem upperRules_ordered : Span.ordered 0 upperRules.toList = true := by
  decide +kernel

/-- The upper case of one character. -/
def upperChar (c : Char) : List Char :=
  match upperRules.find? c.toNat with
  | some span => span.value.apply span.first c
  | none => [c]

/-- The upper case of a text, character by character. -/
def upperCase (cs : List Char) : List Char :=
  cs.flatMap upperChar

/-- The empty text is its own upper case. -/
@[simp] theorem upperCase_nil : upperCase [] = [] := rfl

/-- The first character of a text is upper-cased by itself. -/
@[simp] theorem upperCase_cons (c : Char) (cs : List Char) :
    upperCase (c :: cs) = upperChar c ++ upperCase cs := rfl

/-- Upper-casing distributes over concatenation. -/
@[simp] theorem upperCase_append (cs ds : List Char) :
    upperCase (cs ++ ds) = upperCase cs ++ upperCase ds := by
  simp [upperCase]

end QueryScan
