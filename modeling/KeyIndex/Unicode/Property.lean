import KeyIndex.Unicode.CharSet
import KeyIndex.Unicode.Category
import KeyIndex.Unicode.Script

/-!
# Properties of characters

Properties are looked up by name, without regard to case, spaces, hyphens,
underscores and a leading "is".  A name is that of a yes-or-no property, of a
general category or of a script, in this order.

Main definitions:

- `word`, `digit`, `white`: the three classes with a short escape in patterns.
- `alphabetic`, `alphanumeric`: what a name may be made of.
- `Properties`: a lookup of properties by name.
- `Properties.builtin`: the lookup in the tables here, by `property?` and
  `propertyValue?`.
-/

namespace KeyIndex.Unicode

/-! ## Tables -/

/-- White space. -/
def whiteSpace : List (Nat × Nat) := [
  (0x9, 0xD), (0x20, 0x20), (0x85, 0x85), (0xA0, 0xA0), (0x1680, 0x1680), (0x2000, 0x200A),
  (0x2028, 0x2029), (0x202F, 0x202F), (0x205F, 0x205F), (0x3000, 0x3000)]

/-- The two characters that join or separate their neighbours. -/
def joinControl : List (Nat × Nat) := [
  (0x200C, 0x200D)]

/-- Hexadecimal digits, full-width forms included. -/
def hexDigit : List (Nat × Nat) := [
  (0x30, 0x39), (0x41, 0x46), (0x61, 0x66), (0xFF10, 0xFF19), (0xFF21, 0xFF26),
  (0xFF41, 0xFF46)]

/-- Characters that count as alphabetic without being letters or letter numbers. -/
def otherAlphabetic : List (Nat × Nat) := [
  (0x345, 0x345), (0x5B0, 0x5BD), (0x5BF, 0x5BF), (0x5C1, 0x5C2), (0x5C4, 0x5C5),
  (0x5C7, 0x5C7), (0x610, 0x61A), (0x64B, 0x657), (0x659, 0x65F), (0x670, 0x670),
  (0x6D6, 0x6DC), (0x6E1, 0x6E4), (0x6E7, 0x6E8), (0x6ED, 0x6ED), (0x711, 0x711),
  (0x730, 0x73F), (0x7A6, 0x7B0), (0x816, 0x817), (0x81B, 0x823), (0x825, 0x827),
  (0x829, 0x82C), (0x8D4, 0x8DF), (0x8E3, 0x8E9), (0x8F0, 0x903), (0x93A, 0x93B),
  (0x93E, 0x94C), (0x94E, 0x94F), (0x955, 0x957), (0x962, 0x963), (0x981, 0x983),
  (0x9BE, 0x9C4), (0x9C7, 0x9C8), (0x9CB, 0x9CC), (0x9D7, 0x9D7), (0x9E2, 0x9E3),
  (0xA01, 0xA03), (0xA3E, 0xA42), (0xA47, 0xA48), (0xA4B, 0xA4C), (0xA51, 0xA51),
  (0xA70, 0xA71), (0xA75, 0xA75), (0xA81, 0xA83), (0xABE, 0xAC5), (0xAC7, 0xAC9),
  (0xACB, 0xACC), (0xAE2, 0xAE3), (0xAFA, 0xAFC), (0xB01, 0xB03), (0xB3E, 0xB44),
  (0xB47, 0xB48), (0xB4B, 0xB4C), (0xB56, 0xB57), (0xB62, 0xB63), (0xB82, 0xB82),
  (0xBBE, 0xBC2), (0xBC6, 0xBC8), (0xBCA, 0xBCC), (0xBD7, 0xBD7), (0xC00, 0xC04),
  (0xC3E, 0xC44), (0xC46, 0xC48), (0xC4A, 0xC4C), (0xC55, 0xC56), (0xC62, 0xC63),
  (0xC81, 0xC83), (0xCBE, 0xCC4), (0xCC6, 0xCC8), (0xCCA, 0xCCC), (0xCD5, 0xCD6),
  (0xCE2, 0xCE3), (0xCF3, 0xCF3), (0xD00, 0xD03), (0xD3E, 0xD44), (0xD46, 0xD48),
  (0xD4A, 0xD4C), (0xD57, 0xD57), (0xD62, 0xD63), (0xD81, 0xD83), (0xDCF, 0xDD4),
  (0xDD6, 0xDD6), (0xDD8, 0xDDF), (0xDF2, 0xDF3), (0xE31, 0xE31), (0xE34, 0xE3A),
  (0xE4D, 0xE4D), (0xEB1, 0xEB1), (0xEB4, 0xEB9), (0xEBB, 0xEBC), (0xECD, 0xECD),
  (0xF71, 0xF83), (0xF8D, 0xF97), (0xF99, 0xFBC), (0x102B, 0x1036), (0x1038, 0x1038),
  (0x103B, 0x103E), (0x1056, 0x1059), (0x105E, 0x1060), (0x1062, 0x1064), (0x1067, 0x106D),
  (0x1071, 0x1074), (0x1082, 0x108D), (0x108F, 0x108F), (0x109A, 0x109D), (0x1712, 0x1713),
  (0x1732, 0x1733), (0x1752, 0x1753), (0x1772, 0x1773), (0x17B6, 0x17C8), (0x1885, 0x1886),
  (0x18A9, 0x18A9), (0x1920, 0x192B), (0x1930, 0x1938), (0x1A17, 0x1A1B), (0x1A55, 0x1A5E),
  (0x1A61, 0x1A74), (0x1ABF, 0x1AC0), (0x1ACC, 0x1ACE), (0x1B00, 0x1B04), (0x1B35, 0x1B43),
  (0x1B80, 0x1B82), (0x1BA1, 0x1BA9), (0x1BAC, 0x1BAD), (0x1BE7, 0x1BF1), (0x1C24, 0x1C36),
  (0x1DE7, 0x1DF4), (0x24B6, 0x24E9), (0x2DE0, 0x2DFF), (0xA674, 0xA67B), (0xA69E, 0xA69F),
  (0xA802, 0xA802), (0xA80B, 0xA80B), (0xA823, 0xA827), (0xA880, 0xA881), (0xA8B4, 0xA8C3),
  (0xA8C5, 0xA8C5), (0xA8FF, 0xA8FF), (0xA926, 0xA92A), (0xA947, 0xA952), (0xA980, 0xA983),
  (0xA9B4, 0xA9BF), (0xA9E5, 0xA9E5), (0xAA29, 0xAA36), (0xAA43, 0xAA43), (0xAA4C, 0xAA4D),
  (0xAA7B, 0xAA7D), (0xAAB0, 0xAAB0), (0xAAB2, 0xAAB4), (0xAAB7, 0xAAB8), (0xAABE, 0xAABE),
  (0xAAEB, 0xAAEF), (0xAAF5, 0xAAF5), (0xABE3, 0xABEA), (0xFB1E, 0xFB1E), (0x10376, 0x1037A),
  (0x10A01, 0x10A03), (0x10A05, 0x10A06), (0x10A0C, 0x10A0F), (0x10D24, 0x10D27),
  (0x10D69, 0x10D69), (0x10EAB, 0x10EAC), (0x10EFC, 0x10EFC), (0x11000, 0x11002),
  (0x11038, 0x11045), (0x11073, 0x11074), (0x11080, 0x11082), (0x110B0, 0x110B8),
  (0x110C2, 0x110C2), (0x11100, 0x11102), (0x11127, 0x11132), (0x11145, 0x11146),
  (0x11180, 0x11182), (0x111B3, 0x111BF), (0x111CE, 0x111CF), (0x1122C, 0x11234),
  (0x11237, 0x11237), (0x1123E, 0x1123E), (0x11241, 0x11241), (0x112DF, 0x112E8),
  (0x11300, 0x11303), (0x1133E, 0x11344), (0x11347, 0x11348), (0x1134B, 0x1134C),
  (0x11357, 0x11357), (0x11362, 0x11363), (0x113B8, 0x113C0), (0x113C2, 0x113C2),
  (0x113C5, 0x113C5), (0x113C7, 0x113CA), (0x113CC, 0x113CD), (0x11435, 0x11441),
  (0x11443, 0x11445), (0x114B0, 0x114C1), (0x115AF, 0x115B5), (0x115B8, 0x115BE),
  (0x115DC, 0x115DD), (0x11630, 0x1163E), (0x11640, 0x11640), (0x116AB, 0x116B5),
  (0x1171D, 0x1172A), (0x1182C, 0x11838), (0x11930, 0x11935), (0x11937, 0x11938),
  (0x1193B, 0x1193C), (0x11940, 0x11940), (0x11942, 0x11942), (0x119D1, 0x119D7),
  (0x119DA, 0x119DF), (0x119E4, 0x119E4), (0x11A01, 0x11A0A), (0x11A35, 0x11A39),
  (0x11A3B, 0x11A3E), (0x11A51, 0x11A5B), (0x11A8A, 0x11A97), (0x11C2F, 0x11C36),
  (0x11C38, 0x11C3E), (0x11C92, 0x11CA7), (0x11CA9, 0x11CB6), (0x11D31, 0x11D36),
  (0x11D3A, 0x11D3A), (0x11D3C, 0x11D3D), (0x11D3F, 0x11D41), (0x11D43, 0x11D43),
  (0x11D47, 0x11D47), (0x11D8A, 0x11D8E), (0x11D90, 0x11D91), (0x11D93, 0x11D96),
  (0x11EF3, 0x11EF6), (0x11F00, 0x11F01), (0x11F03, 0x11F03), (0x11F34, 0x11F3A),
  (0x11F3E, 0x11F40), (0x1611E, 0x1612E), (0x16F4F, 0x16F4F), (0x16F51, 0x16F87),
  (0x16F8F, 0x16F92), (0x16FF0, 0x16FF1), (0x1BC9E, 0x1BC9E), (0x1E000, 0x1E006),
  (0x1E008, 0x1E018), (0x1E01B, 0x1E021), (0x1E023, 0x1E024), (0x1E026, 0x1E02A),
  (0x1E08F, 0x1E08F), (0x1E947, 0x1E947), (0x1F130, 0x1F149), (0x1F150, 0x1F169),
  (0x1F170, 0x1F189)]

/-- Characters that count as lower case without being lower-case letters. -/
def otherLowercase : List (Nat × Nat) := [
  (0xAA, 0xAA), (0xBA, 0xBA), (0x2B0, 0x2B8), (0x2C0, 0x2C1), (0x2E0, 0x2E4), (0x345, 0x345),
  (0x37A, 0x37A), (0x10FC, 0x10FC), (0x1D2C, 0x1D6A), (0x1D78, 0x1D78), (0x1D9B, 0x1DBF),
  (0x2071, 0x2071), (0x207F, 0x207F), (0x2090, 0x209C), (0x2170, 0x217F), (0x24D0, 0x24E9),
  (0x2C7C, 0x2C7D), (0xA69C, 0xA69D), (0xA770, 0xA770), (0xA7F2, 0xA7F4), (0xA7F8, 0xA7F9),
  (0xAB5C, 0xAB5F), (0xAB69, 0xAB69), (0x10780, 0x10780), (0x10783, 0x10785),
  (0x10787, 0x107B0), (0x107B2, 0x107BA), (0x1E030, 0x1E06D)]

/-- Characters that count as upper case without being upper-case letters. -/
def otherUppercase : List (Nat × Nat) := [
  (0x2160, 0x216F), (0x24B6, 0x24CF), (0x1F130, 0x1F149), (0x1F150, 0x1F169),
  (0x1F170, 0x1F189)]

/-- Characters that extend the character before them without being marks that take no space. -/
def otherGraphemeExtend : List (Nat × Nat) := [
  (0x9BE, 0x9BE), (0x9D7, 0x9D7), (0xB3E, 0xB3E), (0xB57, 0xB57), (0xBBE, 0xBBE),
  (0xBD7, 0xBD7), (0xCC0, 0xCC0), (0xCC2, 0xCC2), (0xCC7, 0xCC8), (0xCCA, 0xCCB),
  (0xCD5, 0xCD6), (0xD3E, 0xD3E), (0xD57, 0xD57), (0xDCF, 0xDCF), (0xDDF, 0xDDF),
  (0x1715, 0x1715), (0x1734, 0x1734), (0x1B35, 0x1B35), (0x1B3B, 0x1B3B), (0x1B3D, 0x1B3D),
  (0x1B43, 0x1B44), (0x1BAA, 0x1BAA), (0x1BF2, 0x1BF3), (0x200C, 0x200C), (0x302E, 0x302F),
  (0xA953, 0xA953), (0xA9C0, 0xA9C0), (0xFF9E, 0xFF9F), (0x111C0, 0x111C0), (0x11235, 0x11235),
  (0x1133E, 0x1133E), (0x1134D, 0x1134D), (0x11357, 0x11357), (0x113B8, 0x113B8),
  (0x113C2, 0x113C2), (0x113C5, 0x113C5), (0x113C7, 0x113C9), (0x113CF, 0x113CF),
  (0x114B0, 0x114B0), (0x114BD, 0x114BD), (0x115AF, 0x115AF), (0x116B6, 0x116B6),
  (0x11930, 0x11930), (0x1193D, 0x1193D), (0x11F41, 0x11F41), (0x16FF0, 0x16FF1),
  (0x1D165, 0x1D166), (0x1D16D, 0x1D172), (0xE0020, 0xE007F)]

/-- Ideographs. -/
def ideographic : List (Nat × Nat) := [
  (0x3006, 0x3007), (0x3021, 0x3029), (0x3038, 0x303A), (0x3400, 0x4DBF), (0x4E00, 0x9FFF),
  (0xF900, 0xFA6D), (0xFA70, 0xFAD9), (0x16FE4, 0x16FE4), (0x17000, 0x187F7),
  (0x18800, 0x18CD5), (0x18CFF, 0x18D08), (0x1B170, 0x1B2FB), (0x20000, 0x2A6DF),
  (0x2A700, 0x2B739), (0x2B740, 0x2B81D), (0x2B820, 0x2CEA1), (0x2CEB0, 0x2EBE0),
  (0x2EBF0, 0x2EE5D), (0x2F800, 0x2FA1D), (0x30000, 0x3134A), (0x31350, 0x323AF)]

/-- Characters that can be shown as emoji. -/
def emoji : List (Nat × Nat) := [
  (0x23, 0x23), (0x2A, 0x2A), (0x30, 0x39), (0xA9, 0xA9), (0xAE, 0xAE), (0x203C, 0x203C),
  (0x2049, 0x2049), (0x2122, 0x2122), (0x2139, 0x2139), (0x2194, 0x2199), (0x21A9, 0x21AA),
  (0x231A, 0x231B), (0x2328, 0x2328), (0x23CF, 0x23CF), (0x23E9, 0x23F3), (0x23F8, 0x23FA),
  (0x24C2, 0x24C2), (0x25AA, 0x25AB), (0x25B6, 0x25B6), (0x25C0, 0x25C0), (0x25FB, 0x25FE),
  (0x2600, 0x2604), (0x260E, 0x260E), (0x2611, 0x2611), (0x2614, 0x2615), (0x2618, 0x2618),
  (0x261D, 0x261D), (0x2620, 0x2620), (0x2622, 0x2623), (0x2626, 0x2626), (0x262A, 0x262A),
  (0x262E, 0x262F), (0x2638, 0x263A), (0x2640, 0x2640), (0x2642, 0x2642), (0x2648, 0x2653),
  (0x265F, 0x2660), (0x2663, 0x2663), (0x2665, 0x2666), (0x2668, 0x2668), (0x267B, 0x267B),
  (0x267E, 0x267F), (0x2692, 0x2697), (0x2699, 0x2699), (0x269B, 0x269C), (0x26A0, 0x26A1),
  (0x26A7, 0x26A7), (0x26AA, 0x26AB), (0x26B0, 0x26B1), (0x26BD, 0x26BE), (0x26C4, 0x26C5),
  (0x26C8, 0x26C8), (0x26CE, 0x26CF), (0x26D1, 0x26D1), (0x26D3, 0x26D4), (0x26E9, 0x26EA),
  (0x26F0, 0x26F5), (0x26F7, 0x26FA), (0x26FD, 0x26FD), (0x2702, 0x2702), (0x2705, 0x2705),
  (0x2708, 0x270D), (0x270F, 0x270F), (0x2712, 0x2712), (0x2714, 0x2714), (0x2716, 0x2716),
  (0x271D, 0x271D), (0x2721, 0x2721), (0x2728, 0x2728), (0x2733, 0x2734), (0x2744, 0x2744),
  (0x2747, 0x2747), (0x274C, 0x274C), (0x274E, 0x274E), (0x2753, 0x2755), (0x2757, 0x2757),
  (0x2763, 0x2764), (0x2795, 0x2797), (0x27A1, 0x27A1), (0x27B0, 0x27B0), (0x27BF, 0x27BF),
  (0x2934, 0x2935), (0x2B05, 0x2B07), (0x2B1B, 0x2B1C), (0x2B50, 0x2B50), (0x2B55, 0x2B55),
  (0x3030, 0x3030), (0x303D, 0x303D), (0x3297, 0x3297), (0x3299, 0x3299), (0x1F004, 0x1F004),
  (0x1F0CF, 0x1F0CF), (0x1F170, 0x1F171), (0x1F17E, 0x1F17F), (0x1F18E, 0x1F18E),
  (0x1F191, 0x1F19A), (0x1F1E6, 0x1F1FF), (0x1F201, 0x1F202), (0x1F21A, 0x1F21A),
  (0x1F22F, 0x1F22F), (0x1F232, 0x1F23A), (0x1F250, 0x1F251), (0x1F300, 0x1F321),
  (0x1F324, 0x1F393), (0x1F396, 0x1F397), (0x1F399, 0x1F39B), (0x1F39E, 0x1F3F0),
  (0x1F3F3, 0x1F3F5), (0x1F3F7, 0x1F4FD), (0x1F4FF, 0x1F53D), (0x1F549, 0x1F54E),
  (0x1F550, 0x1F567), (0x1F56F, 0x1F570), (0x1F573, 0x1F57A), (0x1F587, 0x1F587),
  (0x1F58A, 0x1F58D), (0x1F590, 0x1F590), (0x1F595, 0x1F596), (0x1F5A4, 0x1F5A5),
  (0x1F5A8, 0x1F5A8), (0x1F5B1, 0x1F5B2), (0x1F5BC, 0x1F5BC), (0x1F5C2, 0x1F5C4),
  (0x1F5D1, 0x1F5D3), (0x1F5DC, 0x1F5DE), (0x1F5E1, 0x1F5E1), (0x1F5E3, 0x1F5E3),
  (0x1F5E8, 0x1F5E8), (0x1F5EF, 0x1F5EF), (0x1F5F3, 0x1F5F3), (0x1F5FA, 0x1F64F),
  (0x1F680, 0x1F6C5), (0x1F6CB, 0x1F6D2), (0x1F6D5, 0x1F6D7), (0x1F6DC, 0x1F6E5),
  (0x1F6E9, 0x1F6E9), (0x1F6EB, 0x1F6EC), (0x1F6F0, 0x1F6F0), (0x1F6F3, 0x1F6FC),
  (0x1F7E0, 0x1F7EB), (0x1F7F0, 0x1F7F0), (0x1F90C, 0x1F93A), (0x1F93C, 0x1F945),
  (0x1F947, 0x1F9FF), (0x1FA70, 0x1FA7C), (0x1FA80, 0x1FA88), (0x1FA90, 0x1FABD),
  (0x1FABF, 0x1FAC5), (0x1FACE, 0x1FADB), (0x1FAE0, 0x1FAE8), (0x1FAF0, 0x1FAF8)]

/-- Dashes and characters used as dashes. -/
def dash : List (Nat × Nat) := [
  (0x2D, 0x2D), (0x58A, 0x58A), (0x5BE, 0x5BE), (0x1400, 0x1400), (0x1806, 0x1806),
  (0x2010, 0x2015), (0x2053, 0x2053), (0x207B, 0x207B), (0x208B, 0x208B), (0x2212, 0x2212),
  (0x2E17, 0x2E17), (0x2E1A, 0x2E1A), (0x2E3A, 0x2E3B), (0x2E40, 0x2E40), (0x2E5D, 0x2E5D),
  (0x301C, 0x301C), (0x3030, 0x3030), (0x30A0, 0x30A0), (0xFE31, 0xFE32), (0xFE58, 0xFE58),
  (0xFE63, 0xFE63), (0xFF0D, 0xFF0D), (0x10D6E, 0x10D6E), (0x10EAD, 0x10EAD)]

/-! ## General categories -/

open Category in
/-- The categories of letters. -/
def letter : CharSet :=
  .unions [.ranges uppercaseLetter, .ranges lowercaseLetter, .ranges titlecaseLetter,
    .ranges modifierLetter, .ranges otherLetter]

open Category in
/-- The categories of letters that have case. -/
def casedLetter : CharSet :=
  .unions [.ranges uppercaseLetter, .ranges lowercaseLetter, .ranges titlecaseLetter]

open Category in
/-- The categories of marks. -/
def mark : CharSet :=
  .unions [.ranges nonspacingMark, .ranges spacingMark, .ranges enclosingMark]

open Category in
/-- The categories of numbers. -/
def number : CharSet :=
  .unions [.ranges decimalNumber, .ranges letterNumber, .ranges otherNumber]

open Category in
/-- The categories of punctuation. -/
def punctuation : CharSet :=
  .unions [.ranges connectorPunctuation, .ranges dashPunctuation, .ranges openPunctuation,
    .ranges closePunctuation, .ranges initialPunctuation, .ranges finalPunctuation,
    .ranges otherPunctuation]

open Category in
/-- The categories of symbols. -/
def symbol : CharSet :=
  .unions [.ranges mathSymbol, .ranges currencySymbol, .ranges modifierSymbol,
    .ranges otherSymbol]

open Category in
/-- The categories of separators. -/
def separator : CharSet :=
  .unions [.ranges spaceSeparator, .ranges lineSeparator, .ranges paragraphSeparator]

/-- The characters that can be seen: letters, marks, numbers, punctuation, symbols. -/
def visible : CharSet := .unions [letter, mark, number, punctuation, symbol]

open Category in
/-- The characters that have a meaning. -/
def assigned : CharSet :=
  .unions [visible, separator, .ranges control, .ranges format, .ranges privateUse]

/-- The code points without a meaning. -/
def unassigned : CharSet := .compl assigned

open Category in
/-- Everything that is neither letter, mark, number, punctuation, symbol nor separator. -/
def other : CharSet := .unions [.ranges control, .ranges format, .ranges privateUse, unassigned]

open Category in
/-- The general categories and groups of them, with their names. -/
def categories : List (List String × CharSet) := [
  (["letter", "l"], letter), (["casedletter", "lc"], casedLetter),
  (["uppercaseletter", "lu"], .ranges uppercaseLetter),
  (["lowercaseletter", "ll"], .ranges lowercaseLetter),
  (["titlecaseletter", "lt"], .ranges titlecaseLetter),
  (["modifierletter", "lm"], .ranges modifierLetter),
  (["otherletter", "lo"], .ranges otherLetter),
  (["mark", "m", "combiningmark"], mark),
  (["nonspacingmark", "mn"], .ranges nonspacingMark),
  (["spacingmark", "mc"], .ranges spacingMark),
  (["enclosingmark", "me"], .ranges enclosingMark),
  (["number", "n"], number),
  (["decimalnumber", "nd", "digit"], .ranges decimalNumber),
  (["letternumber", "nl"], .ranges letterNumber),
  (["othernumber", "no"], .ranges otherNumber),
  (["punctuation", "p", "punct"], punctuation),
  (["connectorpunctuation", "pc"], .ranges connectorPunctuation),
  (["dashpunctuation", "pd"], .ranges dashPunctuation),
  (["openpunctuation", "ps"], .ranges openPunctuation),
  (["closepunctuation", "pe"], .ranges closePunctuation),
  (["initialpunctuation", "pi"], .ranges initialPunctuation),
  (["finalpunctuation", "pf"], .ranges finalPunctuation),
  (["otherpunctuation", "po"], .ranges otherPunctuation),
  (["symbol", "s"], symbol),
  (["mathsymbol", "sm"], .ranges mathSymbol),
  (["currencysymbol", "sc"], .ranges currencySymbol),
  (["modifiersymbol", "sk"], .ranges modifierSymbol),
  (["othersymbol", "so"], .ranges otherSymbol),
  (["separator", "z"], separator),
  (["spaceseparator", "zs"], .ranges spaceSeparator),
  (["lineseparator", "zl"], .ranges lineSeparator),
  (["paragraphseparator", "zp"], .ranges paragraphSeparator),
  (["other", "c"], other),
  (["control", "cc", "cntrl"], .ranges control),
  (["format", "cf"], .ranges format),
  (["privateuse", "co"], .ranges privateUse),
  (["unassigned", "cn"], unassigned),
  (["any"], .all), (["assigned"], assigned), (["ascii"], .ranges [(0, 0x7F)])]

/-! ## Yes-or-no properties -/

/-- Letters, letter numbers, and what counts as alphabetic besides. -/
def alphabetic : CharSet :=
  .unions [letter, .ranges Category.letterNumber, .ranges otherAlphabetic]

/-- Alphabetic characters and numbers. -/
def alphanumeric : CharSet := .union alphabetic number

/-- What words are made of. -/
def word : CharSet :=
  .unions [alphabetic, mark, .ranges Category.decimalNumber,
    .ranges Category.connectorPunctuation, .ranges joinControl]

/-- Decimal digits of all scripts. -/
def digit : CharSet := .ranges Category.decimalNumber

/-- White space of all kinds. -/
def white : CharSet := .ranges whiteSpace

/-- Lower-case characters. -/
def lowercase : CharSet := .union (.ranges Category.lowercaseLetter) (.ranges otherLowercase)

/-- Upper-case characters. -/
def uppercase : CharSet := .union (.ranges Category.uppercaseLetter) (.ranges otherUppercase)

/-- Characters that extend the character before them. -/
def graphemeExtend : CharSet :=
  .unions [.ranges Category.nonspacingMark, .ranges Category.enclosingMark,
    .ranges otherGraphemeExtend]

/-- The yes-or-no properties with their names. -/
def binaryProperties : List (List String × CharSet) := [
  (["alphabetic", "alpha"], alphabetic),
  (["lowercase", "lower"], lowercase),
  (["uppercase", "upper"], uppercase),
  (["cased"], .unions [lowercase, uppercase, .ranges Category.titlecaseLetter]),
  (["whitespace", "wspace", "space"], white),
  (["joincontrol", "joinc"], .ranges joinControl),
  (["hexdigit", "hex"], .ranges hexDigit),
  (["asciihexdigit", "ahex"], .inter (.ranges hexDigit) (.ranges [(0, 0x7F)])),
  (["graphemeextend", "grext"], graphemeExtend),
  (["ideographic", "ideo"], .ranges ideographic),
  (["emoji"], .ranges emoji),
  (["dash"], .ranges dash)]

/-! ## Names -/

/-- A name without a leading "is". -/
def dropIs : List Char → List Char × Bool
  | a :: b :: rest =>
    if (a = 'i' ∨ a = 'I') ∧ (b = 's' ∨ b = 'S') then (rest, true) else (a :: b :: rest, false)
  | cs => (cs, false)

/-- A name as it is looked up: in lower case, without spaces, hyphens and
underscores, without anything beyond ASCII, and without a leading "is".  The one
name that would collide, "isc", keeps its "is". -/
def looseName (name : String) : String :=
  let (cs, is) := dropIs name.toList
  let cs := cs.filter fun c => c.toNat ≤ 0x7F && !(c == ' ' || c == '_' || c == '-')
  let cs := cs.map Char.toLower
  if is ∧ cs = ['c'] then "isc" else .ofList cs

/-- The entry of a name in a list of named sets. -/
def named? (entries : List (List String × CharSet)) (name : String) : Option CharSet :=
  (entries.find? (·.1.contains name)).map (·.2)

/-- The script of a name. -/
def script? (name : String) : Option CharSet :=
  (Script.all.find? (·.names.contains name)).map (.ranges ·.ranges)

/-- The set that a property name stands for. -/
def property? (name : String) : Option CharSet :=
  let name := looseName name
  named? binaryProperties name <|> named? categories name <|> script? name

/-- The set of the characters whose property has a value. -/
def propertyValue? (name value : String) : Option CharSet :=
  let name := looseName name
  let value := looseName value
  if name = "generalcategory" ∨ name = "gc" then named? categories value
  else if name = "script" ∨ name = "sc" then script? value
  else none

/-- A lookup of properties by name.  There are far more properties than those with a
table here, and new ones with every version of Unicode; so whatever looks up a property
takes the lookup as a parameter. -/
structure Properties where
  /-- The set that a property name stands for. -/
  named? : String → Option CharSet
  /-- The set of the characters whose property has a value. -/
  valued? : String → String → Option CharSet

/-- The lookup in the tables here: general categories, scripts, and a dozen of the
yes-or-no properties. -/
def Properties.builtin : Properties where
  named? := property?
  valued? := propertyValue?

end KeyIndex.Unicode
