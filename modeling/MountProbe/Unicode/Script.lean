import MountProbe.Unicode.Ranges

namespace MountProbe.Unicode

/-- The names of each script, in small letters without separators. A script's number is its place
here. -/
def scriptNames : List (List String) := [
  ["adlm", "adlam"], ["ahom"], ["hluw", "anatolianhieroglyphs"], ["arab", "arabic"],
  ["armn", "armenian"], ["avst", "avestan"], ["bali", "balinese"], ["bamu", "bamum"],
  ["bass", "bassavah"], ["batk", "batak"], ["beng", "bengali"], ["bhks", "bhaiksuki"],
  ["bopo", "bopomofo"], ["brah", "brahmi"], ["brai", "braille"], ["bugi", "buginese"],
  ["buhd", "buhid"], ["cans", "canadianaboriginal"], ["cari", "carian"],
  ["aghb", "caucasianalbanian"], ["cakm", "chakma"], ["cham"], ["cher", "cherokee"],
  ["chrs", "chorasmian"], ["zyyy", "common"], ["copt", "coptic", "qaac"], ["xsux", "cuneiform"],
  ["cprt", "cypriot"], ["cpmn", "cyprominoan"], ["cyrl", "cyrillic"], ["dsrt", "deseret"],
  ["deva", "devanagari"], ["diak", "divesakuru"], ["dogr", "dogra"], ["dupl", "duployan"],
  ["egyp", "egyptianhieroglyphs"], ["elba", "elbasan"], ["elym", "elymaic"], ["ethi", "ethiopic"],
  ["geor", "georgian"], ["glag", "glagolitic"], ["goth", "gothic"], ["gran", "grantha"],
  ["grek", "greek"], ["gujr", "gujarati"], ["gong", "gunjalagondi"], ["guru", "gurmukhi"],
  ["hani", "han"], ["hang", "hangul"], ["rohg", "hanifirohingya"], ["hano", "hanunoo"],
  ["hatr", "hatran"], ["hebr", "hebrew"], ["hira", "hiragana"], ["armi", "imperialaramaic"],
  ["zinh", "inherited", "qaai"], ["phli", "inscriptionalpahlavi"],
  ["prti", "inscriptionalparthian"], ["java", "javanese"], ["kthi", "kaithi"], ["knda", "kannada"],
  ["kana", "katakana"], ["kawi"], ["kali", "kayahli"], ["khar", "kharoshthi"],
  ["kits", "khitansmallscript"], ["khmr", "khmer"], ["khoj", "khojki"], ["sind", "khudawadi"],
  ["laoo", "lao"], ["latn", "latin"], ["lepc", "lepcha"], ["limb", "limbu"], ["lina", "lineara"],
  ["linb", "linearb"], ["lisu"], ["lyci", "lycian"], ["lydi", "lydian"], ["mahj", "mahajani"],
  ["maka", "makasar"], ["mlym", "malayalam"], ["mand", "mandaic"], ["mani", "manichaean"],
  ["marc", "marchen"], ["gonm", "masaramgondi"], ["medf", "medefaidrin"], ["mtei", "meeteimayek"],
  ["mend", "mendekikakui"], ["merc", "meroiticcursive"], ["mero", "meroitichieroglyphs"],
  ["plrd", "miao"], ["modi"], ["mong", "mongolian"], ["mroo", "mro"], ["mult", "multani"],
  ["mymr", "myanmar"], ["nbat", "nabataean"], ["nagm", "nagmundari"], ["nand", "nandinagari"],
  ["talu", "newtailue"], ["newa"], ["nkoo", "nko"], ["nshu", "nushu"],
  ["hmnp", "nyiakengpuachuehmong"], ["ogam", "ogham"], ["olck", "olchiki"],
  ["hung", "oldhungarian"], ["ital", "olditalic"], ["narb", "oldnortharabian"],
  ["perm", "oldpermic"], ["xpeo", "oldpersian"], ["sogo", "oldsogdian"],
  ["sarb", "oldsoutharabian"], ["orkh", "oldturkic"], ["ougr", "olduyghur"], ["orya", "oriya"],
  ["osge", "osage"], ["osma", "osmanya"], ["hmng", "pahawhhmong"], ["palm", "palmyrene"],
  ["pauc", "paucinhau"], ["phag", "phagspa"], ["phnx", "phoenician"], ["phlp", "psalterpahlavi"],
  ["rjng", "rejang"], ["runr", "runic"], ["samr", "samaritan"], ["saur", "saurashtra"],
  ["shrd", "sharada"], ["shaw", "shavian"], ["sidd", "siddham"], ["sgnw", "signwriting"],
  ["sinh", "sinhala"], ["sogd", "sogdian"], ["sora", "sorasompeng"], ["soyo", "soyombo"],
  ["sund", "sundanese"], ["sylo", "sylotinagri"], ["syrc", "syriac"], ["tglg", "tagalog"],
  ["tagb", "tagbanwa"], ["tale", "taile"], ["lana", "taitham"], ["tavt", "taiviet"],
  ["takr", "takri"], ["taml", "tamil"], ["tnsa", "tangsa"], ["tang", "tangut"], ["telu", "telugu"],
  ["thaa", "thaana"], ["thai"], ["tibt", "tibetan"], ["tfng", "tifinagh"], ["tirh", "tirhuta"],
  ["toto"], ["ugar", "ugaritic"], ["vaii", "vai"], ["vith", "vithkuqi"], ["wcho", "wancho"],
  ["wara", "warangciti"], ["yezi", "yezidi"], ["yiii", "yi"], ["zanb", "zanabazarsquare"]]

set_option maxRecDepth 20000 in
/-- Ranges of characters of one script: first, last, and the script's number. -/
def scriptTable : List (Nat × Nat × Nat) := [
  (0x0, 0x40, 24), (0x41, 0x5A, 70), (0x5B, 0x60, 24), (0x61, 0x7A, 70), (0x7B, 0xA9, 24),
  (0xAA, 0xAA, 70), (0xAB, 0xB9, 24), (0xBA, 0xBA, 70), (0xBB, 0xBF, 24), (0xC0, 0xD6, 70),
  (0xD7, 0xD7, 24), (0xD8, 0xF6, 70), (0xF7, 0xF7, 24), (0xF8, 0x2B8, 70), (0x2B9, 0x2DF, 24),
  (0x2E0, 0x2E4, 70), (0x2E5, 0x2E9, 24), (0x2EA, 0x2EB, 12), (0x2EC, 0x2FF, 24),
  (0x300, 0x36F, 55), (0x370, 0x373, 43), (0x374, 0x374, 24), (0x375, 0x377, 43),
  (0x37A, 0x37D, 43), (0x37E, 0x37E, 24), (0x37F, 0x37F, 43), (0x384, 0x384, 43),
  (0x385, 0x385, 24), (0x386, 0x386, 43), (0x387, 0x387, 24), (0x388, 0x38A, 43),
  (0x38C, 0x38C, 43), (0x38E, 0x3A1, 43), (0x3A3, 0x3E1, 43), (0x3E2, 0x3EF, 25),
  (0x3F0, 0x3FF, 43), (0x400, 0x484, 29), (0x485, 0x486, 55), (0x487, 0x52F, 29),
  (0x531, 0x556, 4), (0x559, 0x58A, 4), (0x58D, 0x58F, 4), (0x591, 0x5C7, 52), (0x5D0, 0x5EA, 52),
  (0x5EF, 0x5F4, 52), (0x600, 0x604, 3), (0x605, 0x605, 24), (0x606, 0x60B, 3), (0x60C, 0x60C, 24),
  (0x60D, 0x61A, 3), (0x61B, 0x61B, 24), (0x61C, 0x61E, 3), (0x61F, 0x61F, 24), (0x620, 0x63F, 3),
  (0x640, 0x640, 24), (0x641, 0x64A, 3), (0x64B, 0x655, 55), (0x656, 0x66F, 3), (0x670, 0x670, 55),
  (0x671, 0x6DC, 3), (0x6DD, 0x6DD, 24), (0x6DE, 0x6FF, 3), (0x700, 0x70D, 138),
  (0x70F, 0x74A, 138), (0x74D, 0x74F, 138), (0x750, 0x77F, 3), (0x780, 0x7B1, 149),
  (0x7C0, 0x7FA, 101), (0x7FD, 0x7FF, 101), (0x800, 0x82D, 126), (0x830, 0x83E, 126),
  (0x840, 0x85B, 81), (0x85E, 0x85E, 81), (0x860, 0x86A, 138), (0x870, 0x88E, 3),
  (0x890, 0x891, 3), (0x898, 0x8E1, 3), (0x8E2, 0x8E2, 24), (0x8E3, 0x8FF, 3), (0x900, 0x950, 31),
  (0x951, 0x954, 55), (0x955, 0x963, 31), (0x964, 0x965, 24), (0x966, 0x97F, 31),
  (0x980, 0x983, 10), (0x985, 0x98C, 10), (0x98F, 0x990, 10), (0x993, 0x9A8, 10),
  (0x9AA, 0x9B0, 10), (0x9B2, 0x9B2, 10), (0x9B6, 0x9B9, 10), (0x9BC, 0x9C4, 10),
  (0x9C7, 0x9C8, 10), (0x9CB, 0x9CE, 10), (0x9D7, 0x9D7, 10), (0x9DC, 0x9DD, 10),
  (0x9DF, 0x9E3, 10), (0x9E6, 0x9FE, 10), (0xA01, 0xA03, 46), (0xA05, 0xA0A, 46),
  (0xA0F, 0xA10, 46), (0xA13, 0xA28, 46), (0xA2A, 0xA30, 46), (0xA32, 0xA33, 46),
  (0xA35, 0xA36, 46), (0xA38, 0xA39, 46), (0xA3C, 0xA3C, 46), (0xA3E, 0xA42, 46),
  (0xA47, 0xA48, 46), (0xA4B, 0xA4D, 46), (0xA51, 0xA51, 46), (0xA59, 0xA5C, 46),
  (0xA5E, 0xA5E, 46), (0xA66, 0xA76, 46), (0xA81, 0xA83, 44), (0xA85, 0xA8D, 44),
  (0xA8F, 0xA91, 44), (0xA93, 0xAA8, 44), (0xAAA, 0xAB0, 44), (0xAB2, 0xAB3, 44),
  (0xAB5, 0xAB9, 44), (0xABC, 0xAC5, 44), (0xAC7, 0xAC9, 44), (0xACB, 0xACD, 44),
  (0xAD0, 0xAD0, 44), (0xAE0, 0xAE3, 44), (0xAE6, 0xAF1, 44), (0xAF9, 0xAFF, 44),
  (0xB01, 0xB03, 115), (0xB05, 0xB0C, 115), (0xB0F, 0xB10, 115), (0xB13, 0xB28, 115),
  (0xB2A, 0xB30, 115), (0xB32, 0xB33, 115), (0xB35, 0xB39, 115), (0xB3C, 0xB44, 115),
  (0xB47, 0xB48, 115), (0xB4B, 0xB4D, 115), (0xB55, 0xB57, 115), (0xB5C, 0xB5D, 115),
  (0xB5F, 0xB63, 115), (0xB66, 0xB77, 115), (0xB82, 0xB83, 145), (0xB85, 0xB8A, 145),
  (0xB8E, 0xB90, 145), (0xB92, 0xB95, 145), (0xB99, 0xB9A, 145), (0xB9C, 0xB9C, 145),
  (0xB9E, 0xB9F, 145), (0xBA3, 0xBA4, 145), (0xBA8, 0xBAA, 145), (0xBAE, 0xBB9, 145),
  (0xBBE, 0xBC2, 145), (0xBC6, 0xBC8, 145), (0xBCA, 0xBCD, 145), (0xBD0, 0xBD0, 145),
  (0xBD7, 0xBD7, 145), (0xBE6, 0xBFA, 145), (0xC00, 0xC0C, 148), (0xC0E, 0xC10, 148),
  (0xC12, 0xC28, 148), (0xC2A, 0xC39, 148), (0xC3C, 0xC44, 148), (0xC46, 0xC48, 148),
  (0xC4A, 0xC4D, 148), (0xC55, 0xC56, 148), (0xC58, 0xC5A, 148), (0xC5D, 0xC5D, 148),
  (0xC60, 0xC63, 148), (0xC66, 0xC6F, 148), (0xC77, 0xC7F, 148), (0xC80, 0xC8C, 60),
  (0xC8E, 0xC90, 60), (0xC92, 0xCA8, 60), (0xCAA, 0xCB3, 60), (0xCB5, 0xCB9, 60),
  (0xCBC, 0xCC4, 60), (0xCC6, 0xCC8, 60), (0xCCA, 0xCCD, 60), (0xCD5, 0xCD6, 60),
  (0xCDD, 0xCDE, 60), (0xCE0, 0xCE3, 60), (0xCE6, 0xCEF, 60), (0xCF1, 0xCF3, 60),
  (0xD00, 0xD0C, 80), (0xD0E, 0xD10, 80), (0xD12, 0xD44, 80), (0xD46, 0xD48, 80),
  (0xD4A, 0xD4F, 80), (0xD54, 0xD63, 80), (0xD66, 0xD7F, 80), (0xD81, 0xD83, 132),
  (0xD85, 0xD96, 132), (0xD9A, 0xDB1, 132), (0xDB3, 0xDBB, 132), (0xDBD, 0xDBD, 132),
  (0xDC0, 0xDC6, 132), (0xDCA, 0xDCA, 132), (0xDCF, 0xDD4, 132), (0xDD6, 0xDD6, 132),
  (0xDD8, 0xDDF, 132), (0xDE6, 0xDEF, 132), (0xDF2, 0xDF4, 132), (0xE01, 0xE3A, 150),
  (0xE3F, 0xE3F, 24), (0xE40, 0xE5B, 150), (0xE81, 0xE82, 69), (0xE84, 0xE84, 69),
  (0xE86, 0xE8A, 69), (0xE8C, 0xEA3, 69), (0xEA5, 0xEA5, 69), (0xEA7, 0xEBD, 69),
  (0xEC0, 0xEC4, 69), (0xEC6, 0xEC6, 69), (0xEC8, 0xECE, 69), (0xED0, 0xED9, 69),
  (0xEDC, 0xEDF, 69), (0xF00, 0xF47, 151), (0xF49, 0xF6C, 151), (0xF71, 0xF97, 151),
  (0xF99, 0xFBC, 151), (0xFBE, 0xFCC, 151), (0xFCE, 0xFD4, 151), (0xFD5, 0xFD8, 24),
  (0xFD9, 0xFDA, 151), (0x1000, 0x109F, 95), (0x10A0, 0x10C5, 39), (0x10C7, 0x10C7, 39),
  (0x10CD, 0x10CD, 39), (0x10D0, 0x10FA, 39), (0x10FB, 0x10FB, 24), (0x10FC, 0x10FF, 39),
  (0x1100, 0x11FF, 48), (0x1200, 0x1248, 38), (0x124A, 0x124D, 38), (0x1250, 0x1256, 38),
  (0x1258, 0x1258, 38), (0x125A, 0x125D, 38), (0x1260, 0x1288, 38), (0x128A, 0x128D, 38),
  (0x1290, 0x12B0, 38), (0x12B2, 0x12B5, 38), (0x12B8, 0x12BE, 38), (0x12C0, 0x12C0, 38),
  (0x12C2, 0x12C5, 38), (0x12C8, 0x12D6, 38), (0x12D8, 0x1310, 38), (0x1312, 0x1315, 38),
  (0x1318, 0x135A, 38), (0x135D, 0x137C, 38), (0x1380, 0x1399, 38), (0x13A0, 0x13F5, 22),
  (0x13F8, 0x13FD, 22), (0x1400, 0x167F, 17), (0x1680, 0x169C, 104), (0x16A0, 0x16EA, 125),
  (0x16EB, 0x16ED, 24), (0x16EE, 0x16F8, 125), (0x1700, 0x1715, 139), (0x171F, 0x171F, 139),
  (0x1720, 0x1734, 50), (0x1735, 0x1736, 24), (0x1740, 0x1753, 16), (0x1760, 0x176C, 140),
  (0x176E, 0x1770, 140), (0x1772, 0x1773, 140), (0x1780, 0x17DD, 66), (0x17E0, 0x17E9, 66),
  (0x17F0, 0x17F9, 66), (0x1800, 0x1801, 92), (0x1802, 0x1803, 24), (0x1804, 0x1804, 92),
  (0x1805, 0x1805, 24), (0x1806, 0x1819, 92), (0x1820, 0x1878, 92), (0x1880, 0x18AA, 92),
  (0x18B0, 0x18F5, 17), (0x1900, 0x191E, 72), (0x1920, 0x192B, 72), (0x1930, 0x193B, 72),
  (0x1940, 0x1940, 72), (0x1944, 0x194F, 72), (0x1950, 0x196D, 141), (0x1970, 0x1974, 141),
  (0x1980, 0x19AB, 99), (0x19B0, 0x19C9, 99), (0x19D0, 0x19DA, 99), (0x19DE, 0x19DF, 99),
  (0x19E0, 0x19FF, 66), (0x1A00, 0x1A1B, 15), (0x1A1E, 0x1A1F, 15), (0x1A20, 0x1A5E, 142),
  (0x1A60, 0x1A7C, 142), (0x1A7F, 0x1A89, 142), (0x1A90, 0x1A99, 142), (0x1AA0, 0x1AAD, 142),
  (0x1AB0, 0x1ACE, 55), (0x1B00, 0x1B4C, 6), (0x1B50, 0x1B7E, 6), (0x1B80, 0x1BBF, 136),
  (0x1BC0, 0x1BF3, 9), (0x1BFC, 0x1BFF, 9), (0x1C00, 0x1C37, 71), (0x1C3B, 0x1C49, 71),
  (0x1C4D, 0x1C4F, 71), (0x1C50, 0x1C7F, 105), (0x1C80, 0x1C88, 29), (0x1C90, 0x1CBA, 39),
  (0x1CBD, 0x1CBF, 39), (0x1CC0, 0x1CC7, 136), (0x1CD0, 0x1CD2, 55), (0x1CD3, 0x1CD3, 24),
  (0x1CD4, 0x1CE0, 55), (0x1CE1, 0x1CE1, 24), (0x1CE2, 0x1CE8, 55), (0x1CE9, 0x1CEC, 24),
  (0x1CED, 0x1CED, 55), (0x1CEE, 0x1CF3, 24), (0x1CF4, 0x1CF4, 55), (0x1CF5, 0x1CF7, 24),
  (0x1CF8, 0x1CF9, 55), (0x1CFA, 0x1CFA, 24), (0x1D00, 0x1D25, 70), (0x1D26, 0x1D2A, 43),
  (0x1D2B, 0x1D2B, 29), (0x1D2C, 0x1D5C, 70), (0x1D5D, 0x1D61, 43), (0x1D62, 0x1D65, 70),
  (0x1D66, 0x1D6A, 43), (0x1D6B, 0x1D77, 70), (0x1D78, 0x1D78, 29), (0x1D79, 0x1DBE, 70),
  (0x1DBF, 0x1DBF, 43), (0x1DC0, 0x1DFF, 55), (0x1E00, 0x1EFF, 70), (0x1F00, 0x1F15, 43),
  (0x1F18, 0x1F1D, 43), (0x1F20, 0x1F45, 43), (0x1F48, 0x1F4D, 43), (0x1F50, 0x1F57, 43),
  (0x1F59, 0x1F59, 43), (0x1F5B, 0x1F5B, 43), (0x1F5D, 0x1F5D, 43), (0x1F5F, 0x1F7D, 43),
  (0x1F80, 0x1FB4, 43), (0x1FB6, 0x1FC4, 43), (0x1FC6, 0x1FD3, 43), (0x1FD6, 0x1FDB, 43),
  (0x1FDD, 0x1FEF, 43), (0x1FF2, 0x1FF4, 43), (0x1FF6, 0x1FFE, 43), (0x2000, 0x200B, 24),
  (0x200C, 0x200D, 55), (0x200E, 0x2064, 24), (0x2066, 0x2070, 24), (0x2071, 0x2071, 70),
  (0x2074, 0x207E, 24), (0x207F, 0x207F, 70), (0x2080, 0x208E, 24), (0x2090, 0x209C, 70),
  (0x20A0, 0x20C0, 24), (0x20D0, 0x20F0, 55), (0x2100, 0x2125, 24), (0x2126, 0x2126, 43),
  (0x2127, 0x2129, 24), (0x212A, 0x212B, 70), (0x212C, 0x2131, 24), (0x2132, 0x2132, 70),
  (0x2133, 0x214D, 24), (0x214E, 0x214E, 70), (0x214F, 0x215F, 24), (0x2160, 0x2188, 70),
  (0x2189, 0x218B, 24), (0x2190, 0x2426, 24), (0x2440, 0x244A, 24), (0x2460, 0x27FF, 24),
  (0x2800, 0x28FF, 14), (0x2900, 0x2B73, 24), (0x2B76, 0x2B95, 24), (0x2B97, 0x2BFF, 24),
  (0x2C00, 0x2C5F, 40), (0x2C60, 0x2C7F, 70), (0x2C80, 0x2CF3, 25), (0x2CF9, 0x2CFF, 25),
  (0x2D00, 0x2D25, 39), (0x2D27, 0x2D27, 39), (0x2D2D, 0x2D2D, 39), (0x2D30, 0x2D67, 152),
  (0x2D6F, 0x2D70, 152), (0x2D7F, 0x2D7F, 152), (0x2D80, 0x2D96, 38), (0x2DA0, 0x2DA6, 38),
  (0x2DA8, 0x2DAE, 38), (0x2DB0, 0x2DB6, 38), (0x2DB8, 0x2DBE, 38), (0x2DC0, 0x2DC6, 38),
  (0x2DC8, 0x2DCE, 38), (0x2DD0, 0x2DD6, 38), (0x2DD8, 0x2DDE, 38), (0x2DE0, 0x2DFF, 29),
  (0x2E00, 0x2E5D, 24), (0x2E80, 0x2E99, 47), (0x2E9B, 0x2EF3, 47), (0x2F00, 0x2FD5, 47),
  (0x2FF0, 0x2FFB, 24), (0x3000, 0x3004, 24), (0x3005, 0x3005, 47), (0x3006, 0x3006, 24),
  (0x3007, 0x3007, 47), (0x3008, 0x3020, 24), (0x3021, 0x3029, 47), (0x302A, 0x302D, 55),
  (0x302E, 0x302F, 48), (0x3030, 0x3037, 24), (0x3038, 0x303B, 47), (0x303C, 0x303F, 24),
  (0x3041, 0x3096, 53), (0x3099, 0x309A, 55), (0x309B, 0x309C, 24), (0x309D, 0x309F, 53),
  (0x30A0, 0x30A0, 24), (0x30A1, 0x30FA, 61), (0x30FB, 0x30FC, 24), (0x30FD, 0x30FF, 61),
  (0x3105, 0x312F, 12), (0x3131, 0x318E, 48), (0x3190, 0x319F, 24), (0x31A0, 0x31BF, 12),
  (0x31C0, 0x31E3, 24), (0x31F0, 0x31FF, 61), (0x3200, 0x321E, 48), (0x3220, 0x325F, 24),
  (0x3260, 0x327E, 48), (0x327F, 0x32CF, 24), (0x32D0, 0x32FE, 61), (0x32FF, 0x32FF, 24),
  (0x3300, 0x3357, 61), (0x3358, 0x33FF, 24), (0x3400, 0x4DBF, 47), (0x4DC0, 0x4DFF, 24),
  (0x4E00, 0x9FFF, 47), (0xA000, 0xA48C, 161), (0xA490, 0xA4C6, 161), (0xA4D0, 0xA4FF, 75),
  (0xA500, 0xA62B, 156), (0xA640, 0xA69F, 29), (0xA6A0, 0xA6F7, 7), (0xA700, 0xA721, 24),
  (0xA722, 0xA787, 70), (0xA788, 0xA78A, 24), (0xA78B, 0xA7CA, 70), (0xA7D0, 0xA7D1, 70),
  (0xA7D3, 0xA7D3, 70), (0xA7D5, 0xA7D9, 70), (0xA7F2, 0xA7FF, 70), (0xA800, 0xA82C, 137),
  (0xA830, 0xA839, 24), (0xA840, 0xA877, 121), (0xA880, 0xA8C5, 127), (0xA8CE, 0xA8D9, 127),
  (0xA8E0, 0xA8FF, 31), (0xA900, 0xA92D, 63), (0xA92E, 0xA92E, 24), (0xA92F, 0xA92F, 63),
  (0xA930, 0xA953, 124), (0xA95F, 0xA95F, 124), (0xA960, 0xA97C, 48), (0xA980, 0xA9CD, 58),
  (0xA9CF, 0xA9CF, 24), (0xA9D0, 0xA9D9, 58), (0xA9DE, 0xA9DF, 58), (0xA9E0, 0xA9FE, 95),
  (0xAA00, 0xAA36, 21), (0xAA40, 0xAA4D, 21), (0xAA50, 0xAA59, 21), (0xAA5C, 0xAA5F, 21),
  (0xAA60, 0xAA7F, 95), (0xAA80, 0xAAC2, 143), (0xAADB, 0xAADF, 143), (0xAAE0, 0xAAF6, 86),
  (0xAB01, 0xAB06, 38), (0xAB09, 0xAB0E, 38), (0xAB11, 0xAB16, 38), (0xAB20, 0xAB26, 38),
  (0xAB28, 0xAB2E, 38), (0xAB30, 0xAB5A, 70), (0xAB5B, 0xAB5B, 24), (0xAB5C, 0xAB64, 70),
  (0xAB65, 0xAB65, 43), (0xAB66, 0xAB69, 70), (0xAB6A, 0xAB6B, 24), (0xAB70, 0xABBF, 22),
  (0xABC0, 0xABED, 86), (0xABF0, 0xABF9, 86), (0xAC00, 0xD7A3, 48), (0xD7B0, 0xD7C6, 48),
  (0xD7CB, 0xD7FB, 48), (0xF900, 0xFA6D, 47), (0xFA70, 0xFAD9, 47), (0xFB00, 0xFB06, 70),
  (0xFB13, 0xFB17, 4), (0xFB1D, 0xFB36, 52), (0xFB38, 0xFB3C, 52), (0xFB3E, 0xFB3E, 52),
  (0xFB40, 0xFB41, 52), (0xFB43, 0xFB44, 52), (0xFB46, 0xFB4F, 52), (0xFB50, 0xFBC2, 3),
  (0xFBD3, 0xFD3D, 3), (0xFD3E, 0xFD3F, 24), (0xFD40, 0xFD8F, 3), (0xFD92, 0xFDC7, 3),
  (0xFDCF, 0xFDCF, 3), (0xFDF0, 0xFDFF, 3), (0xFE00, 0xFE0F, 55), (0xFE10, 0xFE19, 24),
  (0xFE20, 0xFE2D, 55), (0xFE2E, 0xFE2F, 29), (0xFE30, 0xFE52, 24), (0xFE54, 0xFE66, 24),
  (0xFE68, 0xFE6B, 24), (0xFE70, 0xFE74, 3), (0xFE76, 0xFEFC, 3), (0xFEFF, 0xFEFF, 24),
  (0xFF01, 0xFF20, 24), (0xFF21, 0xFF3A, 70), (0xFF3B, 0xFF40, 24), (0xFF41, 0xFF5A, 70),
  (0xFF5B, 0xFF65, 24), (0xFF66, 0xFF6F, 61), (0xFF70, 0xFF70, 24), (0xFF71, 0xFF9D, 61),
  (0xFF9E, 0xFF9F, 24), (0xFFA0, 0xFFBE, 48), (0xFFC2, 0xFFC7, 48), (0xFFCA, 0xFFCF, 48),
  (0xFFD2, 0xFFD7, 48), (0xFFDA, 0xFFDC, 48), (0xFFE0, 0xFFE6, 24), (0xFFE8, 0xFFEE, 24),
  (0xFFF9, 0xFFFD, 24), (0x10000, 0x1000B, 74), (0x1000D, 0x10026, 74), (0x10028, 0x1003A, 74),
  (0x1003C, 0x1003D, 74), (0x1003F, 0x1004D, 74), (0x10050, 0x1005D, 74), (0x10080, 0x100FA, 74),
  (0x10100, 0x10102, 24), (0x10107, 0x10133, 24), (0x10137, 0x1013F, 24), (0x10140, 0x1018E, 43),
  (0x10190, 0x1019C, 24), (0x101A0, 0x101A0, 43), (0x101D0, 0x101FC, 24), (0x101FD, 0x101FD, 55),
  (0x10280, 0x1029C, 76), (0x102A0, 0x102D0, 18), (0x102E0, 0x102E0, 55), (0x102E1, 0x102FB, 24),
  (0x10300, 0x10323, 107), (0x1032D, 0x1032F, 107), (0x10330, 0x1034A, 41),
  (0x10350, 0x1037A, 109), (0x10380, 0x1039D, 155), (0x1039F, 0x1039F, 155),
  (0x103A0, 0x103C3, 110), (0x103C8, 0x103D5, 110), (0x10400, 0x1044F, 30),
  (0x10450, 0x1047F, 129), (0x10480, 0x1049D, 117), (0x104A0, 0x104A9, 117),
  (0x104B0, 0x104D3, 116), (0x104D8, 0x104FB, 116), (0x10500, 0x10527, 36), (0x10530, 0x10563, 19),
  (0x1056F, 0x1056F, 19), (0x10570, 0x1057A, 157), (0x1057C, 0x1058A, 157),
  (0x1058C, 0x10592, 157), (0x10594, 0x10595, 157), (0x10597, 0x105A1, 157),
  (0x105A3, 0x105B1, 157), (0x105B3, 0x105B9, 157), (0x105BB, 0x105BC, 157),
  (0x10600, 0x10736, 73), (0x10740, 0x10755, 73), (0x10760, 0x10767, 73), (0x10780, 0x10785, 70),
  (0x10787, 0x107B0, 70), (0x107B2, 0x107BA, 70), (0x10800, 0x10805, 27), (0x10808, 0x10808, 27),
  (0x1080A, 0x10835, 27), (0x10837, 0x10838, 27), (0x1083C, 0x1083C, 27), (0x1083F, 0x1083F, 27),
  (0x10840, 0x10855, 54), (0x10857, 0x1085F, 54), (0x10860, 0x1087F, 119), (0x10880, 0x1089E, 96),
  (0x108A7, 0x108AF, 96), (0x108E0, 0x108F2, 51), (0x108F4, 0x108F5, 51), (0x108FB, 0x108FF, 51),
  (0x10900, 0x1091B, 122), (0x1091F, 0x1091F, 122), (0x10920, 0x10939, 77), (0x1093F, 0x1093F, 77),
  (0x10980, 0x1099F, 89), (0x109A0, 0x109B7, 88), (0x109BC, 0x109CF, 88), (0x109D2, 0x109FF, 88),
  (0x10A00, 0x10A03, 64), (0x10A05, 0x10A06, 64), (0x10A0C, 0x10A13, 64), (0x10A15, 0x10A17, 64),
  (0x10A19, 0x10A35, 64), (0x10A38, 0x10A3A, 64), (0x10A3F, 0x10A48, 64), (0x10A50, 0x10A58, 64),
  (0x10A60, 0x10A7F, 112), (0x10A80, 0x10A9F, 108), (0x10AC0, 0x10AE6, 82), (0x10AEB, 0x10AF6, 82),
  (0x10B00, 0x10B35, 5), (0x10B39, 0x10B3F, 5), (0x10B40, 0x10B55, 57), (0x10B58, 0x10B5F, 57),
  (0x10B60, 0x10B72, 56), (0x10B78, 0x10B7F, 56), (0x10B80, 0x10B91, 123), (0x10B99, 0x10B9C, 123),
  (0x10BA9, 0x10BAF, 123), (0x10C00, 0x10C48, 113), (0x10C80, 0x10CB2, 106),
  (0x10CC0, 0x10CF2, 106), (0x10CFA, 0x10CFF, 106), (0x10D00, 0x10D27, 49), (0x10D30, 0x10D39, 49),
  (0x10E60, 0x10E7E, 3), (0x10E80, 0x10EA9, 160), (0x10EAB, 0x10EAD, 160), (0x10EB0, 0x10EB1, 160),
  (0x10EFD, 0x10EFF, 3), (0x10F00, 0x10F27, 111), (0x10F30, 0x10F59, 133), (0x10F70, 0x10F89, 114),
  (0x10FB0, 0x10FCB, 23), (0x10FE0, 0x10FF6, 37), (0x11000, 0x1104D, 13), (0x11052, 0x11075, 13),
  (0x1107F, 0x1107F, 13), (0x11080, 0x110C2, 59), (0x110CD, 0x110CD, 59), (0x110D0, 0x110E8, 134),
  (0x110F0, 0x110F9, 134), (0x11100, 0x11134, 20), (0x11136, 0x11147, 20), (0x11150, 0x11176, 78),
  (0x11180, 0x111DF, 128), (0x111E1, 0x111F4, 132), (0x11200, 0x11211, 67), (0x11213, 0x11241, 67),
  (0x11280, 0x11286, 94), (0x11288, 0x11288, 94), (0x1128A, 0x1128D, 94), (0x1128F, 0x1129D, 94),
  (0x1129F, 0x112A9, 94), (0x112B0, 0x112EA, 68), (0x112F0, 0x112F9, 68), (0x11300, 0x11303, 42),
  (0x11305, 0x1130C, 42), (0x1130F, 0x11310, 42), (0x11313, 0x11328, 42), (0x1132A, 0x11330, 42),
  (0x11332, 0x11333, 42), (0x11335, 0x11339, 42), (0x1133B, 0x1133B, 55), (0x1133C, 0x11344, 42),
  (0x11347, 0x11348, 42), (0x1134B, 0x1134D, 42), (0x11350, 0x11350, 42), (0x11357, 0x11357, 42),
  (0x1135D, 0x11363, 42), (0x11366, 0x1136C, 42), (0x11370, 0x11374, 42), (0x11400, 0x1145B, 100),
  (0x1145D, 0x11461, 100), (0x11480, 0x114C7, 153), (0x114D0, 0x114D9, 153),
  (0x11580, 0x115B5, 130), (0x115B8, 0x115DD, 130), (0x11600, 0x11644, 91), (0x11650, 0x11659, 91),
  (0x11660, 0x1166C, 92), (0x11680, 0x116B9, 144), (0x116C0, 0x116C9, 144), (0x11700, 0x1171A, 1),
  (0x1171D, 0x1172B, 1), (0x11730, 0x11746, 1), (0x11800, 0x1183B, 33), (0x118A0, 0x118F2, 159),
  (0x118FF, 0x118FF, 159), (0x11900, 0x11906, 32), (0x11909, 0x11909, 32), (0x1190C, 0x11913, 32),
  (0x11915, 0x11916, 32), (0x11918, 0x11935, 32), (0x11937, 0x11938, 32), (0x1193B, 0x11946, 32),
  (0x11950, 0x11959, 32), (0x119A0, 0x119A7, 98), (0x119AA, 0x119D7, 98), (0x119DA, 0x119E4, 98),
  (0x11A00, 0x11A47, 162), (0x11A50, 0x11AA2, 135), (0x11AB0, 0x11ABF, 17),
  (0x11AC0, 0x11AF8, 120), (0x11B00, 0x11B09, 31), (0x11C00, 0x11C08, 11), (0x11C0A, 0x11C36, 11),
  (0x11C38, 0x11C45, 11), (0x11C50, 0x11C6C, 11), (0x11C70, 0x11C8F, 83), (0x11C92, 0x11CA7, 83),
  (0x11CA9, 0x11CB6, 83), (0x11D00, 0x11D06, 84), (0x11D08, 0x11D09, 84), (0x11D0B, 0x11D36, 84),
  (0x11D3A, 0x11D3A, 84), (0x11D3C, 0x11D3D, 84), (0x11D3F, 0x11D47, 84), (0x11D50, 0x11D59, 84),
  (0x11D60, 0x11D65, 45), (0x11D67, 0x11D68, 45), (0x11D6A, 0x11D8E, 45), (0x11D90, 0x11D91, 45),
  (0x11D93, 0x11D98, 45), (0x11DA0, 0x11DA9, 45), (0x11EE0, 0x11EF8, 79), (0x11F00, 0x11F10, 62),
  (0x11F12, 0x11F3A, 62), (0x11F3E, 0x11F59, 62), (0x11FB0, 0x11FB0, 75), (0x11FC0, 0x11FF1, 145),
  (0x11FFF, 0x11FFF, 145), (0x12000, 0x12399, 26), (0x12400, 0x1246E, 26), (0x12470, 0x12474, 26),
  (0x12480, 0x12543, 26), (0x12F90, 0x12FF2, 28), (0x13000, 0x13455, 35), (0x14400, 0x14646, 2),
  (0x16800, 0x16A38, 7), (0x16A40, 0x16A5E, 93), (0x16A60, 0x16A69, 93), (0x16A6E, 0x16A6F, 93),
  (0x16A70, 0x16ABE, 146), (0x16AC0, 0x16AC9, 146), (0x16AD0, 0x16AED, 8), (0x16AF0, 0x16AF5, 8),
  (0x16B00, 0x16B45, 118), (0x16B50, 0x16B59, 118), (0x16B5B, 0x16B61, 118),
  (0x16B63, 0x16B77, 118), (0x16B7D, 0x16B8F, 118), (0x16E40, 0x16E9A, 85), (0x16F00, 0x16F4A, 90),
  (0x16F4F, 0x16F87, 90), (0x16F8F, 0x16F9F, 90), (0x16FE0, 0x16FE0, 147), (0x16FE1, 0x16FE1, 102),
  (0x16FE2, 0x16FE3, 47), (0x16FE4, 0x16FE4, 65), (0x16FF0, 0x16FF1, 47), (0x17000, 0x187F7, 147),
  (0x18800, 0x18AFF, 147), (0x18B00, 0x18CD5, 65), (0x18D00, 0x18D08, 147), (0x1AFF0, 0x1AFF3, 61),
  (0x1AFF5, 0x1AFFB, 61), (0x1AFFD, 0x1AFFE, 61), (0x1B000, 0x1B000, 61), (0x1B001, 0x1B11F, 53),
  (0x1B120, 0x1B122, 61), (0x1B132, 0x1B132, 53), (0x1B150, 0x1B152, 53), (0x1B155, 0x1B155, 61),
  (0x1B164, 0x1B167, 61), (0x1B170, 0x1B2FB, 102), (0x1BC00, 0x1BC6A, 34), (0x1BC70, 0x1BC7C, 34),
  (0x1BC80, 0x1BC88, 34), (0x1BC90, 0x1BC99, 34), (0x1BC9C, 0x1BC9F, 34), (0x1BCA0, 0x1BCA3, 24),
  (0x1CF00, 0x1CF2D, 55), (0x1CF30, 0x1CF46, 55), (0x1CF50, 0x1CFC3, 24), (0x1D000, 0x1D0F5, 24),
  (0x1D100, 0x1D126, 24), (0x1D129, 0x1D166, 24), (0x1D167, 0x1D169, 55), (0x1D16A, 0x1D17A, 24),
  (0x1D17B, 0x1D182, 55), (0x1D183, 0x1D184, 24), (0x1D185, 0x1D18B, 55), (0x1D18C, 0x1D1A9, 24),
  (0x1D1AA, 0x1D1AD, 55), (0x1D1AE, 0x1D1EA, 24), (0x1D200, 0x1D245, 43), (0x1D2C0, 0x1D2D3, 24),
  (0x1D2E0, 0x1D2F3, 24), (0x1D300, 0x1D356, 24), (0x1D360, 0x1D378, 24), (0x1D400, 0x1D454, 24),
  (0x1D456, 0x1D49C, 24), (0x1D49E, 0x1D49F, 24), (0x1D4A2, 0x1D4A2, 24), (0x1D4A5, 0x1D4A6, 24),
  (0x1D4A9, 0x1D4AC, 24), (0x1D4AE, 0x1D4B9, 24), (0x1D4BB, 0x1D4BB, 24), (0x1D4BD, 0x1D4C3, 24),
  (0x1D4C5, 0x1D505, 24), (0x1D507, 0x1D50A, 24), (0x1D50D, 0x1D514, 24), (0x1D516, 0x1D51C, 24),
  (0x1D51E, 0x1D539, 24), (0x1D53B, 0x1D53E, 24), (0x1D540, 0x1D544, 24), (0x1D546, 0x1D546, 24),
  (0x1D54A, 0x1D550, 24), (0x1D552, 0x1D6A5, 24), (0x1D6A8, 0x1D7CB, 24), (0x1D7CE, 0x1D7FF, 24),
  (0x1D800, 0x1DA8B, 131), (0x1DA9B, 0x1DA9F, 131), (0x1DAA1, 0x1DAAF, 131),
  (0x1DF00, 0x1DF1E, 70), (0x1DF25, 0x1DF2A, 70), (0x1E000, 0x1E006, 40), (0x1E008, 0x1E018, 40),
  (0x1E01B, 0x1E021, 40), (0x1E023, 0x1E024, 40), (0x1E026, 0x1E02A, 40), (0x1E030, 0x1E06D, 29),
  (0x1E08F, 0x1E08F, 29), (0x1E100, 0x1E12C, 103), (0x1E130, 0x1E13D, 103),
  (0x1E140, 0x1E149, 103), (0x1E14E, 0x1E14F, 103), (0x1E290, 0x1E2AE, 154),
  (0x1E2C0, 0x1E2F9, 158), (0x1E2FF, 0x1E2FF, 158), (0x1E4D0, 0x1E4F9, 97), (0x1E7E0, 0x1E7E6, 38),
  (0x1E7E8, 0x1E7EB, 38), (0x1E7ED, 0x1E7EE, 38), (0x1E7F0, 0x1E7FE, 38), (0x1E800, 0x1E8C4, 87),
  (0x1E8C7, 0x1E8D6, 87), (0x1E900, 0x1E94B, 0), (0x1E950, 0x1E959, 0), (0x1E95E, 0x1E95F, 0),
  (0x1EC71, 0x1ECB4, 24), (0x1ED01, 0x1ED3D, 24), (0x1EE00, 0x1EE03, 3), (0x1EE05, 0x1EE1F, 3),
  (0x1EE21, 0x1EE22, 3), (0x1EE24, 0x1EE24, 3), (0x1EE27, 0x1EE27, 3), (0x1EE29, 0x1EE32, 3),
  (0x1EE34, 0x1EE37, 3), (0x1EE39, 0x1EE39, 3), (0x1EE3B, 0x1EE3B, 3), (0x1EE42, 0x1EE42, 3),
  (0x1EE47, 0x1EE47, 3), (0x1EE49, 0x1EE49, 3), (0x1EE4B, 0x1EE4B, 3), (0x1EE4D, 0x1EE4F, 3),
  (0x1EE51, 0x1EE52, 3), (0x1EE54, 0x1EE54, 3), (0x1EE57, 0x1EE57, 3), (0x1EE59, 0x1EE59, 3),
  (0x1EE5B, 0x1EE5B, 3), (0x1EE5D, 0x1EE5D, 3), (0x1EE5F, 0x1EE5F, 3), (0x1EE61, 0x1EE62, 3),
  (0x1EE64, 0x1EE64, 3), (0x1EE67, 0x1EE6A, 3), (0x1EE6C, 0x1EE72, 3), (0x1EE74, 0x1EE77, 3),
  (0x1EE79, 0x1EE7C, 3), (0x1EE7E, 0x1EE7E, 3), (0x1EE80, 0x1EE89, 3), (0x1EE8B, 0x1EE9B, 3),
  (0x1EEA1, 0x1EEA3, 3), (0x1EEA5, 0x1EEA9, 3), (0x1EEAB, 0x1EEBB, 3), (0x1EEF0, 0x1EEF1, 3),
  (0x1F000, 0x1F02B, 24), (0x1F030, 0x1F093, 24), (0x1F0A0, 0x1F0AE, 24), (0x1F0B1, 0x1F0BF, 24),
  (0x1F0C1, 0x1F0CF, 24), (0x1F0D1, 0x1F0F5, 24), (0x1F100, 0x1F1AD, 24), (0x1F1E6, 0x1F1FF, 24),
  (0x1F200, 0x1F200, 53), (0x1F201, 0x1F202, 24), (0x1F210, 0x1F23B, 24), (0x1F240, 0x1F248, 24),
  (0x1F250, 0x1F251, 24), (0x1F260, 0x1F265, 24), (0x1F300, 0x1F6D7, 24), (0x1F6DC, 0x1F6EC, 24),
  (0x1F6F0, 0x1F6FC, 24), (0x1F700, 0x1F776, 24), (0x1F77B, 0x1F7D9, 24), (0x1F7E0, 0x1F7EB, 24),
  (0x1F7F0, 0x1F7F0, 24), (0x1F800, 0x1F80B, 24), (0x1F810, 0x1F847, 24), (0x1F850, 0x1F859, 24),
  (0x1F860, 0x1F887, 24), (0x1F890, 0x1F8AD, 24), (0x1F8B0, 0x1F8B1, 24), (0x1F900, 0x1FA53, 24),
  (0x1FA60, 0x1FA6D, 24), (0x1FA70, 0x1FA7C, 24), (0x1FA80, 0x1FA88, 24), (0x1FA90, 0x1FABD, 24),
  (0x1FABF, 0x1FAC5, 24), (0x1FACE, 0x1FADB, 24), (0x1FAE0, 0x1FAE8, 24), (0x1FAF0, 0x1FAF8, 24),
  (0x1FB00, 0x1FB92, 24), (0x1FB94, 0x1FBCA, 24), (0x1FBF0, 0x1FBF9, 24), (0x20000, 0x2A6DF, 47),
  (0x2A700, 0x2B739, 47), (0x2B740, 0x2B81D, 47), (0x2B820, 0x2CEA1, 47), (0x2CEB0, 0x2EBE0, 47),
  (0x2F800, 0x2FA1D, 47), (0x30000, 0x3134A, 47), (0x31350, 0x323AF, 47), (0xE0001, 0xE0001, 24),
  (0xE0020, 0xE007F, 24), (0xE0100, 0xE01EF, 55)]

def script? (name : String) : Option Ranges :=
  (scriptNames.findIdx? fun names => names.contains name).map fun number =>
    (scriptTable.filter fun (_, _, script) => script == number).map fun (first, last, _) =>
      (first, last, 1)

end MountProbe.Unicode
