import SqlDialect.Text.Script.Basic

/-!
# Scripts from N to Z

The characters of the scripts of Unicode 16 whose names begin with the letters N to Z.
-/

namespace SqlDialect.Text

/-- The scripts from N to Z. -/
def scriptsNToZ : List Script := [
  ⟨["Nbat", "Nabataean"], [(0x10880, 0x1089E), (0x108A7, 0x108AF)], []⟩,
  ⟨["Nagm", "Nag_Mundari"], [(0x1E4D0, 0x1E4F9)], []⟩,
  ⟨["Nand", "Nandinagari"], [(0x119A0, 0x119A7), (0x119AA, 0x119D7), (0x119DA, 0x119E4)],
    [(0x951, 0x951), (0x964, 0x965), (0xCE6, 0xCEF), (0x1CE9, 0x1CE9), (0x1CF2, 0x1CF2),
    (0x1CFA, 0x1CFA), (0xA830, 0xA835)]⟩,
  ⟨["Talu", "New_Tai_Lue"], [(0x1980, 0x19AB), (0x19B0, 0x19C9), (0x19D0, 0x19DA),
    (0x19DE, 0x19DF)], []⟩,
  ⟨["Newa"], [(0x11400, 0x1145B), (0x1145D, 0x11461)], [(0x951, 0x952), (0x1CD5, 0x1CD5),
    (0x1CD7, 0x1CD8), (0x1CE2, 0x1CE2), (0x1CE9, 0x1CE9), (0x1CEB, 0x1CEB), (0x1CED, 0x1CED)]⟩,
  ⟨["Nkoo", "Nko"], [(0x7C0, 0x7FA), (0x7FD, 0x7FF)], [(0x60C, 0x60C), (0x61B, 0x61B),
    (0x61F, 0x61F), (0xFD3E, 0xFD3F)]⟩,
  ⟨["Nshu", "Nushu"], [(0x16FE1, 0x16FE1), (0x1B170, 0x1B2FB)], []⟩,
  ⟨["Hmnp", "Nyiakeng_Puachue_Hmong"], [(0x1E100, 0x1E12C), (0x1E130, 0x1E13D), (0x1E140, 0x1E149),
    (0x1E14E, 0x1E14F)], []⟩,
  ⟨["Ogam", "Ogham"], [(0x1680, 0x169C)], []⟩,
  ⟨["Olck", "Ol_Chiki"], [(0x1C50, 0x1C7F)], []⟩,
  ⟨["Onao", "Ol_Onal"], [(0x1E5D0, 0x1E5FA), (0x1E5FF, 0x1E5FF)], [(0x964, 0x965)]⟩,
  ⟨["Hung", "Old_Hungarian"], [(0x10C80, 0x10CB2), (0x10CC0, 0x10CF2), (0x10CFA, 0x10CFF)],
    [(0x205A, 0x205A), (0x205D, 0x205D), (0x2E31, 0x2E31), (0x2E41, 0x2E41)]⟩,
  ⟨["Ital", "Old_Italic"], [(0x10300, 0x10323), (0x1032D, 0x1032F)], []⟩,
  ⟨["Narb", "Old_North_Arabian"], [(0x10A80, 0x10A9F)], []⟩,
  ⟨["Perm", "Old_Permic"], [(0x10350, 0x1037A)], [(0xB7, 0xB7), (0x300, 0x300), (0x306, 0x308),
    (0x313, 0x313), (0x483, 0x483)]⟩,
  ⟨["Xpeo", "Old_Persian"], [(0x103A0, 0x103C3), (0x103C8, 0x103D5)], []⟩,
  ⟨["Sogo", "Old_Sogdian"], [(0x10F00, 0x10F27)], []⟩,
  ⟨["Sarb", "Old_South_Arabian"], [(0x10A60, 0x10A7F)], []⟩,
  ⟨["Orkh", "Old_Turkic"], [(0x10C00, 0x10C48)], [(0x205A, 0x205A), (0x2E30, 0x2E30)]⟩,
  ⟨["Ougr", "Old_Uyghur"], [(0x10F70, 0x10F89)], [(0x640, 0x640), (0x10AF2, 0x10AF2)]⟩,
  ⟨["Orya", "Oriya"], [(0xB01, 0xB03), (0xB05, 0xB0C), (0xB0F, 0xB10), (0xB13, 0xB28),
    (0xB2A, 0xB30), (0xB32, 0xB33), (0xB35, 0xB39), (0xB3C, 0xB44), (0xB47, 0xB48), (0xB4B, 0xB4D),
    (0xB55, 0xB57), (0xB5C, 0xB5D), (0xB5F, 0xB63), (0xB66, 0xB77)], [(0x951, 0x952),
    (0x964, 0x965), (0x1CDA, 0x1CDA), (0x1CF2, 0x1CF2)]⟩,
  ⟨["Osge", "Osage"], [(0x104B0, 0x104D3), (0x104D8, 0x104FB)], [(0x301, 0x301), (0x304, 0x304),
    (0x30B, 0x30B), (0x358, 0x358)]⟩,
  ⟨["Osma", "Osmanya"], [(0x10480, 0x1049D), (0x104A0, 0x104A9)], []⟩,
  ⟨["Hmng", "Pahawh_Hmong"], [(0x16B00, 0x16B45), (0x16B50, 0x16B59), (0x16B5B, 0x16B61),
    (0x16B63, 0x16B77), (0x16B7D, 0x16B8F)], []⟩,
  ⟨["Palm", "Palmyrene"], [(0x10860, 0x1087F)], []⟩,
  ⟨["Pauc", "Pau_Cin_Hau"], [(0x11AC0, 0x11AF8)], []⟩,
  ⟨["Phag", "Phags_Pa"], [(0xA840, 0xA877)], [(0x1802, 0x1803), (0x1805, 0x1805), (0x202F, 0x202F),
    (0x3002, 0x3002)]⟩,
  ⟨["Phnx", "Phoenician"], [(0x10900, 0x1091B), (0x1091F, 0x1091F)], []⟩,
  ⟨["Phlp", "Psalter_Pahlavi"], [(0x10B80, 0x10B91), (0x10B99, 0x10B9C), (0x10BA9, 0x10BAF)],
    [(0x640, 0x640)]⟩,
  ⟨["Rjng", "Rejang"], [(0xA930, 0xA953), (0xA95F, 0xA95F)], []⟩,
  ⟨["Runr", "Runic"], [(0x16A0, 0x16EA), (0x16EE, 0x16F8)], [(0x16EB, 0x16ED)]⟩,
  ⟨["Samr", "Samaritan"], [(0x800, 0x82D), (0x830, 0x83E)], [(0x2E31, 0x2E31)]⟩,
  ⟨["Saur", "Saurashtra"], [(0xA880, 0xA8C5), (0xA8CE, 0xA8D9)], []⟩,
  ⟨["Shrd", "Sharada"], [(0x11180, 0x111DF)], [(0x951, 0x951), (0x1CD7, 0x1CD7), (0x1CD9, 0x1CD9),
    (0x1CDC, 0x1CDD), (0x1CE0, 0x1CE0), (0x1CEA, 0x1CEA), (0x1CED, 0x1CED), (0xA830, 0xA835),
    (0xA838, 0xA838)]⟩,
  ⟨["Shaw", "Shavian"], [(0x10450, 0x1047F)], [(0xB7, 0xB7)]⟩,
  ⟨["Sidd", "Siddham"], [(0x11580, 0x115B5), (0x115B8, 0x115DD)], []⟩,
  ⟨["Sgnw", "SignWriting"], [(0x1D800, 0x1DA8B), (0x1DA9B, 0x1DA9F), (0x1DAA1, 0x1DAAF)], []⟩,
  ⟨["Sinh", "Sinhala"], [(0xD81, 0xD83), (0xD85, 0xD96), (0xD9A, 0xDB1), (0xDB3, 0xDBB),
    (0xDBD, 0xDBD), (0xDC0, 0xDC6), (0xDCA, 0xDCA), (0xDCF, 0xDD4), (0xDD6, 0xDD6), (0xDD8, 0xDDF),
    (0xDE6, 0xDEF), (0xDF2, 0xDF4), (0x111E1, 0x111F4)], [(0x964, 0x965), (0x1CF2, 0x1CF2)]⟩,
  ⟨["Sogd", "Sogdian"], [(0x10F30, 0x10F59)], [(0x640, 0x640)]⟩,
  ⟨["Sora", "Sora_Sompeng"], [(0x110D0, 0x110E8), (0x110F0, 0x110F9)], []⟩,
  ⟨["Soyo", "Soyombo"], [(0x11A50, 0x11AA2)], []⟩,
  ⟨["Sund", "Sundanese"], [(0x1B80, 0x1BBF), (0x1CC0, 0x1CC7)], []⟩,
  ⟨["Sunu", "Sunuwar"], [(0x11BC0, 0x11BE1), (0x11BF0, 0x11BF9)], [(0x300, 0x301), (0x303, 0x303),
    (0x30D, 0x30D), (0x310, 0x310), (0x32D, 0x32D), (0x331, 0x331)]⟩,
  ⟨["Sylo", "Syloti_Nagri"], [(0xA800, 0xA82C)], [(0x964, 0x965), (0x9E6, 0x9EF)]⟩,
  ⟨["Syrc", "Syriac"], [(0x700, 0x70D), (0x70F, 0x74A), (0x74D, 0x74F), (0x860, 0x86A)],
    [(0x303, 0x304), (0x307, 0x308), (0x30A, 0x30A), (0x323, 0x325), (0x32D, 0x32E), (0x330, 0x331),
    (0x60C, 0x60C), (0x61B, 0x61C), (0x61F, 0x61F), (0x640, 0x640), (0x64B, 0x655), (0x670, 0x670),
    (0x1DF8, 0x1DF8), (0x1DFA, 0x1DFA)]⟩,
  ⟨["Tglg", "Tagalog"], [(0x1700, 0x1715), (0x171F, 0x171F)], [(0x1735, 0x1736)]⟩,
  ⟨["Tagb", "Tagbanwa"], [(0x1760, 0x176C), (0x176E, 0x1770), (0x1772, 0x1773)],
    [(0x1735, 0x1736)]⟩,
  ⟨["Tale", "Tai_Le"], [(0x1950, 0x196D), (0x1970, 0x1974)], [(0x300, 0x301), (0x307, 0x308),
    (0x30C, 0x30C), (0x1040, 0x1049)]⟩,
  ⟨["Lana", "Tai_Tham"], [(0x1A20, 0x1A5E), (0x1A60, 0x1A7C), (0x1A7F, 0x1A89), (0x1A90, 0x1A99),
    (0x1AA0, 0x1AAD)], []⟩,
  ⟨["Tavt", "Tai_Viet"], [(0xAA80, 0xAAC2), (0xAADB, 0xAADF)], []⟩,
  ⟨["Takr", "Takri"], [(0x11680, 0x116B9), (0x116C0, 0x116C9)], [(0x964, 0x965), (0xA830, 0xA839)]⟩,
  ⟨["Taml", "Tamil"], [(0xB82, 0xB83), (0xB85, 0xB8A), (0xB8E, 0xB90), (0xB92, 0xB95),
    (0xB99, 0xB9A), (0xB9C, 0xB9C), (0xB9E, 0xB9F), (0xBA3, 0xBA4), (0xBA8, 0xBAA), (0xBAE, 0xBB9),
    (0xBBE, 0xBC2), (0xBC6, 0xBC8), (0xBCA, 0xBCD), (0xBD0, 0xBD0), (0xBD7, 0xBD7), (0xBE6, 0xBFA),
    (0x11FC0, 0x11FF1), (0x11FFF, 0x11FFF)], [(0x951, 0x952), (0x964, 0x965), (0x1CDA, 0x1CDA),
    (0xA8F3, 0xA8F3), (0x11301, 0x11301), (0x11303, 0x11303), (0x1133B, 0x1133C)]⟩,
  ⟨["Tnsa", "Tangsa"], [(0x16A70, 0x16ABE), (0x16AC0, 0x16AC9)], []⟩,
  ⟨["Tang", "Tangut"], [(0x16FE0, 0x16FE0), (0x17000, 0x187F7), (0x18800, 0x18AFF),
    (0x18D00, 0x18D08)], [(0x2FF0, 0x2FFF), (0x31EF, 0x31EF)]⟩,
  ⟨["Telu", "Telugu"], [(0xC00, 0xC0C), (0xC0E, 0xC10), (0xC12, 0xC28), (0xC2A, 0xC39),
    (0xC3C, 0xC44), (0xC46, 0xC48), (0xC4A, 0xC4D), (0xC55, 0xC56), (0xC58, 0xC5A), (0xC5D, 0xC5D),
    (0xC60, 0xC63), (0xC66, 0xC6F), (0xC77, 0xC7F)], [(0x951, 0x952), (0x964, 0x965),
    (0x1CD5, 0x1CD6), (0x1CD8, 0x1CD8), (0x1CDA, 0x1CDA), (0x1CF2, 0x1CF2)]⟩,
  ⟨["Thaa", "Thaana"], [(0x780, 0x7B1)], [(0x60C, 0x60C), (0x61B, 0x61C), (0x61F, 0x61F),
    (0x660, 0x669), (0xFDF2, 0xFDF2), (0xFDFD, 0xFDFD)]⟩,
  ⟨["Thai"], [(0xE01, 0xE3A), (0xE40, 0xE5B)], [(0x2BC, 0x2BC), (0x2D7, 0x2D7), (0x303, 0x303),
    (0x331, 0x331)]⟩,
  ⟨["Tibt", "Tibetan"], [(0xF00, 0xF47), (0xF49, 0xF6C), (0xF71, 0xF97), (0xF99, 0xFBC),
    (0xFBE, 0xFCC), (0xFCE, 0xFD4), (0xFD9, 0xFDA)], [(0x3008, 0x300B)]⟩,
  ⟨["Tfng", "Tifinagh"], [(0x2D30, 0x2D67), (0x2D6F, 0x2D70), (0x2D7F, 0x2D7F)], [(0x302, 0x302),
    (0x304, 0x304), (0x306, 0x309), (0x323, 0x323)]⟩,
  ⟨["Tirh", "Tirhuta"], [(0x11480, 0x114C7), (0x114D0, 0x114D9)], [(0x951, 0x952), (0x964, 0x965),
    (0x1CD5, 0x1CD5), (0x1CE2, 0x1CE2), (0x1CF2, 0x1CF2), (0xA830, 0xA839)]⟩,
  ⟨["Todr", "Todhri"], [(0x105C0, 0x105F3)], [(0x301, 0x301), (0x304, 0x304), (0x307, 0x307),
    (0x311, 0x311), (0x313, 0x313), (0x35E, 0x35E)]⟩,
  ⟨["Toto"], [(0x1E290, 0x1E2AE)], [(0x2BC, 0x2BC)]⟩,
  ⟨["Tutg", "Tulu_Tigalari"], [(0x11380, 0x11389), (0x1138B, 0x1138B), (0x1138E, 0x1138E),
    (0x11390, 0x113B5), (0x113B7, 0x113C0), (0x113C2, 0x113C2), (0x113C5, 0x113C5),
    (0x113C7, 0x113CA), (0x113CC, 0x113D5), (0x113D7, 0x113D8), (0x113E1, 0x113E2)],
    [(0xCE6, 0xCEF), (0x1CF2, 0x1CF2), (0x1CF4, 0x1CF4), (0xA830, 0xA835), (0xA8F1, 0xA8F1)]⟩,
  ⟨["Ugar", "Ugaritic"], [(0x10380, 0x1039D), (0x1039F, 0x1039F)], []⟩,
  ⟨["Vaii", "Vai"], [(0xA500, 0xA62B)], []⟩,
  ⟨["Vith", "Vithkuqi"], [(0x10570, 0x1057A), (0x1057C, 0x1058A), (0x1058C, 0x10592),
    (0x10594, 0x10595), (0x10597, 0x105A1), (0x105A3, 0x105B1), (0x105B3, 0x105B9),
    (0x105BB, 0x105BC)], []⟩,
  ⟨["Wcho", "Wancho"], [(0x1E2C0, 0x1E2F9), (0x1E2FF, 0x1E2FF)], []⟩,
  ⟨["Wara", "Warang_Citi"], [(0x118A0, 0x118F2), (0x118FF, 0x118FF)], []⟩,
  ⟨["Yezi", "Yezidi"], [(0x10E80, 0x10EA9), (0x10EAB, 0x10EAD), (0x10EB0, 0x10EB1)],
    [(0x60C, 0x60C), (0x61B, 0x61B), (0x61F, 0x61F), (0x660, 0x669)]⟩,
  ⟨["Yiii", "Yi"], [(0xA000, 0xA48C), (0xA490, 0xA4C6)], [(0x3001, 0x3002), (0x3008, 0x3011),
    (0x3014, 0x301B), (0x30FB, 0x30FB), (0xFF61, 0xFF65)]⟩,
  ⟨["Zanb", "Zanabazar_Square"], [(0x11A00, 0x11A47)], []⟩]

end SqlDialect.Text
