/-
Module: PeerCache.Url.Domain.Folding.Letter
Purpose: Single characters for which domain names write another character.
Main exports:
  Folding.letters
-/

/-!
Capitals, wide, narrow, raised, lowered and encircled forms give way to the plain small
form.  The tables are those of the mapping of international domain names;
ideographs and what stands in runs are in modules of their own.
-/

namespace PeerCache.Domain.Folding

/-- The characters below U+2100, each with the one it gives way to. -/
def lowLetters : List (Nat × Nat) :=
  [(0xA0, 0x20), (0xAA, 0x61), (0xB2, 0x32), (0xB3, 0x33), (0xB5, 0x3BC), (0xB9, 0x31),
   (0xBA, 0x6F), (0x134, 0x135), (0x136, 0x137), (0x178, 0xFF), (0x17F, 0x73), (0x181, 0x253),
   (0x182, 0x183), (0x184, 0x185), (0x186, 0x254), (0x187, 0x188), (0x189, 0x256), (0x18A, 0x257),
   (0x18B, 0x18C), (0x18E, 0x1DD), (0x18F, 0x259), (0x190, 0x25B), (0x191, 0x192), (0x193, 0x260),
   (0x194, 0x263), (0x196, 0x269), (0x197, 0x268), (0x198, 0x199), (0x19C, 0x26F), (0x19D, 0x272),
   (0x19F, 0x275), (0x1A6, 0x280), (0x1A7, 0x1A8), (0x1A9, 0x283), (0x1AC, 0x1AD), (0x1AE, 0x288),
   (0x1AF, 0x1B0), (0x1B1, 0x28A), (0x1B2, 0x28B), (0x1B3, 0x1B4), (0x1B5, 0x1B6), (0x1B7, 0x292),
   (0x1B8, 0x1B9), (0x1BC, 0x1BD), (0x1F4, 0x1F5), (0x1F6, 0x195), (0x1F7, 0x1BF), (0x220, 0x19E),
   (0x23A, 0x2C65), (0x23B, 0x23C), (0x23D, 0x19A), (0x23E, 0x2C66), (0x241, 0x242),
   (0x243, 0x180), (0x244, 0x289), (0x245, 0x28C), (0x2B0, 0x68), (0x2B1, 0x266), (0x2B2, 0x6A),
   (0x2B3, 0x72), (0x2B4, 0x279), (0x2B5, 0x27B), (0x2B6, 0x281), (0x2B7, 0x77), (0x2B8, 0x79),
   (0x2E0, 0x263), (0x2E1, 0x6C), (0x2E2, 0x73), (0x2E3, 0x78), (0x2E4, 0x295), (0x340, 0x300),
   (0x341, 0x301), (0x343, 0x313), (0x345, 0x3B9), (0x370, 0x371), (0x372, 0x373), (0x374, 0x2B9),
   (0x376, 0x377), (0x37E, 0x3B), (0x37F, 0x3F3), (0x386, 0x3AC), (0x387, 0xB7), (0x38C, 0x3CC),
   (0x38E, 0x3CD), (0x38F, 0x3CE), (0x3CF, 0x3D7), (0x3D0, 0x3B2), (0x3D1, 0x3B8), (0x3D2, 0x3C5),
   (0x3D3, 0x3CD), (0x3D4, 0x3CB), (0x3D5, 0x3C6), (0x3D6, 0x3C0), (0x3F0, 0x3BA), (0x3F1, 0x3C1),
   (0x3F2, 0x3C3), (0x3F4, 0x3B8), (0x3F5, 0x3B5), (0x3F7, 0x3F8), (0x3F9, 0x3C3), (0x3FA, 0x3FB),
   (0x4C0, 0x4CF), (0x558, 0x567), (0x58B, 0x56B), (0x58C, 0x575), (0xF0C, 0xF0B),
   (0x10C7, 0x2D27), (0x10CD, 0x2D2D), (0x10FC, 0x10DC), (0x1C80, 0x432), (0x1C81, 0x434),
   (0x1C82, 0x43E), (0x1C83, 0x441), (0x1C86, 0x44A), (0x1C87, 0x463), (0x1C89, 0x1C8A),
   (0x1D2C, 0x61), (0x1D2D, 0xE6), (0x1D2E, 0x62), (0x1D30, 0x64), (0x1D31, 0x65),
   (0x1D32, 0x1DD), (0x1D3C, 0x6F), (0x1D3D, 0x223), (0x1D3E, 0x70), (0x1D3F, 0x72),
   (0x1D40, 0x74), (0x1D41, 0x75), (0x1D42, 0x77), (0x1D43, 0x61), (0x1D44, 0x250),
   (0x1D45, 0x251), (0x1D46, 0x1D02), (0x1D47, 0x62), (0x1D48, 0x64), (0x1D49, 0x65),
   (0x1D4A, 0x259), (0x1D4B, 0x25B), (0x1D4C, 0x25C), (0x1D4D, 0x67), (0x1D4F, 0x6B),
   (0x1D50, 0x6D), (0x1D51, 0x14B), (0x1D52, 0x6F), (0x1D53, 0x254), (0x1D54, 0x1D16),
   (0x1D55, 0x1D17), (0x1D56, 0x70), (0x1D57, 0x74), (0x1D58, 0x75), (0x1D59, 0x1D1D),
   (0x1D5A, 0x26F), (0x1D5B, 0x76), (0x1D5C, 0x1D25), (0x1D60, 0x3C6), (0x1D61, 0x3C7),
   (0x1D62, 0x69), (0x1D63, 0x72), (0x1D64, 0x75), (0x1D65, 0x76), (0x1D66, 0x3B2),
   (0x1D67, 0x3B3), (0x1D68, 0x3C1), (0x1D69, 0x3C6), (0x1D6A, 0x3C7), (0x1D78, 0x43D),
   (0x1D9B, 0x252), (0x1D9C, 0x63), (0x1D9D, 0x255), (0x1D9E, 0xF0), (0x1D9F, 0x25C),
   (0x1DA0, 0x66), (0x1DA1, 0x25F), (0x1DA2, 0x261), (0x1DA3, 0x265), (0x1DA7, 0x1D7B),
   (0x1DA8, 0x29D), (0x1DA9, 0x26D), (0x1DAA, 0x1D85), (0x1DAB, 0x29F), (0x1DAC, 0x271),
   (0x1DAD, 0x270), (0x1DB2, 0x278), (0x1DB3, 0x282), (0x1DB4, 0x283), (0x1DB5, 0x1AB),
   (0x1DB6, 0x289), (0x1DB7, 0x28A), (0x1DB8, 0x1D1C), (0x1DB9, 0x28B), (0x1DBA, 0x28C),
   (0x1DBB, 0x7A), (0x1DBF, 0x3B8), (0x1E9B, 0x1E61), (0x1E9E, 0xDF), (0x1F59, 0x1F51),
   (0x1F5B, 0x1F53), (0x1F5D, 0x1F55), (0x1F5F, 0x1F57), (0x1F71, 0x3AC), (0x1F73, 0x3AD),
   (0x1F75, 0x3AE), (0x1F77, 0x3AF), (0x1F79, 0x3CC), (0x1F7B, 0x3CD), (0x1F7D, 0x3CE),
   (0x1FB8, 0x1FB0), (0x1FB9, 0x1FB1), (0x1FBA, 0x1F70), (0x1FBB, 0x3AC), (0x1FBE, 0x3B9),
   (0x1FC8, 0x1F72), (0x1FC9, 0x3AD), (0x1FCA, 0x1F74), (0x1FCB, 0x3AE), (0x1FD3, 0x390),
   (0x1FD8, 0x1FD0), (0x1FD9, 0x1FD1), (0x1FDA, 0x1F76), (0x1FDB, 0x3AF), (0x1FE3, 0x3B0),
   (0x1FE8, 0x1FE0), (0x1FE9, 0x1FE1), (0x1FEA, 0x1F7A), (0x1FEB, 0x3CD), (0x1FEC, 0x1FE5),
   (0x1FEF, 0x60), (0x1FF8, 0x1F78), (0x1FF9, 0x3CC), (0x1FFA, 0x1F7C), (0x1FFB, 0x3CE),
   (0x2011, 0x2010), (0x202F, 0x20), (0x205F, 0x20), (0x2070, 0x30), (0x2071, 0x69),
   (0x207A, 0x2B), (0x207B, 0x2212), (0x207C, 0x3D), (0x207D, 0x28), (0x207E, 0x29),
   (0x207F, 0x6E), (0x208A, 0x2B), (0x208B, 0x2212), (0x208C, 0x3D), (0x208D, 0x28),
   (0x208E, 0x29), (0x2090, 0x61), (0x2091, 0x65), (0x2092, 0x6F), (0x2093, 0x78),
   (0x2094, 0x259), (0x2095, 0x68), (0x209A, 0x70), (0x209B, 0x73), (0x209C, 0x74),
   (0x209D, 0x77), (0x209E, 0x79), (0x209F, 0x7A)]

/-- The characters from U+2100 on, each with the one it gives way to. -/
def highLetters : List (Nat × Nat) :=
  [(0x2102, 0x63), (0x2107, 0x25B), (0x210A, 0x67), (0x210F, 0x127), (0x2115, 0x6E),
   (0x2124, 0x7A), (0x2126, 0x3C9), (0x2128, 0x7A), (0x212A, 0x6B), (0x212B, 0xE5),
   (0x212C, 0x62), (0x212D, 0x63), (0x2131, 0x66), (0x2132, 0x214E), (0x2133, 0x6D),
   (0x2134, 0x6F), (0x2139, 0x69), (0x213C, 0x3C0), (0x213F, 0x3C0), (0x2140, 0x2211),
   (0x2147, 0x65), (0x2148, 0x69), (0x2149, 0x6A), (0x2160, 0x69), (0x2164, 0x76), (0x2169, 0x78),
   (0x216C, 0x6C), (0x216D, 0x63), (0x216E, 0x64), (0x216F, 0x6D), (0x2170, 0x69), (0x2174, 0x76),
   (0x2179, 0x78), (0x217C, 0x6C), (0x217D, 0x63), (0x217E, 0x64), (0x217F, 0x6D),
   (0x2183, 0x2184), (0x24EA, 0x30), (0x2C60, 0x2C61), (0x2C62, 0x26B), (0x2C63, 0x1D7D),
   (0x2C64, 0x27D), (0x2C6D, 0x251), (0x2C6E, 0x271), (0x2C6F, 0x250), (0x2C70, 0x252),
   (0x2C72, 0x2C73), (0x2C75, 0x2C76), (0x2C7C, 0x6A), (0x2C7D, 0x76), (0x2C7E, 0x23F),
   (0x2C7F, 0x240), (0x2CEB, 0x2CEC), (0x2CED, 0x2CEE), (0x2CF2, 0x2CF3), (0x2D6F, 0x2D61),
   (0x3000, 0x20), (0x3002, 0x2E), (0x3131, 0x1100), (0x3132, 0x1101), (0x3133, 0x11AA),
   (0x3134, 0x1102), (0x3135, 0x11AC), (0x3136, 0x11AD), (0x3140, 0x111A), (0x3144, 0x1121),
   (0x3165, 0x1114), (0x3166, 0x1115), (0x3167, 0x11C7), (0x3168, 0x11C8), (0x3169, 0x11CC),
   (0x316A, 0x11CE), (0x316B, 0x11D3), (0x316C, 0x11D7), (0x316D, 0x11D9), (0x316E, 0x111C),
   (0x316F, 0x11DD), (0x3170, 0x11DF), (0x3171, 0x111D), (0x3172, 0x111E), (0x3173, 0x1120),
   (0x3174, 0x1122), (0x3175, 0x1123), (0x3176, 0x1127), (0x3177, 0x1129), (0x317D, 0x1132),
   (0x317E, 0x1136), (0x317F, 0x1140), (0x3180, 0x1147), (0x3181, 0x114C), (0x3182, 0x11F1),
   (0x3183, 0x11F2), (0x3187, 0x1184), (0x3188, 0x1185), (0x3189, 0x1188), (0x318A, 0x1191),
   (0x318B, 0x1192), (0x318C, 0x1194), (0x318D, 0x119E), (0x318E, 0x11A1), (0x3260, 0x1100),
   (0x3261, 0x1102), (0x3262, 0x1103), (0x3266, 0x1109), (0x3267, 0x110B), (0x3268, 0x110C),
   (0xA69C, 0x44A), (0xA69D, 0x44C), (0xA77D, 0x1D79), (0xA78D, 0x265), (0xA7AA, 0x266),
   (0xA7AB, 0x25C), (0xA7AC, 0x261), (0xA7AD, 0x26C), (0xA7AE, 0x26A), (0xA7B0, 0x29E),
   (0xA7B1, 0x287), (0xA7B2, 0x29D), (0xA7C5, 0x282), (0xA7C6, 0x1D8E), (0xA7CB, 0x264),
   (0xA7DC, 0x19B), (0xA7F1, 0x73), (0xA7F2, 0x63), (0xA7F3, 0x66), (0xA7F4, 0x71),
   (0xA7F8, 0x127), (0xA7F9, 0x153), (0xAB5E, 0x26B), (0xAB69, 0x28D), (0xFB20, 0x5E2),
   (0xFB21, 0x5D0), (0xFB22, 0x5D3), (0xFB23, 0x5D4), (0xFB27, 0x5E8), (0xFB28, 0x5EA),
   (0xFB29, 0x2B), (0xFE10, 0x2C), (0xFE13, 0x3A), (0xFE14, 0x3B), (0xFE15, 0x21), (0xFE16, 0x3F),
   (0xFE31, 0x2014), (0xFE32, 0x2013), (0xFE35, 0x28), (0xFE36, 0x29), (0xFE37, 0x7B),
   (0xFE38, 0x7D), (0xFE47, 0x5B), (0xFE48, 0x5D), (0xFE50, 0x2C), (0xFE54, 0x3B), (0xFE55, 0x3A),
   (0xFE56, 0x3F), (0xFE57, 0x21), (0xFE58, 0x2014), (0xFE59, 0x28), (0xFE5A, 0x29),
   (0xFE5B, 0x7B), (0xFE5C, 0x7D), (0xFE5F, 0x23), (0xFE60, 0x26), (0xFE61, 0x2A), (0xFE62, 0x2B),
   (0xFE63, 0x2D), (0xFE64, 0x3C), (0xFE65, 0x3E), (0xFE66, 0x3D), (0xFE68, 0x5C), (0xFE69, 0x24),
   (0xFE6A, 0x25), (0xFE6B, 0x40), (0xFE80, 0x621), (0xFF5F, 0x2985), (0xFF60, 0x2986),
   (0xFF61, 0x2E), (0xFFA1, 0x1100), (0xFFA2, 0x1101), (0xFFA3, 0x11AA), (0xFFA4, 0x1102),
   (0xFFA5, 0x11AC), (0xFFA6, 0x11AD), (0xFFB0, 0x111A), (0xFFB4, 0x1121), (0xFFE0, 0xA2),
   (0xFFE1, 0xA3), (0xFFE2, 0xAC), (0xFFE4, 0xA6), (0xFFE5, 0xA5), (0xFFE6, 0x20A9),
   (0xFFE8, 0x2502), (0xFFED, 0x25A0), (0xFFEE, 0x25CB), (0x10781, 0x2D0), (0x10782, 0x2D1),
   (0x10783, 0xE6), (0x10784, 0x299), (0x10785, 0x253), (0x10787, 0x2A3), (0x10789, 0x2A5),
   (0x1078A, 0x2A4), (0x1078B, 0x256), (0x1078C, 0x257), (0x1078D, 0x1D91), (0x1078E, 0x258),
   (0x1078F, 0x25E), (0x10790, 0x2A9), (0x10791, 0x264), (0x10792, 0x262), (0x10793, 0x260),
   (0x10794, 0x29B), (0x10795, 0x127), (0x10796, 0x29C), (0x10797, 0x267), (0x10798, 0x284),
   (0x10799, 0x2AA), (0x1079A, 0x2AB), (0x1079B, 0x26C), (0x1079E, 0x26E), (0x107A0, 0x28E),
   (0x107A2, 0xF8), (0x107A3, 0x276), (0x107A4, 0x277), (0x107A5, 0x71), (0x107A6, 0x27A),
   (0x107A8, 0x27D), (0x107A9, 0x27E), (0x107AA, 0x280), (0x107AB, 0x2A8), (0x107AC, 0x2A6),
   (0x107AE, 0x2A7), (0x107AF, 0x288), (0x107B0, 0x2C71), (0x107B2, 0x28F), (0x107B3, 0x2A1),
   (0x107B4, 0x2A2), (0x107B5, 0x298), (0x107BB, 0x287), (0x107BC, 0x296), (0x107BD, 0x297),
   (0x107BE, 0x29E), (0x1D49C, 0x61), (0x1D49E, 0x63), (0x1D49F, 0x64), (0x1D4A2, 0x67),
   (0x1D4A5, 0x6A), (0x1D4A6, 0x6B), (0x1D4BB, 0x66), (0x1D504, 0x61), (0x1D505, 0x62),
   (0x1D538, 0x61), (0x1D539, 0x62), (0x1D546, 0x6F), (0x1D6A4, 0x131), (0x1D6A5, 0x237),
   (0x1D6B9, 0x3B8), (0x1D6C1, 0x2207), (0x1D6D3, 0x3C3), (0x1D6DB, 0x2202), (0x1D6DC, 0x3B5),
   (0x1D6DD, 0x3B8), (0x1D6DE, 0x3BA), (0x1D6DF, 0x3C6), (0x1D6E0, 0x3C1), (0x1D6E1, 0x3C0),
   (0x1D6F3, 0x3B8), (0x1D6FB, 0x2207), (0x1D70D, 0x3C3), (0x1D715, 0x2202), (0x1D716, 0x3B5),
   (0x1D717, 0x3B8), (0x1D718, 0x3BA), (0x1D719, 0x3C6), (0x1D71A, 0x3C1), (0x1D71B, 0x3C0),
   (0x1D72D, 0x3B8), (0x1D735, 0x2207), (0x1D747, 0x3C3), (0x1D74F, 0x2202), (0x1D750, 0x3B5),
   (0x1D751, 0x3B8), (0x1D752, 0x3BA), (0x1D753, 0x3C6), (0x1D754, 0x3C1), (0x1D755, 0x3C0),
   (0x1D767, 0x3B8), (0x1D76F, 0x2207), (0x1D781, 0x3C3), (0x1D789, 0x2202), (0x1D78A, 0x3B5),
   (0x1D78B, 0x3B8), (0x1D78C, 0x3BA), (0x1D78D, 0x3C6), (0x1D78E, 0x3C1), (0x1D78F, 0x3C0),
   (0x1D7A1, 0x3B8), (0x1D7A9, 0x2207), (0x1D7BB, 0x3C3), (0x1D7C3, 0x2202), (0x1D7C4, 0x3B5),
   (0x1D7C5, 0x3B8), (0x1D7C6, 0x3BA), (0x1D7C7, 0x3C6), (0x1D7C8, 0x3C1), (0x1D7C9, 0x3C0),
   (0x1E047, 0x44B), (0x1E048, 0x44D), (0x1E049, 0x44E), (0x1E04B, 0x4D9), (0x1E04C, 0x456),
   (0x1E04D, 0x458), (0x1E04E, 0x4E9), (0x1E04F, 0x4AF), (0x1E050, 0x4CF), (0x1E05A, 0x43A),
   (0x1E05B, 0x43B), (0x1E05C, 0x43E), (0x1E05D, 0x43F), (0x1E05E, 0x441), (0x1E065, 0x44A),
   (0x1E066, 0x44B), (0x1E067, 0x491), (0x1E068, 0x456), (0x1E069, 0x455), (0x1E06A, 0x45F),
   (0x1E06B, 0x4AB), (0x1E06D, 0x4B1), (0x1EE00, 0x627), (0x1EE01, 0x628), (0x1EE02, 0x62C),
   (0x1EE03, 0x62F), (0x1EE05, 0x648), (0x1EE06, 0x632), (0x1EE07, 0x62D), (0x1EE08, 0x637),
   (0x1EE09, 0x64A), (0x1EE0E, 0x633), (0x1EE0F, 0x639), (0x1EE10, 0x641), (0x1EE11, 0x635),
   (0x1EE12, 0x642), (0x1EE13, 0x631), (0x1EE14, 0x634), (0x1EE15, 0x62A), (0x1EE16, 0x62B),
   (0x1EE17, 0x62E), (0x1EE18, 0x630), (0x1EE19, 0x636), (0x1EE1A, 0x638), (0x1EE1B, 0x63A),
   (0x1EE1C, 0x66E), (0x1EE1D, 0x6BA), (0x1EE1E, 0x6A1), (0x1EE1F, 0x66F), (0x1EE21, 0x628),
   (0x1EE22, 0x62C), (0x1EE24, 0x647), (0x1EE27, 0x62D), (0x1EE29, 0x64A), (0x1EE2E, 0x633),
   (0x1EE2F, 0x639), (0x1EE30, 0x641), (0x1EE31, 0x635), (0x1EE32, 0x642), (0x1EE34, 0x634),
   (0x1EE35, 0x62A), (0x1EE36, 0x62B), (0x1EE37, 0x62E), (0x1EE39, 0x636), (0x1EE3B, 0x63A),
   (0x1EE42, 0x62C), (0x1EE47, 0x62D), (0x1EE49, 0x64A), (0x1EE4B, 0x644), (0x1EE4D, 0x646),
   (0x1EE4E, 0x633), (0x1EE4F, 0x639), (0x1EE51, 0x635), (0x1EE52, 0x642), (0x1EE54, 0x634),
   (0x1EE57, 0x62E), (0x1EE59, 0x636), (0x1EE5B, 0x63A), (0x1EE5D, 0x6BA), (0x1EE5F, 0x66F),
   (0x1EE61, 0x628), (0x1EE62, 0x62C), (0x1EE64, 0x647), (0x1EE67, 0x62D), (0x1EE68, 0x637),
   (0x1EE69, 0x64A), (0x1EE6A, 0x643), (0x1EE6C, 0x645), (0x1EE6D, 0x646), (0x1EE6E, 0x633),
   (0x1EE6F, 0x639), (0x1EE70, 0x641), (0x1EE71, 0x635), (0x1EE72, 0x642), (0x1EE74, 0x634),
   (0x1EE75, 0x62A), (0x1EE76, 0x62B), (0x1EE77, 0x62E), (0x1EE79, 0x636), (0x1EE7A, 0x638),
   (0x1EE7B, 0x63A), (0x1EE7C, 0x66E), (0x1EE7E, 0x6A1), (0x1EE80, 0x627), (0x1EE81, 0x628),
   (0x1EE82, 0x62C), (0x1EE83, 0x62F), (0x1EE84, 0x647), (0x1EE85, 0x648), (0x1EE86, 0x632),
   (0x1EE87, 0x62D), (0x1EE88, 0x637), (0x1EE89, 0x64A), (0x1EE8E, 0x633), (0x1EE8F, 0x639),
   (0x1EE90, 0x641), (0x1EE91, 0x635), (0x1EE92, 0x642), (0x1EE93, 0x631), (0x1EE94, 0x634),
   (0x1EE95, 0x62A), (0x1EE96, 0x62B), (0x1EE97, 0x62E), (0x1EE98, 0x630), (0x1EE99, 0x636),
   (0x1EE9A, 0x638), (0x1EE9B, 0x63A), (0x1EEA1, 0x628), (0x1EEA2, 0x62C), (0x1EEA3, 0x62F),
   (0x1EEA5, 0x648), (0x1EEA6, 0x632), (0x1EEA7, 0x62D), (0x1EEA8, 0x637), (0x1EEA9, 0x64A),
   (0x1EEAE, 0x633), (0x1EEAF, 0x639), (0x1EEB0, 0x641), (0x1EEB1, 0x635), (0x1EEB2, 0x642),
   (0x1EEB3, 0x631), (0x1EEB4, 0x634), (0x1EEB5, 0x62A), (0x1EEB6, 0x62B), (0x1EEB7, 0x62E),
   (0x1EEB8, 0x630), (0x1EEB9, 0x636), (0x1EEBA, 0x638), (0x1EEBB, 0x63A), (0x1F12B, 0x63),
   (0x1F12C, 0x72)]

/-- All single characters that give way to another outside the ideographs. -/
def letters : List (Nat × Nat) :=
  lowLetters ++ highLetters

end PeerCache.Domain.Folding
