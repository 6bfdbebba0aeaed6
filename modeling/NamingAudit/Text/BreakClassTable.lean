import NamingAudit.Text.BreakClass
import NamingAudit.Text.CodeRun

/-! The line breaking classes of characters, after the Unicode Character Database. The first group
that has a code point counts, and code points in no group are letters. Ambiguous and
context-dependent characters and those without a class count as letters, small kana as nonstarters. -/

namespace NamingAudit.Text.BreakClassTable

def inseparable : List CodeRun :=
  [⟨0x2024, 0x2026, 1⟩, ⟨0x22ef, 0x22ef, 1⟩, ⟨0xfe19, 0xfe19, 1⟩, ⟨0x10af6, 0x10af6, 1⟩]

def separator : List CodeRun :=
  [⟨0x2c, 0x2e, 1⟩, ⟨0x3a, 0x3b, 1⟩, ⟨0x37e, 0x37e, 1⟩, ⟨0x589, 0x589, 1⟩, ⟨0x60c, 0x60d, 1⟩,
   ⟨0x7f8, 0x7f8, 1⟩, ⟨0x2044, 0x2044, 1⟩, ⟨0xfe10, 0xfe10, 1⟩, ⟨0xfe13, 0xfe14, 1⟩]

def hebrewLetter : List CodeRun :=
  [⟨0x5d0, 0x5ea, 1⟩, ⟨0x5ef, 0x5f2, 1⟩, ⟨0xfb1d, 0xfb1d, 1⟩, ⟨0xfb1f, 0xfb28, 1⟩,
   ⟨0xfb2a, 0xfb36, 1⟩, ⟨0xfb38, 0xfb3c, 1⟩, ⟨0xfb3e, 0xfb3e, 1⟩, ⟨0xfb40, 0xfb41, 1⟩,
   ⟨0xfb43, 0xfb44, 1⟩, ⟨0xfb46, 0xfb4f, 1⟩]

def quotation : List CodeRun :=
  [⟨0x22, 0x22, 1⟩, ⟨0x27, 0x27, 1⟩, ⟨0xab, 0xab, 1⟩, ⟨0xbb, 0xbb, 1⟩, ⟨0x2018, 0x2019, 1⟩,
   ⟨0x201b, 0x201d, 1⟩, ⟨0x201f, 0x201f, 1⟩, ⟨0x2039, 0x203a, 1⟩, ⟨0x275b, 0x2760, 1⟩,
   ⟨0x2e00, 0x2e0d, 1⟩, ⟨0x2e1c, 0x2e1d, 1⟩, ⟨0x2e20, 0x2e21, 1⟩, ⟨0x1f676, 0x1f678, 1⟩]

def glue : List CodeRun :=
  [⟨0xa0, 0xa0, 1⟩, ⟨0x34f, 0x34f, 1⟩, ⟨0x35c, 0x362, 1⟩, ⟨0xf08, 0xf08, 1⟩, ⟨0xf0c, 0xf0c, 1⟩,
   ⟨0xf12, 0xf12, 1⟩, ⟨0xfd9, 0xfda, 1⟩, ⟨0x180e, 0x180e, 1⟩, ⟨0x1dcd, 0x1dcd, 1⟩,
   ⟨0x1dfc, 0x1dfc, 1⟩, ⟨0x2007, 0x2007, 1⟩, ⟨0x2011, 0x2011, 1⟩, ⟨0x202f, 0x202f, 1⟩,
   ⟨0x13430, 0x13436, 1⟩, ⟨0x13439, 0x1343b, 1⟩, ⟨0x16fe4, 0x16fe4, 1⟩]

def exclamation : List CodeRun :=
  [⟨0x21, 0x21, 1⟩, ⟨0x3f, 0x3f, 1⟩, ⟨0x5c6, 0x5c6, 1⟩, ⟨0x61b, 0x61b, 1⟩, ⟨0x61d, 0x61f, 1⟩,
   ⟨0x6d4, 0x6d4, 1⟩, ⟨0x7f9, 0x7f9, 1⟩, ⟨0xf0d, 0xf11, 1⟩, ⟨0xf14, 0xf14, 1⟩, ⟨0x1802, 0x1803, 1⟩,
   ⟨0x1808, 0x1809, 1⟩, ⟨0x1944, 0x1945, 1⟩, ⟨0x2762, 0x2763, 1⟩, ⟨0x2cf9, 0x2cf9, 1⟩,
   ⟨0x2cfe, 0x2cfe, 1⟩, ⟨0x2e2e, 0x2e2e, 1⟩, ⟨0x2e53, 0x2e54, 1⟩, ⟨0xa60e, 0xa60e, 1⟩,
   ⟨0xa876, 0xa877, 1⟩, ⟨0xfe15, 0xfe16, 1⟩, ⟨0xfe56, 0xfe57, 1⟩, ⟨0xff01, 0xff01, 1⟩,
   ⟨0xff1f, 0xff1f, 1⟩, ⟨0x115c4, 0x115c5, 1⟩, ⟨0x11c71, 0x11c71, 1⟩]

def beforeNumber : List CodeRun :=
  [⟨0x24, 0x24, 1⟩, ⟨0x2b, 0x2b, 1⟩, ⟨0x5c, 0x5c, 1⟩, ⟨0xa3, 0xa5, 1⟩, ⟨0xb1, 0xb1, 1⟩,
   ⟨0x58f, 0x58f, 1⟩, ⟨0x7fe, 0x7ff, 1⟩, ⟨0x9fb, 0x9fb, 1⟩, ⟨0xaf1, 0xaf1, 1⟩, ⟨0xbf9, 0xbf9, 1⟩,
   ⟨0xe3f, 0xe3f, 1⟩, ⟨0x17db, 0x17db, 1⟩, ⟨0x20a0, 0x20a6, 1⟩, ⟨0x20a8, 0x20b5, 1⟩,
   ⟨0x20b7, 0x20ba, 1⟩, ⟨0x20bc, 0x20bd, 1⟩, ⟨0x20bf, 0x20bf, 1⟩, ⟨0x20c1, 0x20cf, 1⟩,
   ⟨0x2116, 0x2116, 1⟩, ⟨0x2212, 0x2213, 1⟩, ⟨0xfe69, 0xfe69, 1⟩, ⟨0xff04, 0xff04, 1⟩,
   ⟨0xffe1, 0xffe1, 1⟩, ⟨0xffe5, 0xffe6, 1⟩, ⟨0x1e2ff, 0x1e2ff, 1⟩]

def afterNumber : List CodeRun :=
  [⟨0x25, 0x25, 1⟩, ⟨0xa2, 0xa2, 1⟩, ⟨0xb0, 0xb0, 1⟩, ⟨0x609, 0x60b, 1⟩, ⟨0x66a, 0x66a, 1⟩,
   ⟨0x9f2, 0x9f3, 1⟩, ⟨0x9f9, 0x9f9, 1⟩, ⟨0xd79, 0xd79, 1⟩, ⟨0x2030, 0x2037, 1⟩,
   ⟨0x2057, 0x2057, 1⟩, ⟨0x20a7, 0x20c0, 1⟩, ⟨0x2103, 0x2103, 1⟩, ⟨0x2109, 0x2109, 1⟩,
   ⟨0xa838, 0xa838, 1⟩, ⟨0xfdfc, 0xfdfc, 1⟩, ⟨0xfe6a, 0xfe6a, 1⟩, ⟨0xff05, 0xff05, 1⟩,
   ⟨0xffe0, 0xffe0, 1⟩, ⟨0x11fdd, 0x11fe0, 1⟩, ⟨0x1ecac, 0x1ecac, 1⟩, ⟨0x1ecb0, 0x1ecb0, 1⟩]

def breakBefore : List CodeRun :=
  [⟨0xb4, 0xb4, 1⟩, ⟨0x2c8, 0x2c8, 1⟩, ⟨0x2cc, 0x2cc, 1⟩, ⟨0x2df, 0x2df, 1⟩, ⟨0xc77, 0xc77, 1⟩,
   ⟨0xc84, 0xc84, 1⟩, ⟨0xf01, 0xf04, 1⟩, ⟨0xf06, 0xf0a, 1⟩, ⟨0xfd0, 0xfd1, 1⟩, ⟨0xfd3, 0xfd3, 1⟩,
   ⟨0x1806, 0x1806, 1⟩, ⟨0x1ffd, 0x1ffd, 1⟩, ⟨0xa874, 0xa875, 1⟩, ⟨0xa8fc, 0xa8fc, 1⟩,
   ⟨0x11175, 0x11175, 1⟩, ⟨0x111db, 0x111db, 1⟩, ⟨0x115c1, 0x115c1, 1⟩, ⟨0x11660, 0x1166c, 1⟩,
   ⟨0x119e2, 0x119e2, 1⟩, ⟨0x11a3f, 0x11a3f, 1⟩, ⟨0x11a45, 0x11a45, 1⟩, ⟨0x11a9e, 0x11aa0, 1⟩,
   ⟨0x11b00, 0x11b09, 1⟩, ⟨0x11c70, 0x11c70, 1⟩]

def emojiBase : List CodeRun :=
  [⟨0x261d, 0x261d, 1⟩, ⟨0x26f9, 0x26f9, 1⟩, ⟨0x270a, 0x270d, 1⟩, ⟨0x1f385, 0x1f385, 1⟩,
   ⟨0x1f3c2, 0x1f3c4, 1⟩, ⟨0x1f3c7, 0x1f3c7, 1⟩, ⟨0x1f3ca, 0x1f3cc, 1⟩, ⟨0x1f442, 0x1f443, 1⟩,
   ⟨0x1f446, 0x1f450, 1⟩, ⟨0x1f466, 0x1f478, 1⟩, ⟨0x1f47c, 0x1f47c, 1⟩, ⟨0x1f481, 0x1f483, 1⟩,
   ⟨0x1f485, 0x1f487, 1⟩, ⟨0x1f48f, 0x1f48f, 1⟩, ⟨0x1f491, 0x1f491, 1⟩, ⟨0x1f4aa, 0x1f4aa, 1⟩,
   ⟨0x1f574, 0x1f575, 1⟩, ⟨0x1f57a, 0x1f57a, 1⟩, ⟨0x1f590, 0x1f590, 1⟩, ⟨0x1f595, 0x1f596, 1⟩,
   ⟨0x1f645, 0x1f647, 1⟩, ⟨0x1f64b, 0x1f64f, 1⟩, ⟨0x1f6a3, 0x1f6a3, 1⟩, ⟨0x1f6b4, 0x1f6b6, 1⟩,
   ⟨0x1f6c0, 0x1f6c0, 1⟩, ⟨0x1f6cc, 0x1f6cc, 1⟩, ⟨0x1f90c, 0x1f90c, 1⟩, ⟨0x1f90f, 0x1f90f, 1⟩,
   ⟨0x1f918, 0x1f91f, 1⟩, ⟨0x1f926, 0x1f926, 1⟩, ⟨0x1f930, 0x1f939, 1⟩, ⟨0x1f93c, 0x1f93e, 1⟩,
   ⟨0x1f977, 0x1f977, 1⟩, ⟨0x1f9b5, 0x1f9b6, 1⟩, ⟨0x1f9b8, 0x1f9b9, 1⟩, ⟨0x1f9bb, 0x1f9bb, 1⟩,
   ⟨0x1f9cd, 0x1f9cf, 1⟩, ⟨0x1f9d1, 0x1f9dd, 1⟩, ⟨0x1fac3, 0x1fac5, 1⟩, ⟨0x1faf0, 0x1faf8, 1⟩]

def nonstarter : List CodeRun :=
  [⟨0x17d6, 0x17d6, 1⟩, ⟨0x203c, 0x203d, 1⟩, ⟨0x2047, 0x2049, 1⟩, ⟨0x3005, 0x3005, 1⟩,
   ⟨0x301c, 0x301c, 1⟩, ⟨0x303b, 0x303c, 1⟩, ⟨0x3041, 0x3049, 2⟩, ⟨0x3063, 0x3063, 1⟩,
   ⟨0x3083, 0x3087, 2⟩, ⟨0x308e, 0x308e, 1⟩, ⟨0x3095, 0x3096, 1⟩, ⟨0x309b, 0x309e, 1⟩,
   ⟨0x30a0, 0x30a1, 1⟩, ⟨0x30a3, 0x30a9, 2⟩, ⟨0x30c3, 0x30c3, 1⟩, ⟨0x30e3, 0x30e7, 2⟩,
   ⟨0x30ee, 0x30ee, 1⟩, ⟨0x30f5, 0x30f6, 1⟩, ⟨0x30fb, 0x30fe, 1⟩, ⟨0x31f0, 0x31ff, 1⟩,
   ⟨0xa015, 0xa015, 1⟩, ⟨0xfe54, 0xfe55, 1⟩, ⟨0xff1a, 0xff1b, 1⟩, ⟨0xff65, 0xff65, 1⟩,
   ⟨0xff67, 0xff70, 1⟩, ⟨0xff9e, 0xff9f, 1⟩, ⟨0x16fe0, 0x16fe3, 1⟩, ⟨0x1b132, 0x1b132, 1⟩,
   ⟨0x1b150, 0x1b152, 1⟩, ⟨0x1b155, 0x1b155, 1⟩, ⟨0x1b164, 0x1b167, 1⟩, ⟨0x1f679, 0x1f67b, 1⟩]

def digit : List CodeRun :=
  [⟨0x30, 0x39, 1⟩, ⟨0x660, 0x66c, 1⟩, ⟨0x6f0, 0x6f9, 1⟩, ⟨0x7c0, 0x7c9, 1⟩, ⟨0x966, 0x96f, 1⟩,
   ⟨0x9e6, 0x9ef, 1⟩, ⟨0xa66, 0xa6f, 1⟩, ⟨0xae6, 0xaef, 1⟩, ⟨0xb66, 0xb6f, 1⟩, ⟨0xbe6, 0xbef, 1⟩,
   ⟨0xc66, 0xc6f, 1⟩, ⟨0xce6, 0xcef, 1⟩, ⟨0xd66, 0xd6f, 1⟩, ⟨0xde6, 0xdef, 1⟩, ⟨0xe50, 0xe59, 1⟩,
   ⟨0xed0, 0xed9, 1⟩, ⟨0xf20, 0xf29, 1⟩, ⟨0x1040, 0x1049, 1⟩, ⟨0x1090, 0x1099, 1⟩,
   ⟨0x17e0, 0x17e9, 1⟩, ⟨0x1810, 0x1819, 1⟩, ⟨0x1946, 0x194f, 1⟩, ⟨0x19d0, 0x19d9, 1⟩,
   ⟨0x1a80, 0x1a89, 1⟩, ⟨0x1a90, 0x1a99, 1⟩, ⟨0x1b50, 0x1b59, 1⟩, ⟨0x1bb0, 0x1bb9, 1⟩,
   ⟨0x1c40, 0x1c49, 1⟩, ⟨0x1c50, 0x1c59, 1⟩, ⟨0xa620, 0xa629, 1⟩, ⟨0xa8d0, 0xa8d9, 1⟩,
   ⟨0xa900, 0xa909, 1⟩, ⟨0xa9d0, 0xa9d9, 1⟩, ⟨0xa9f0, 0xa9f9, 1⟩, ⟨0xaa50, 0xaa59, 1⟩,
   ⟨0xabf0, 0xabf9, 1⟩, ⟨0x104a0, 0x104a9, 1⟩, ⟨0x10d30, 0x10d39, 1⟩, ⟨0x11066, 0x1106f, 1⟩,
   ⟨0x110f0, 0x110f9, 1⟩, ⟨0x11136, 0x1113f, 1⟩, ⟨0x111d0, 0x111d9, 1⟩, ⟨0x112f0, 0x112f9, 1⟩,
   ⟨0x11450, 0x11459, 1⟩, ⟨0x114d0, 0x114d9, 1⟩, ⟨0x11650, 0x11659, 1⟩, ⟨0x116c0, 0x116c9, 1⟩,
   ⟨0x11730, 0x11739, 1⟩, ⟨0x118e0, 0x118e9, 1⟩, ⟨0x11950, 0x11959, 1⟩, ⟨0x11c50, 0x11c59, 1⟩,
   ⟨0x11d50, 0x11d59, 1⟩, ⟨0x11da0, 0x11da9, 1⟩, ⟨0x11f50, 0x11f59, 1⟩, ⟨0x16a60, 0x16a69, 1⟩,
   ⟨0x16ac0, 0x16ac9, 1⟩, ⟨0x16b50, 0x16b59, 1⟩, ⟨0x1d7ce, 0x1d7ff, 1⟩, ⟨0x1e140, 0x1e149, 1⟩,
   ⟨0x1e2f0, 0x1e2f9, 1⟩, ⟨0x1e4f0, 0x1e4f9, 1⟩, ⟨0x1e950, 0x1e959, 1⟩, ⟨0x1fbf0, 0x1fbf9, 1⟩]

def opening : List CodeRun :=
  [⟨0x28, 0x28, 1⟩, ⟨0x5b, 0x5b, 1⟩, ⟨0x7b, 0x7b, 1⟩, ⟨0xa1, 0xa1, 1⟩, ⟨0xbf, 0xbf, 1⟩,
   ⟨0xf3a, 0xf3a, 1⟩, ⟨0xf3c, 0xf3c, 1⟩, ⟨0x169b, 0x169b, 1⟩, ⟨0x201a, 0x201e, 1⟩,
   ⟨0x2045, 0x2045, 1⟩, ⟨0x207d, 0x207d, 1⟩, ⟨0x208d, 0x208d, 1⟩, ⟨0x2308, 0x2308, 1⟩,
   ⟨0x230a, 0x230a, 1⟩, ⟨0x2329, 0x2329, 1⟩, ⟨0x2768, 0x2774, 2⟩, ⟨0x27c5, 0x27c5, 1⟩,
   ⟨0x27e6, 0x27ee, 2⟩, ⟨0x2983, 0x2997, 2⟩, ⟨0x29d8, 0x29d8, 1⟩, ⟨0x29da, 0x29da, 1⟩,
   ⟨0x29fc, 0x29fc, 1⟩, ⟨0x2e18, 0x2e18, 1⟩, ⟨0x2e22, 0x2e28, 2⟩, ⟨0x2e42, 0x2e42, 1⟩,
   ⟨0x2e55, 0x2e5b, 2⟩, ⟨0x3008, 0x3010, 2⟩, ⟨0x3014, 0x301a, 2⟩, ⟨0x301d, 0x301d, 1⟩,
   ⟨0xfd3f, 0xfd3f, 1⟩, ⟨0xfe17, 0xfe17, 1⟩, ⟨0xfe35, 0xfe43, 2⟩, ⟨0xfe47, 0xfe47, 1⟩,
   ⟨0xfe59, 0xfe5d, 2⟩, ⟨0xff08, 0xff08, 1⟩, ⟨0xff3b, 0xff3b, 1⟩, ⟨0xff5b, 0xff5b, 1⟩,
   ⟨0xff5f, 0xff5f, 1⟩, ⟨0xff62, 0xff62, 1⟩, ⟨0x13258, 0x1325a, 1⟩, ⟨0x13286, 0x13286, 1⟩,
   ⟨0x13288, 0x13288, 1⟩, ⟨0x13379, 0x13379, 1⟩, ⟨0x13437, 0x13437, 1⟩, ⟨0x1343c, 0x1343c, 1⟩,
   ⟨0x1343e, 0x1343e, 1⟩, ⟨0x145ce, 0x145ce, 1⟩, ⟨0x1e95e, 0x1e95f, 1⟩]

def closing : List CodeRun :=
  [⟨0x7d, 0x7d, 1⟩, ⟨0xf3b, 0xf3d, 1⟩, ⟨0x169c, 0x169c, 1⟩, ⟨0x2046, 0x2046, 1⟩,
   ⟨0x207e, 0x207e, 1⟩, ⟨0x208e, 0x208e, 1⟩, ⟨0x2309, 0x230b, 1⟩, ⟨0x232a, 0x232a, 1⟩,
   ⟨0x2769, 0x2775, 1⟩, ⟨0x27c6, 0x27c6, 1⟩, ⟨0x27e7, 0x27ef, 1⟩, ⟨0x2984, 0x2998, 1⟩,
   ⟨0x29d9, 0x29db, 1⟩, ⟨0x29fd, 0x29fd, 1⟩, ⟨0x2e23, 0x2e29, 1⟩, ⟨0x2e56, 0x2e5c, 1⟩,
   ⟨0x3001, 0x3002, 1⟩, ⟨0x3009, 0x3011, 1⟩, ⟨0x3015, 0x301f, 1⟩, ⟨0xfd3e, 0xfd3e, 1⟩,
   ⟨0xfe11, 0xfe18, 1⟩, ⟨0xfe36, 0xfe44, 1⟩, ⟨0xfe48, 0xfe48, 1⟩, ⟨0xfe50, 0xfe50, 1⟩,
   ⟨0xfe52, 0xfe52, 1⟩, ⟨0xfe5a, 0xfe5e, 1⟩, ⟨0xff09, 0xff09, 1⟩, ⟨0xff0c, 0xff0c, 1⟩,
   ⟨0xff0e, 0xff0e, 1⟩, ⟨0xff3d, 0xff3d, 1⟩, ⟨0xff5d, 0xff5d, 1⟩, ⟨0xff60, 0xff64, 1⟩,
   ⟨0x1325b, 0x1325d, 1⟩, ⟨0x13282, 0x13282, 1⟩, ⟨0x13287, 0x13289, 1⟩, ⟨0x1337a, 0x1337b, 1⟩,
   ⟨0x13438, 0x1343f, 1⟩, ⟨0x145cf, 0x145cf, 1⟩]

def breakAfter : List CodeRun :=
  [⟨9, 9, 1⟩, ⟨0x7c, 0x7c, 1⟩, ⟨0xad, 0xad, 1⟩, ⟨0x58a, 0x58a, 1⟩, ⟨0x5be, 0x5be, 1⟩,
   ⟨0x964, 0x965, 1⟩, ⟨0xe5a, 0xe5b, 1⟩, ⟨0xf0b, 0xf0b, 1⟩, ⟨0xf34, 0xf34, 1⟩, ⟨0xf7f, 0xf7f, 1⟩,
   ⟨0xf85, 0xf85, 1⟩, ⟨0xfbe, 0xfbf, 1⟩, ⟨0xfd2, 0xfd2, 1⟩, ⟨0x104a, 0x104b, 1⟩,
   ⟨0x1361, 0x1361, 1⟩, ⟨0x1400, 0x1400, 1⟩, ⟨0x1680, 0x1680, 1⟩, ⟨0x16eb, 0x16ed, 1⟩,
   ⟨0x1735, 0x1736, 1⟩, ⟨0x17d4, 0x17d5, 1⟩, ⟨0x17d8, 0x17d8, 1⟩, ⟨0x17da, 0x17da, 1⟩,
   ⟨0x1804, 0x1805, 1⟩, ⟨0x1b5a, 0x1b5b, 1⟩, ⟨0x1b5d, 0x1b60, 1⟩, ⟨0x1b7d, 0x1b7e, 1⟩,
   ⟨0x1c3b, 0x1c3f, 1⟩, ⟨0x1c7e, 0x1c7f, 1⟩, ⟨0x2000, 0x200a, 1⟩, ⟨0x2010, 0x2013, 1⟩,
   ⟨0x2027, 0x2027, 1⟩, ⟨0x2056, 0x205b, 1⟩, ⟨0x205d, 0x205f, 1⟩, ⟨0x2cfa, 0x2cfc, 1⟩,
   ⟨0x2cff, 0x2cff, 1⟩, ⟨0x2d70, 0x2d70, 1⟩, ⟨0x2e0e, 0x2e15, 1⟩, ⟨0x2e17, 0x2e19, 1⟩,
   ⟨0x2e2a, 0x2e2d, 1⟩, ⟨0x2e30, 0x2e31, 1⟩, ⟨0x2e33, 0x2e34, 1⟩, ⟨0x2e3c, 0x2e3e, 1⟩,
   ⟨0x2e40, 0x2e4a, 1⟩, ⟨0x2e4c, 0x2e4c, 1⟩, ⟨0x2e4e, 0x2e4f, 1⟩, ⟨0x2e5d, 0x2e5d, 1⟩,
   ⟨0x3000, 0x3000, 1⟩, ⟨0xa4fe, 0xa4ff, 1⟩, ⟨0xa60d, 0xa60f, 1⟩, ⟨0xa6f3, 0xa6f7, 1⟩,
   ⟨0xa8ce, 0xa8cf, 1⟩, ⟨0xa92e, 0xa92f, 1⟩, ⟨0xa9c7, 0xa9c9, 1⟩, ⟨0xaa5d, 0xaa5f, 1⟩,
   ⟨0xaaf0, 0xaaf1, 1⟩, ⟨0xabeb, 0xabeb, 1⟩, ⟨0x10100, 0x10102, 1⟩, ⟨0x1039f, 0x1039f, 1⟩,
   ⟨0x103d0, 0x103d0, 1⟩, ⟨0x10857, 0x10857, 1⟩, ⟨0x1091f, 0x1091f, 1⟩, ⟨0x10a50, 0x10a57, 1⟩,
   ⟨0x10af0, 0x10af5, 1⟩, ⟨0x10b39, 0x10b3f, 1⟩, ⟨0x10ead, 0x10ead, 1⟩, ⟨0x11047, 0x11048, 1⟩,
   ⟨0x110be, 0x110c1, 1⟩, ⟨0x11140, 0x11143, 1⟩, ⟨0x111c5, 0x111c6, 1⟩, ⟨0x111c8, 0x111c8, 1⟩,
   ⟨0x111dd, 0x111df, 1⟩, ⟨0x11238, 0x11239, 1⟩, ⟨0x1123b, 0x1123c, 1⟩, ⟨0x112a9, 0x112a9, 1⟩,
   ⟨0x1144b, 0x1144e, 1⟩, ⟨0x1145a, 0x1145b, 1⟩, ⟨0x115c2, 0x115c3, 1⟩, ⟨0x115c9, 0x115d7, 1⟩,
   ⟨0x11641, 0x11642, 1⟩, ⟨0x1173c, 0x1173e, 1⟩, ⟨0x11944, 0x11946, 1⟩, ⟨0x11a41, 0x11a44, 1⟩,
   ⟨0x11a9a, 0x11a9c, 1⟩, ⟨0x11aa1, 0x11aa2, 1⟩, ⟨0x11c41, 0x11c45, 1⟩, ⟨0x11f43, 0x11f44, 1⟩,
   ⟨0x11fff, 0x11fff, 1⟩, ⟨0x12470, 0x12474, 1⟩, ⟨0x16a6e, 0x16a6f, 1⟩, ⟨0x16af5, 0x16af5, 1⟩,
   ⟨0x16b37, 0x16b39, 1⟩, ⟨0x16b44, 0x16b44, 1⟩, ⟨0x16e97, 0x16e98, 1⟩, ⟨0x1bc9f, 0x1bc9f, 1⟩,
   ⟨0x1da87, 0x1da8a, 1⟩]

def mark : List CodeRun :=
  [⟨0, 0x1f, 1⟩, ⟨0x7f, 0x9f, 1⟩, ⟨0x300, 0x36f, 1⟩, ⟨0x483, 0x489, 1⟩, ⟨0x591, 0x5bf, 1⟩,
   ⟨0x5c1, 0x5c2, 1⟩, ⟨0x5c4, 0x5c7, 1⟩, ⟨0x610, 0x61c, 1⟩, ⟨0x64b, 0x65f, 1⟩, ⟨0x670, 0x670, 1⟩,
   ⟨0x6d6, 0x6dc, 1⟩, ⟨0x6df, 0x6e4, 1⟩, ⟨0x6e7, 0x6e8, 1⟩, ⟨0x6ea, 0x6ed, 1⟩, ⟨0x711, 0x711, 1⟩,
   ⟨0x730, 0x74a, 1⟩, ⟨0x7a6, 0x7b0, 1⟩, ⟨0x7eb, 0x7f3, 1⟩, ⟨0x7fd, 0x7fd, 1⟩, ⟨0x816, 0x819, 1⟩,
   ⟨0x81b, 0x823, 1⟩, ⟨0x825, 0x827, 1⟩, ⟨0x829, 0x82d, 1⟩, ⟨0x859, 0x85b, 1⟩, ⟨0x898, 0x89f, 1⟩,
   ⟨0x8ca, 0x8e1, 1⟩, ⟨0x8e3, 0x903, 1⟩, ⟨0x93a, 0x93c, 1⟩, ⟨0x93e, 0x94f, 1⟩, ⟨0x951, 0x957, 1⟩,
   ⟨0x962, 0x963, 1⟩, ⟨0x981, 0x983, 1⟩, ⟨0x9bc, 0x9bc, 1⟩, ⟨0x9be, 0x9c4, 1⟩, ⟨0x9c7, 0x9c8, 1⟩,
   ⟨0x9cb, 0x9cd, 1⟩, ⟨0x9d7, 0x9d7, 1⟩, ⟨0x9e2, 0x9e3, 1⟩, ⟨0x9fe, 0x9fe, 1⟩, ⟨0xa01, 0xa03, 1⟩,
   ⟨0xa3c, 0xa3c, 1⟩, ⟨0xa3e, 0xa42, 1⟩, ⟨0xa47, 0xa48, 1⟩, ⟨0xa4b, 0xa4d, 1⟩, ⟨0xa51, 0xa51, 1⟩,
   ⟨0xa70, 0xa71, 1⟩, ⟨0xa75, 0xa75, 1⟩, ⟨0xa81, 0xa83, 1⟩, ⟨0xabc, 0xabc, 1⟩, ⟨0xabe, 0xac5, 1⟩,
   ⟨0xac7, 0xac9, 1⟩, ⟨0xacb, 0xacd, 1⟩, ⟨0xae2, 0xae3, 1⟩, ⟨0xafa, 0xaff, 1⟩, ⟨0xb01, 0xb03, 1⟩,
   ⟨0xb3c, 0xb3c, 1⟩, ⟨0xb3e, 0xb44, 1⟩, ⟨0xb47, 0xb48, 1⟩, ⟨0xb4b, 0xb4d, 1⟩, ⟨0xb55, 0xb57, 1⟩,
   ⟨0xb62, 0xb63, 1⟩, ⟨0xb82, 0xb82, 1⟩, ⟨0xbbe, 0xbc2, 1⟩, ⟨0xbc6, 0xbc8, 1⟩, ⟨0xbca, 0xbcd, 1⟩,
   ⟨0xbd7, 0xbd7, 1⟩, ⟨0xc00, 0xc04, 1⟩, ⟨0xc3c, 0xc3c, 1⟩, ⟨0xc3e, 0xc44, 1⟩, ⟨0xc46, 0xc48, 1⟩,
   ⟨0xc4a, 0xc4d, 1⟩, ⟨0xc55, 0xc56, 1⟩, ⟨0xc62, 0xc63, 1⟩, ⟨0xc81, 0xc83, 1⟩, ⟨0xcbc, 0xcbc, 1⟩,
   ⟨0xcbe, 0xcc4, 1⟩, ⟨0xcc6, 0xcc8, 1⟩, ⟨0xcca, 0xccd, 1⟩, ⟨0xcd5, 0xcd6, 1⟩, ⟨0xce2, 0xce3, 1⟩,
   ⟨0xcf3, 0xcf3, 1⟩, ⟨0xd00, 0xd03, 1⟩, ⟨0xd3b, 0xd3c, 1⟩, ⟨0xd3e, 0xd44, 1⟩, ⟨0xd46, 0xd48, 1⟩,
   ⟨0xd4a, 0xd4d, 1⟩, ⟨0xd57, 0xd57, 1⟩, ⟨0xd62, 0xd63, 1⟩, ⟨0xd81, 0xd83, 1⟩, ⟨0xdca, 0xdca, 1⟩,
   ⟨0xdcf, 0xdd4, 1⟩, ⟨0xdd6, 0xdd6, 1⟩, ⟨0xdd8, 0xddf, 1⟩, ⟨0xdf2, 0xdf3, 1⟩, ⟨0xf18, 0xf19, 1⟩,
   ⟨0xf35, 0xf35, 1⟩, ⟨0xf37, 0xf37, 1⟩, ⟨0xf39, 0xf3f, 1⟩, ⟨0xf71, 0xf87, 1⟩, ⟨0xf8d, 0xf97, 1⟩,
   ⟨0xf99, 0xfbc, 1⟩, ⟨0xfc6, 0xfc6, 1⟩, ⟨0x135d, 0x135f, 1⟩, ⟨0x1712, 0x1715, 1⟩,
   ⟨0x1732, 0x1734, 1⟩, ⟨0x1752, 0x1753, 1⟩, ⟨0x1772, 0x1773, 1⟩, ⟨0x180b, 0x180f, 1⟩,
   ⟨0x1885, 0x1886, 1⟩, ⟨0x18a9, 0x18a9, 1⟩, ⟨0x1920, 0x192b, 1⟩, ⟨0x1930, 0x193b, 1⟩,
   ⟨0x1a17, 0x1a1b, 1⟩, ⟨0x1a7f, 0x1a7f, 1⟩, ⟨0x1ab0, 0x1ace, 1⟩, ⟨0x1b00, 0x1b04, 1⟩,
   ⟨0x1b34, 0x1b44, 1⟩, ⟨0x1b6b, 0x1b73, 1⟩, ⟨0x1b80, 0x1b82, 1⟩, ⟨0x1ba1, 0x1bad, 1⟩,
   ⟨0x1be6, 0x1bf3, 1⟩, ⟨0x1c24, 0x1c37, 1⟩, ⟨0x1cd0, 0x1cd2, 1⟩, ⟨0x1cd4, 0x1ce8, 1⟩,
   ⟨0x1ced, 0x1ced, 1⟩, ⟨0x1cf4, 0x1cf4, 1⟩, ⟨0x1cf7, 0x1cf9, 1⟩, ⟨0x1dc0, 0x1dff, 1⟩,
   ⟨0x200c, 0x200f, 1⟩, ⟨0x202a, 0x202e, 1⟩, ⟨0x2066, 0x206f, 1⟩, ⟨0x20d0, 0x20f0, 1⟩,
   ⟨0x2cef, 0x2cf1, 1⟩, ⟨0x2d7f, 0x2d7f, 1⟩, ⟨0x2de0, 0x2dff, 1⟩, ⟨0x302a, 0x302f, 1⟩,
   ⟨0x3035, 0x3035, 1⟩, ⟨0x3099, 0x309a, 1⟩, ⟨0xa66f, 0xa672, 1⟩, ⟨0xa674, 0xa67d, 1⟩,
   ⟨0xa69e, 0xa69f, 1⟩, ⟨0xa6f0, 0xa6f1, 1⟩, ⟨0xa802, 0xa802, 1⟩, ⟨0xa806, 0xa806, 1⟩,
   ⟨0xa80b, 0xa80b, 1⟩, ⟨0xa823, 0xa827, 1⟩, ⟨0xa82c, 0xa82c, 1⟩, ⟨0xa880, 0xa881, 1⟩,
   ⟨0xa8b4, 0xa8c5, 1⟩, ⟨0xa8e0, 0xa8f1, 1⟩, ⟨0xa8ff, 0xa8ff, 1⟩, ⟨0xa926, 0xa92d, 1⟩,
   ⟨0xa947, 0xa953, 1⟩, ⟨0xa980, 0xa983, 1⟩, ⟨0xa9b3, 0xa9c0, 1⟩, ⟨0xaa29, 0xaa36, 1⟩,
   ⟨0xaa43, 0xaa43, 1⟩, ⟨0xaa4c, 0xaa4d, 1⟩, ⟨0xaaeb, 0xaaef, 1⟩, ⟨0xaaf5, 0xaaf6, 1⟩,
   ⟨0xabe3, 0xabed, 1⟩, ⟨0xfb1e, 0xfb1e, 1⟩, ⟨0xfe00, 0xfe0f, 1⟩, ⟨0xfe20, 0xfe2f, 1⟩,
   ⟨0xfff9, 0xfffb, 1⟩, ⟨0x101fd, 0x101fd, 1⟩, ⟨0x102e0, 0x102e0, 1⟩, ⟨0x10376, 0x1037a, 1⟩,
   ⟨0x10a01, 0x10a03, 1⟩, ⟨0x10a05, 0x10a06, 1⟩, ⟨0x10a0c, 0x10a0f, 1⟩, ⟨0x10a38, 0x10a3a, 1⟩,
   ⟨0x10a3f, 0x10a3f, 1⟩, ⟨0x10ae5, 0x10ae6, 1⟩, ⟨0x10d24, 0x10d27, 1⟩, ⟨0x10eab, 0x10eac, 1⟩,
   ⟨0x10efd, 0x10eff, 1⟩, ⟨0x10f46, 0x10f50, 1⟩, ⟨0x10f82, 0x10f85, 1⟩, ⟨0x11000, 0x11002, 1⟩,
   ⟨0x11038, 0x11046, 1⟩, ⟨0x11070, 0x11070, 1⟩, ⟨0x11073, 0x11074, 1⟩, ⟨0x1107f, 0x11082, 1⟩,
   ⟨0x110b0, 0x110ba, 1⟩, ⟨0x110c2, 0x110c2, 1⟩, ⟨0x11100, 0x11102, 1⟩, ⟨0x11127, 0x11134, 1⟩,
   ⟨0x11145, 0x11146, 1⟩, ⟨0x11173, 0x11173, 1⟩, ⟨0x11180, 0x11182, 1⟩, ⟨0x111b3, 0x111c0, 1⟩,
   ⟨0x111c9, 0x111cc, 1⟩, ⟨0x111ce, 0x111cf, 1⟩, ⟨0x1122c, 0x11237, 1⟩, ⟨0x1123e, 0x1123e, 1⟩,
   ⟨0x11241, 0x11241, 1⟩, ⟨0x112df, 0x112ea, 1⟩, ⟨0x11300, 0x11303, 1⟩, ⟨0x1133b, 0x1133c, 1⟩,
   ⟨0x1133e, 0x11344, 1⟩, ⟨0x11347, 0x11348, 1⟩, ⟨0x1134b, 0x1134d, 1⟩, ⟨0x11357, 0x11357, 1⟩,
   ⟨0x11362, 0x11363, 1⟩, ⟨0x11366, 0x1136c, 1⟩, ⟨0x11370, 0x11374, 1⟩, ⟨0x11435, 0x11446, 1⟩,
   ⟨0x1145e, 0x1145e, 1⟩, ⟨0x114b0, 0x114c3, 1⟩, ⟨0x115af, 0x115b5, 1⟩, ⟨0x115b8, 0x115c0, 1⟩,
   ⟨0x115dc, 0x115dd, 1⟩, ⟨0x11630, 0x11640, 1⟩, ⟨0x116ab, 0x116b7, 1⟩, ⟨0x1182c, 0x1183a, 1⟩,
   ⟨0x11930, 0x11935, 1⟩, ⟨0x11937, 0x11938, 1⟩, ⟨0x1193b, 0x1193e, 1⟩, ⟨0x11940, 0x11940, 1⟩,
   ⟨0x11942, 0x11943, 1⟩, ⟨0x119d1, 0x119d7, 1⟩, ⟨0x119da, 0x119e0, 1⟩, ⟨0x119e4, 0x119e4, 1⟩,
   ⟨0x11a01, 0x11a0a, 1⟩, ⟨0x11a33, 0x11a39, 1⟩, ⟨0x11a3b, 0x11a3e, 1⟩, ⟨0x11a47, 0x11a47, 1⟩,
   ⟨0x11a51, 0x11a5b, 1⟩, ⟨0x11a8a, 0x11a99, 1⟩, ⟨0x11c2f, 0x11c36, 1⟩, ⟨0x11c38, 0x11c3f, 1⟩,
   ⟨0x11c92, 0x11ca7, 1⟩, ⟨0x11ca9, 0x11cb6, 1⟩, ⟨0x11d31, 0x11d36, 1⟩, ⟨0x11d3a, 0x11d3a, 1⟩,
   ⟨0x11d3c, 0x11d3d, 1⟩, ⟨0x11d3f, 0x11d45, 1⟩, ⟨0x11d47, 0x11d47, 1⟩, ⟨0x11d8a, 0x11d8e, 1⟩,
   ⟨0x11d90, 0x11d91, 1⟩, ⟨0x11d93, 0x11d97, 1⟩, ⟨0x11ef3, 0x11ef6, 1⟩, ⟨0x11f00, 0x11f01, 1⟩,
   ⟨0x11f03, 0x11f03, 1⟩, ⟨0x11f34, 0x11f3a, 1⟩, ⟨0x11f3e, 0x11f42, 1⟩, ⟨0x13440, 0x13440, 1⟩,
   ⟨0x13447, 0x13455, 1⟩, ⟨0x16af0, 0x16af4, 1⟩, ⟨0x16b30, 0x16b36, 1⟩, ⟨0x16f4f, 0x16f4f, 1⟩,
   ⟨0x16f51, 0x16f87, 1⟩, ⟨0x16f8f, 0x16f92, 1⟩, ⟨0x16ff0, 0x16ff1, 1⟩, ⟨0x1bc9d, 0x1bca3, 1⟩,
   ⟨0x1cf00, 0x1cf2d, 1⟩, ⟨0x1cf30, 0x1cf46, 1⟩, ⟨0x1d165, 0x1d169, 1⟩, ⟨0x1d16d, 0x1d182, 1⟩,
   ⟨0x1d185, 0x1d18b, 1⟩, ⟨0x1d1aa, 0x1d1ad, 1⟩, ⟨0x1d242, 0x1d244, 1⟩, ⟨0x1da00, 0x1da36, 1⟩,
   ⟨0x1da3b, 0x1da6c, 1⟩, ⟨0x1da75, 0x1da75, 1⟩, ⟨0x1da84, 0x1da84, 1⟩, ⟨0x1da9b, 0x1da9f, 1⟩,
   ⟨0x1daa1, 0x1daaf, 1⟩, ⟨0x1e000, 0x1e006, 1⟩, ⟨0x1e008, 0x1e018, 1⟩, ⟨0x1e01b, 0x1e021, 1⟩,
   ⟨0x1e023, 0x1e024, 1⟩, ⟨0x1e026, 0x1e02a, 1⟩, ⟨0x1e08f, 0x1e08f, 1⟩, ⟨0x1e130, 0x1e136, 1⟩,
   ⟨0x1e2ae, 0x1e2ae, 1⟩, ⟨0x1e2ec, 0x1e2ef, 1⟩, ⟨0x1e4ec, 0x1e4ef, 1⟩, ⟨0x1e8d0, 0x1e8d6, 1⟩,
   ⟨0x1e944, 0x1e94a, 1⟩, ⟨0xe0001, 0xe0001, 1⟩, ⟨0xe0020, 0xe007f, 1⟩, ⟨0xe0100, 0xe01ef, 1⟩]

def ideograph : List CodeRun :=
  [⟨0x231a, 0x231b, 1⟩, ⟨0x23f0, 0x23f3, 1⟩, ⟨0x2600, 0x2603, 1⟩, ⟨0x2614, 0x2615, 1⟩,
   ⟨0x2618, 0x2618, 1⟩, ⟨0x261a, 0x261f, 1⟩, ⟨0x2639, 0x263b, 1⟩, ⟨0x2668, 0x2668, 1⟩,
   ⟨0x267f, 0x267f, 1⟩, ⟨0x26bd, 0x26c8, 1⟩, ⟨0x26cd, 0x26cd, 1⟩, ⟨0x26cf, 0x26d1, 1⟩,
   ⟨0x26d3, 0x26d4, 1⟩, ⟨0x26d8, 0x26d9, 1⟩, ⟨0x26dc, 0x26dc, 1⟩, ⟨0x26df, 0x26e1, 1⟩,
   ⟨0x26ea, 0x26ea, 1⟩, ⟨0x26f1, 0x26f5, 1⟩, ⟨0x26f7, 0x26fa, 1⟩, ⟨0x26fd, 0x2704, 1⟩,
   ⟨0x2708, 0x2709, 1⟩, ⟨0x2764, 0x2764, 1⟩, ⟨0x2e80, 0x2e99, 1⟩, ⟨0x2e9b, 0x2ef3, 1⟩,
   ⟨0x2f00, 0x2fd5, 1⟩, ⟨0x2ff0, 0x2ffb, 1⟩, ⟨0x3003, 0x303f, 1⟩, ⟨0x3042, 0x3094, 1⟩,
   ⟨0x309f, 0x30ff, 1⟩, ⟨0x3105, 0x312f, 1⟩, ⟨0x3131, 0x318e, 1⟩, ⟨0x3190, 0x31e3, 1⟩,
   ⟨0x3200, 0x321e, 1⟩, ⟨0x3220, 0x3247, 1⟩, ⟨0x3250, 0x4dbf, 1⟩, ⟨0x4e00, 0xa48c, 1⟩,
   ⟨0xa490, 0xa4c6, 1⟩, ⟨0xf900, 0xfaff, 1⟩, ⟨0xfe30, 0xfe51, 1⟩, ⟨0xfe58, 0xfe66, 1⟩,
   ⟨0xfe68, 0xfe6b, 1⟩, ⟨0xff02, 0xffbe, 1⟩, ⟨0xffc2, 0xffc7, 1⟩, ⟨0xffca, 0xffcf, 1⟩,
   ⟨0xffd2, 0xffd7, 1⟩, ⟨0xffda, 0xffdc, 1⟩, ⟨0xffe2, 0xffe4, 1⟩, ⟨0x11f45, 0x11f4f, 1⟩,
   ⟨0x17000, 0x187f7, 1⟩, ⟨0x18800, 0x18aff, 1⟩, ⟨0x18d00, 0x18d08, 1⟩, ⟨0x1b000, 0x1b122, 1⟩,
   ⟨0x1b170, 0x1b2fb, 1⟩, ⟨0x1f000, 0x1f0ff, 1⟩, ⟨0x1f10d, 0x1f10f, 1⟩, ⟨0x1f16d, 0x1f16f, 1⟩,
   ⟨0x1f1ad, 0x1f39b, 1⟩, ⟨0x1f39e, 0x1f3b4, 1⟩, ⟨0x1f3b7, 0x1f3bb, 1⟩, ⟨0x1f3bd, 0x1f49f, 1⟩,
   ⟨0x1f4a1, 0x1f4a1, 1⟩, ⟨0x1f4a3, 0x1f4a3, 1⟩, ⟨0x1f4a5, 0x1f4ae, 1⟩, ⟨0x1f4b0, 0x1f4b0, 1⟩,
   ⟨0x1f4b3, 0x1f4ff, 1⟩, ⟨0x1f507, 0x1f516, 1⟩, ⟨0x1f525, 0x1f531, 1⟩, ⟨0x1f54a, 0x1f5d3, 1⟩,
   ⟨0x1f5dc, 0x1f5f3, 1⟩, ⟨0x1f5fa, 0x1f64a, 1⟩, ⟨0x1f680, 0x1f6ff, 1⟩, ⟨0x1f774, 0x1f77f, 1⟩,
   ⟨0x1f7d5, 0x1f7ff, 1⟩, ⟨0x1f80c, 0x1f80f, 1⟩, ⟨0x1f848, 0x1f84f, 1⟩, ⟨0x1f85a, 0x1f85f, 1⟩,
   ⟨0x1f888, 0x1f88f, 1⟩, ⟨0x1f8ae, 0x1f8ff, 1⟩, ⟨0x1f90d, 0x1f9ff, 1⟩, ⟨0x1fa54, 0x1faff, 1⟩,
   ⟨0x1fc00, 0x1fffd, 1⟩, ⟨0x20000, 0x2fffd, 1⟩, ⟨0x30000, 0x3fffd, 1⟩]

def groups : List (BreakClass × List CodeRun) :=
  [(.hardBreak, [⟨0xa, 0xd, 1⟩, ⟨0x85, 0x85, 1⟩, ⟨0x2028, 0x2029, 1⟩]),
   (.space, [⟨0x20, 0x20, 1⟩]), (.hyphen, [⟨0x2d, 0x2d, 1⟩]), (.slash, [⟨0x2f, 0x2f, 1⟩]),
   (.zeroWidthSpace, [⟨0x200b, 0x200b, 1⟩]), (.joiner, [⟨0x200d, 0x200d, 1⟩]),
   (.contingent, [⟨0xfffc, 0xfffc, 1⟩]), (.regional, [⟨0x1f1e6, 0x1f1ff, 1⟩]),
   (.emojiModifier, [⟨0x1f3fb, 0x1f3ff, 1⟩]),
   (.closingParenthesis, [⟨0x29, 0x29, 1⟩, ⟨0x5d, 0x5d, 1⟩]),
   (.leadingJamo, [⟨0x1100, 0x115f, 1⟩, ⟨0xa960, 0xa97c, 1⟩]),
   (.vowelJamo, [⟨0x1160, 0x11a7, 1⟩, ⟨0xd7b0, 0xd7c6, 1⟩]),
   (.trailingJamo, [⟨0x11a8, 0x11ff, 1⟩, ⟨0xd7cb, 0xd7fb, 1⟩]),
   (.dash, [⟨0x2014, 0x2014, 1⟩, ⟨0x2e3a, 0x2e3b, 1⟩]),
   (.wordJoiner, [⟨0x2060, 0x2060, 1⟩, ⟨0xfeff, 0xfeff, 1⟩]), (.inseparable, inseparable),
   (.separator, separator), (.hebrewLetter, hebrewLetter), (.quotation, quotation), (.glue, glue),
   (.exclamation, exclamation), (.beforeNumber, beforeNumber), (.afterNumber, afterNumber),
   (.breakBefore, breakBefore), (.emojiBase, emojiBase), (.nonstarter, nonstarter),
   (.digit, digit), (.opening, opening), (.closing, closing), (.breakAfter, breakAfter),
   (.mark, mark), (.syllable, [⟨0xac00, 0xd788, 28⟩]), (.closedSyllable, [⟨0xac01, 0xd7a3, 1⟩]),
   (.ideograph, ideograph)]

end NamingAudit.Text.BreakClassTable
