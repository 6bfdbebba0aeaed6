import NamingAudit.Text.CodeRun

/-! Characters that take no column or two, beside those that extend the grapheme before them. -/

namespace NamingAudit.Text.ColumnTable

/-- Controls, characters that a display ignores, vowels and finals of Korean syllables, and marks
that are written over the characters behind them. -/
def noColumn : List CodeRun :=
  [⟨0, 0x1f, 1⟩, ⟨0x7f, 0x9f, 1⟩, ⟨0xad, 0xad, 1⟩, ⟨0x605, 0x605, 1⟩, ⟨0x61c, 0x61c, 1⟩,
   ⟨0x70f, 0x70f, 1⟩, ⟨0x890, 0x891, 1⟩, ⟨0x8e2, 0x8e2, 1⟩, ⟨0x1160, 0x11ff, 1⟩,
   ⟨0x180e, 0x180e, 1⟩, ⟨0x200b, 0x200f, 1⟩, ⟨0x202a, 0x202e, 1⟩, ⟨0x2060, 0x206f, 1⟩,
   ⟨0x3164, 0x3164, 1⟩, ⟨0xa8fa, 0xa8fa, 1⟩, ⟨0xd7b0, 0xd7c6, 1⟩, ⟨0xd7cb, 0xd7fb, 1⟩,
   ⟨0xfeff, 0xfeff, 1⟩, ⟨0xff9e, 0xffa0, 1⟩, ⟨0xfff0, 0xfff8, 1⟩, ⟨0x1bca0, 0x1bca3, 1⟩,
   ⟨0x1d173, 0x1d17a, 1⟩, ⟨0xe0000, 0xe0fff, 1⟩]

def twoColumns : List CodeRun :=
  [⟨0x1100, 0x115f, 1⟩, ⟨0x231a, 0x231b, 1⟩, ⟨0x2329, 0x232a, 1⟩, ⟨0x23e9, 0x23ec, 1⟩,
   ⟨0x23f0, 0x23f0, 1⟩, ⟨0x23f3, 0x23f3, 1⟩, ⟨0x25fd, 0x25fe, 1⟩, ⟨0x2614, 0x2615, 1⟩,
   ⟨0x2630, 0x2637, 1⟩, ⟨0x2648, 0x2653, 1⟩, ⟨0x267f, 0x267f, 1⟩, ⟨0x268a, 0x268f, 1⟩,
   ⟨0x2693, 0x2693, 1⟩, ⟨0x26a1, 0x26a1, 1⟩, ⟨0x26aa, 0x26ab, 1⟩, ⟨0x26bd, 0x26be, 1⟩,
   ⟨0x26c4, 0x26c5, 1⟩, ⟨0x26ce, 0x26ce, 1⟩, ⟨0x26d4, 0x26d4, 1⟩, ⟨0x26ea, 0x26ea, 1⟩,
   ⟨0x26f2, 0x26f3, 1⟩, ⟨0x26f5, 0x26f5, 1⟩, ⟨0x26fa, 0x26fa, 1⟩, ⟨0x26fd, 0x26fd, 1⟩,
   ⟨0x2705, 0x2705, 1⟩, ⟨0x270a, 0x270b, 1⟩, ⟨0x2728, 0x2728, 1⟩, ⟨0x274c, 0x274c, 1⟩,
   ⟨0x274e, 0x274e, 1⟩, ⟨0x2753, 0x2755, 1⟩, ⟨0x2757, 0x2757, 1⟩, ⟨0x2795, 0x2797, 1⟩,
   ⟨0x27b0, 0x27b0, 1⟩, ⟨0x27bf, 0x27bf, 1⟩, ⟨0x2b1b, 0x2b1c, 1⟩, ⟨0x2b50, 0x2b50, 1⟩,
   ⟨0x2b55, 0x2b55, 1⟩, ⟨0x2e80, 0x2e99, 1⟩, ⟨0x2e9b, 0x2ef3, 1⟩, ⟨0x2f00, 0x2fd5, 1⟩,
   ⟨0x2ff0, 0x303e, 1⟩, ⟨0x3041, 0x3096, 1⟩, ⟨0x309b, 0x30ff, 1⟩, ⟨0x3105, 0x312f, 1⟩,
   ⟨0x3131, 0x318e, 1⟩, ⟨0x3190, 0x31e5, 1⟩, ⟨0x31ef, 0x321e, 1⟩, ⟨0x3220, 0x3247, 1⟩,
   ⟨0x3250, 0xa48c, 1⟩, ⟨0xa490, 0xa4c6, 1⟩, ⟨0xa960, 0xa97c, 1⟩, ⟨0xac00, 0xd7a3, 1⟩,
   ⟨0xf900, 0xfaff, 1⟩, ⟨0xfe10, 0xfe19, 1⟩, ⟨0xfe30, 0xfe52, 1⟩, ⟨0xfe54, 0xfe66, 1⟩,
   ⟨0xfe68, 0xfe6b, 1⟩, ⟨0xff01, 0xff60, 1⟩, ⟨0xffe0, 0xffe6, 1⟩, ⟨0x16fe0, 0x16fe3, 1⟩,
   ⟨0x16ff2, 0x16ff6, 1⟩, ⟨0x17000, 0x18cd5, 1⟩, ⟨0x18cff, 0x18d1e, 1⟩, ⟨0x18d80, 0x18df2, 1⟩,
   ⟨0x1aff0, 0x1aff3, 1⟩, ⟨0x1aff5, 0x1affb, 1⟩, ⟨0x1affd, 0x1affe, 1⟩, ⟨0x1b000, 0x1b122, 1⟩,
   ⟨0x1b132, 0x1b132, 1⟩, ⟨0x1b150, 0x1b152, 1⟩, ⟨0x1b155, 0x1b155, 1⟩, ⟨0x1b164, 0x1b167, 1⟩,
   ⟨0x1b170, 0x1b2fb, 1⟩, ⟨0x1d300, 0x1d356, 1⟩, ⟨0x1d360, 0x1d376, 1⟩, ⟨0x1f004, 0x1f004, 1⟩,
   ⟨0x1f0cf, 0x1f0cf, 1⟩, ⟨0x1f18e, 0x1f18e, 1⟩, ⟨0x1f191, 0x1f19a, 1⟩, ⟨0x1f200, 0x1f202, 1⟩,
   ⟨0x1f210, 0x1f23b, 1⟩, ⟨0x1f240, 0x1f248, 1⟩, ⟨0x1f250, 0x1f251, 1⟩, ⟨0x1f260, 0x1f265, 1⟩,
   ⟨0x1f300, 0x1f320, 1⟩, ⟨0x1f32d, 0x1f335, 1⟩, ⟨0x1f337, 0x1f37c, 1⟩, ⟨0x1f37e, 0x1f393, 1⟩,
   ⟨0x1f3a0, 0x1f3ca, 1⟩, ⟨0x1f3cf, 0x1f3d3, 1⟩, ⟨0x1f3e0, 0x1f3f0, 1⟩, ⟨0x1f3f4, 0x1f3f4, 1⟩,
   ⟨0x1f3f8, 0x1f43e, 1⟩, ⟨0x1f440, 0x1f440, 1⟩, ⟨0x1f442, 0x1f4fc, 1⟩, ⟨0x1f4ff, 0x1f53d, 1⟩,
   ⟨0x1f54b, 0x1f54e, 1⟩, ⟨0x1f550, 0x1f567, 1⟩, ⟨0x1f57a, 0x1f57a, 1⟩, ⟨0x1f595, 0x1f596, 1⟩,
   ⟨0x1f5a4, 0x1f5a4, 1⟩, ⟨0x1f5fb, 0x1f64f, 1⟩, ⟨0x1f680, 0x1f6c5, 1⟩, ⟨0x1f6cc, 0x1f6cc, 1⟩,
   ⟨0x1f6d0, 0x1f6d2, 1⟩, ⟨0x1f6d5, 0x1f6d8, 1⟩, ⟨0x1f6dc, 0x1f6df, 1⟩, ⟨0x1f6eb, 0x1f6ec, 1⟩,
   ⟨0x1f6f4, 0x1f6fc, 1⟩, ⟨0x1f7e0, 0x1f7eb, 1⟩, ⟨0x1f7f0, 0x1f7f0, 1⟩, ⟨0x1f90c, 0x1f93a, 1⟩,
   ⟨0x1f93c, 0x1f945, 1⟩, ⟨0x1f947, 0x1f9ff, 1⟩, ⟨0x1fa70, 0x1fa7c, 1⟩, ⟨0x1fa80, 0x1fa8a, 1⟩,
   ⟨0x1fa8e, 0x1fac6, 1⟩, ⟨0x1fac8, 0x1fac8, 1⟩, ⟨0x1facd, 0x1fadc, 1⟩, ⟨0x1fadf, 0x1faea, 1⟩,
   ⟨0x1faef, 0x1faf8, 1⟩, ⟨0x20000, 0x2fffd, 1⟩, ⟨0x30000, 0x3fffd, 1⟩]

end NamingAudit.Text.ColumnTable
