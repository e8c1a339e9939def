import Ensemble.Text.CodeSet

/-!
# Characters to be ignored on display

Fillers, joiners, variation selectors and the code points kept free for more of them are shown as
nothing at all where their effect on other characters is not supported.  The Hangul fillers are
letters and assigned, so no other table has them.
-/

namespace Ensemble.Text

/-- The code points that have the Unicode property Default_Ignorable_Code_Point, as of version 17 of
the standard. -/
def ignorable : CodeSet where
  ranges :=
    [(0xad, 0xad), (0x34f, 0x34f), (0x61c, 0x61c), (0x115f, 0x1160), (0x17b4, 0x17b5),
     (0x180b, 0x180f), (0x200b, 0x200f), (0x202a, 0x202e), (0x2060, 0x206f), (0x3164, 0x3164),
     (0xfe00, 0xfe0f), (0xfeff, 0xfeff), (0xffa0, 0xffa0), (0xfff0, 0xfff8), (0x1bca0, 0x1bca3),
     (0x1d173, 0x1d17a), (0xe0000, 0xe0fff)]
  ascends := by decide +kernel

end Ensemble.Text
