import PocketCalculator.Text.Category
import PocketCalculator.Text.Range

/-!
# Visible characters

The characters that show as themselves in a quoted text. A character is not visible in three cases:
its general category is a control, a format character, a surrogate, private use, unassigned, or a
separator other than the space; it is a mark that extends the character before it (Unicode property
`Grapheme_Extend`); or it is ignored by default (`Default_Ignorable_Code_Point`), as the Hangul
fillers are. The halfwidth voiced sound marks extend a character too, but they are letters with a
place of their own, so they are visible.
-/

namespace PocketCalculator.Text

/-- The spacing marks that extend the character before them. All other extending marks are
nonspacing or enclosing, and all of those extend. -/
def extendingSpacingMarks : List (Nat × Nat) := [
  (0x9BE, 0x9BE), (0x9D7, 0x9D7), (0xB3E, 0xB3E), (0xB57, 0xB57), (0xBBE, 0xBBE), (0xBD7, 0xBD7),
  (0xCC0, 0xCC0), (0xCC2, 0xCC2), (0xCC7, 0xCC8), (0xCCA, 0xCCB), (0xCD5, 0xCD6), (0xD3E, 0xD3E),
  (0xD57, 0xD57), (0xDCF, 0xDCF), (0xDDF, 0xDDF), (0x1715, 0x1715), (0x1734, 0x1734),
  (0x1B35, 0x1B35), (0x1B3B, 0x1B3B), (0x1B3D, 0x1B3D), (0x1B43, 0x1B44), (0x1BAA, 0x1BAA),
  (0x1BF2, 0x1BF3), (0x302E, 0x302F), (0xA953, 0xA953), (0xA9C0, 0xA9C0), (0x111C0, 0x111C0),
  (0x11235, 0x11235), (0x1133E, 0x1133E), (0x1134D, 0x1134D), (0x11357, 0x11357),
  (0x113B8, 0x113B8), (0x113C2, 0x113C2), (0x113C5, 0x113C5), (0x113C7, 0x113C9),
  (0x113CF, 0x113CF), (0x114B0, 0x114B0), (0x114BD, 0x114BD), (0x115AF, 0x115AF),
  (0x116B6, 0x116B6), (0x11930, 0x11930), (0x1193D, 0x1193D), (0x11F41, 0x11F41),
  (0x16FF0, 0x16FF1), (0x1D165, 0x1D166), (0x1D16D, 0x1D172)]

/-- The letters that are ignored by default: the Hangul fillers. -/
def hangulFillers : List (Nat × Nat) := [(0x115F, 0x1160), (0x3164, 0x3164), (0xFFA0, 0xFFA0)]

/-- Whether a character shows as itself. -/
def isVisible (c : Char) : Bool :=
  match category c with
  | .Cc | .Cf | .Cs | .Co | .Cn | .Zl | .Zp | .Mn | .Me => false
  | .Zs => c == ' '
  | .Mc => !inRanges extendingSpacingMarks c
  | _ => !inRanges hangulFillers c

end PocketCalculator.Text
