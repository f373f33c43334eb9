import SqlDialect.Text.Newer
import SqlDialect.Text.Property.Grapheme

/-!
# Characters that can be shown

The characters that a quoted text in a message shows as they are. The others are written by their
code points: controls and formats, separators but for the blank, code points without a character,
characters that are drawn over the one before them, and those that are not drawn at all.
-/

namespace SqlDialect.Text

/-- The characters that are not shown as they are by Unicode 16. -/
def hiddenBefore : Ranges :=
  Ranges.unionAll [controls, formats, privateUse, lineSeparators, paragraphSeparators,
    Ranges.diff spaceSeparators (Ranges.single 0x20), unassigned, graphemeExtend, ignorable]

/-- The characters that are not shown as they are, with those of version 17 taken into account. -/
def hidden : Ranges := hiddenBefore.diff (newCodes.diff newMarks)

/-- Whether a character is shown as it is. -/
def isPrintable (c : Char) : Bool := !hidden.has c

end SqlDialect.Text
