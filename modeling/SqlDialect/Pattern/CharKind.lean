import SqlDialect.Text.Blank
import SqlDialect.Text.Word

/-!
# Kinds of characters

The kinds of characters that have a letter of their own in patterns.
-/

namespace SqlDialect

open Text

/-- The kinds of characters that have a letter of their own in patterns. -/
inductive CharKind
  | digit
  | blank
  | word
  deriving DecidableEq, Repr

/-- The characters of a kind in any script. -/
def CharKind.ranges : CharKind → Ranges
  | .digit => decimalNumbers
  | .blank => blanks
  | .word => wordCharacters

/-- The ASCII characters of a kind. -/
def CharKind.ascii : CharKind → Ranges
  | .digit => [(0x30, 0x39)]
  | .blank => [(0x9, 0xD), (0x20, 0x20)]
  | .word => [(0x30, 0x39), (0x41, 0x5A), (0x5F, 0x5F), (0x61, 0x7A)]

end SqlDialect
