import SqlDialect.Text.Alphabetic

/-!
# Word characters

What belongs to a word in patterns: alphabetic characters, marks, decimal digits, connectors such as
the underscore, and the two joiners.
-/

namespace SqlDialect.Text

/-- The characters of words in Unicode 16. -/
def wordCharacters : Ranges :=
  Ranges.unionAll [alphabetic, marks, decimalNumbers, connectorPunctuation, [(0x200C, 0x200D)]]

/-- Whether a character belongs to a word. -/
def isWord (c : Char) : Bool := wordCharacters.has c

/-- Whether a character is an ASCII letter, an ASCII digit or the underscore. -/
def isAsciiWord (c : Char) : Bool := c.isAlphanum || c == '_'

end SqlDialect.Text
