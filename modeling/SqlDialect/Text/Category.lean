import SqlDialect.Text.Category.Letter
import SqlDialect.Text.Category.Mark
import SqlDialect.Text.Category.Number
import SqlDialect.Text.Category.Punctuation
import SqlDialect.Text.Category.Separator
import SqlDialect.Text.Category.Symbol
import SqlDialect.Text.NamedSet

/-!
# General categories

Each code point has one general category. Those of Unicode 16 are listed here with their names and
with the groups they form. Surrogates are no characters, so their category is missing; but they
belong to the group of all other code points, whose ranges go on across them.
-/

namespace SqlDialect.Text

open Ranges

/-- Letters that have case. -/
def casedLetters : Ranges := unionAll [uppercaseLetters, lowercaseLetters, titlecaseLetters]

/-- Letters of all kinds. -/
def letters : Ranges := unionAll [casedLetters, modifierLetters, otherLetters]

/-- Marks of all kinds. -/
def marks : Ranges := unionAll [nonspacingMarks, spacingMarks, enclosingMarks]

/-- Numbers of all kinds. -/
def numbers : Ranges := unionAll [decimalNumbers, letterNumbers, otherNumbers]

/-- Punctuation of all kinds. -/
def punctuation : Ranges :=
  unionAll [connectorPunctuation, dashPunctuation, openPunctuation, closePunctuation,
    initialPunctuation, finalPunctuation, otherPunctuation]

/-- Symbols of all kinds. -/
def symbols : Ranges := unionAll [mathSymbols, currencySymbols, modifierSymbols, otherSymbols]

/-- Separators of all kinds. -/
def separators : Ranges := unionAll [spaceSeparators, lineSeparators, paragraphSeparators]

/-- The code points that are taken. -/
def assigned : Ranges :=
  unionAll [letters, marks, numbers, punctuation, symbols, separators, controls, formats, privateUse]

/-- The code points that are free, category `Cn`. -/
def unassigned : Ranges := compl assigned

/-- The code points in none of the other groups. -/
def otherCodes : Ranges :=
  unionAll [controls, formats, unassigned, [(0xD800, 0xDFFF)], privateUse]

/-- The general categories and their groups. -/
def categories : List NamedSet := [
  ⟨["Any"], full⟩, ⟨["Assigned"], assigned⟩, ⟨["ASCII"], [(0, 0x7F)]⟩,
  ⟨["L", "Letter"], letters⟩, ⟨["LC", "Cased_Letter"], casedLetters⟩,
  ⟨["Lu", "Uppercase_Letter"], uppercaseLetters⟩, ⟨["Ll", "Lowercase_Letter"], lowercaseLetters⟩,
  ⟨["Lt", "Titlecase_Letter"], titlecaseLetters⟩, ⟨["Lm", "Modifier_Letter"], modifierLetters⟩,
  ⟨["Lo", "Other_Letter"], otherLetters⟩,
  ⟨["M", "Mark", "Combining_Mark"], marks⟩, ⟨["Mn", "Nonspacing_Mark"], nonspacingMarks⟩,
  ⟨["Mc", "Spacing_Mark"], spacingMarks⟩, ⟨["Me", "Enclosing_Mark"], enclosingMarks⟩,
  ⟨["N", "Number"], numbers⟩, ⟨["Nd", "Decimal_Number", "digit"], decimalNumbers⟩,
  ⟨["Nl", "Letter_Number"], letterNumbers⟩, ⟨["No", "Other_Number"], otherNumbers⟩,
  ⟨["P", "Punctuation", "punct"], punctuation⟩,
  ⟨["Pc", "Connector_Punctuation"], connectorPunctuation⟩,
  ⟨["Pd", "Dash_Punctuation"], dashPunctuation⟩, ⟨["Ps", "Open_Punctuation"], openPunctuation⟩,
  ⟨["Pe", "Close_Punctuation"], closePunctuation⟩,
  ⟨["Pi", "Initial_Punctuation"], initialPunctuation⟩,
  ⟨["Pf", "Final_Punctuation"], finalPunctuation⟩,
  ⟨["Po", "Other_Punctuation"], otherPunctuation⟩,
  ⟨["S", "Symbol"], symbols⟩, ⟨["Sm", "Math_Symbol"], mathSymbols⟩,
  ⟨["Sc", "Currency_Symbol"], currencySymbols⟩, ⟨["Sk", "Modifier_Symbol"], modifierSymbols⟩,
  ⟨["So", "Other_Symbol"], otherSymbols⟩,
  ⟨["Z", "Separator"], separators⟩, ⟨["Zs", "Space_Separator"], spaceSeparators⟩,
  ⟨["Zl", "Line_Separator"], lineSeparators⟩, ⟨["Zp", "Paragraph_Separator"], paragraphSeparators⟩,
  ⟨["C", "Other"], otherCodes⟩, ⟨["Cc", "Control", "cntrl"], controls⟩, ⟨["Cf", "Format"], formats⟩,
  ⟨["Cn", "Unassigned"], unassigned⟩, ⟨["Co", "Private_Use"], privateUse⟩]

end SqlDialect.Text
