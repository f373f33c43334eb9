import SqlDialect.Text.Alphabetic
import SqlDialect.Text.Property.Case
import SqlDialect.Text.Property.Emoji
import SqlDialect.Text.Property.Grapheme
import SqlDialect.Text.Property.Ideograph
import SqlDialect.Text.Property.Sign
import SqlDialect.Text.Script

/-!
# Where texts may be broken

The parts that characters have in clusters of characters (`clusterBreaks`), in words (`wordBreaks`)
and in sentences (`sentenceBreaks`), by the rules of Unicode 16. Characters without such a part
belong to no set.
-/

namespace SqlDialect.Text

open Ranges

/-- The consonants that are written before the next character. -/
def leadingConsonants : Ranges := [
  (0xD4E, 0xD4E), (0x111C2, 0x111C3), (0x113D1, 0x113D1), (0x1193F, 0x1193F), (0x11941, 0x11941),
  (0x11A3A, 0x11A3A), (0x11A84, 0x11A89), (0x11D46, 0x11D46), (0x11F02, 0x11F02)]

/-- The spacing marks that are not in one cluster with the character before them. -/
def separateSpacingMarks : Ranges := [
  (0x102B, 0x102C), (0x1038, 0x1038), (0x1062, 0x1064), (0x1067, 0x106D), (0x1083, 0x1083),
  (0x1087, 0x108C), (0x108F, 0x108F), (0x109A, 0x109C), (0x1A61, 0x1A61), (0x1A63, 0x1A64),
  (0xAA7B, 0xAA7B), (0xAA7D, 0xAA7D), (0x11720, 0x11721)]

/-- The characters of scripts in which words are not set apart. -/
def dictionaryScripts : Ranges := [
  (0xE01, 0xE3A), (0xE40, 0xE4E), (0xE81, 0xE82), (0xE84, 0xE84), (0xE86, 0xE8A), (0xE8C, 0xEA3),
  (0xEA5, 0xEA5), (0xEA7, 0xEBD), (0xEC0, 0xEC4), (0xEC6, 0xEC6), (0xEC8, 0xECE), (0xEDC, 0xEDF),
  (0x1000, 0x103F), (0x1050, 0x108F), (0x109A, 0x109F), (0x1780, 0x17D3), (0x17D7, 0x17D7),
  (0x17DC, 0x17DD), (0x1950, 0x196D), (0x1970, 0x1974), (0x1980, 0x19AB), (0x19B0, 0x19C9),
  (0x19DA, 0x19DA), (0x19DE, 0x19DF), (0x1A20, 0x1A5E), (0x1A60, 0x1A7C), (0x1AA0, 0x1AAD),
  (0xA9E0, 0xA9EF), (0xA9FA, 0xA9FE), (0xAA60, 0xAAC2), (0xAADB, 0xAADF), (0x11700, 0x1171A),
  (0x1171D, 0x1172B), (0x1173A, 0x1173B), (0x1173F, 0x11746)]

/-- The characters that words are made of, though they are not alphabetic. -/
def letterLike : Ranges := [
  (0x2C2, 0x2C5), (0x2D2, 0x2D7), (0x2DE, 0x2DF), (0x2E5, 0x2EB), (0x2ED, 0x2ED), (0x2EF, 0x2FF),
  (0x55A, 0x55C), (0x55E, 0x55E), (0x58A, 0x58A), (0x5F3, 0x5F3), (0x70F, 0x70F), (0xA708, 0xA716),
  (0xA720, 0xA721), (0xA789, 0xA78A), (0xAB5B, 0xAB5B)]

/-- The characters that are used like those of Katakana. -/
def extraKatakana : Ranges := [
  (0x3031, 0x3035), (0x309B, 0x309C), (0x30A0, 0x30A0), (0x30FC, 0x30FC), (0xFF70, 0xFF70)]

/-- The characters that do not break a word between letters. -/
def midLetters : Ranges := [
  (0x3A, 0x3A), (0xB7, 0xB7), (0x387, 0x387), (0x55F, 0x55F), (0x5F4, 0x5F4), (0x2027, 0x2027),
  (0xFE13, 0xFE13), (0xFE55, 0xFE55), (0xFF1A, 0xFF1A)]

/-- The characters that do not break a word between digits. -/
def midNumbers : Ranges := [
  (0x2C, 0x2C), (0x3B, 0x3B), (0x37E, 0x37E), (0x589, 0x589), (0x60C, 0x60D), (0x66C, 0x66C),
  (0x7F8, 0x7F8), (0x2044, 0x2044), (0xFE10, 0xFE10), (0xFE14, 0xFE14), (0xFE50, 0xFE50),
  (0xFE54, 0xFE54), (0xFF0C, 0xFF0C), (0xFF1B, 0xFF1B)]

/-- The characters that do not break a word between letters or digits. -/
def midNumberLetters : Ranges := [
  (0x2E, 0x2E), (0x2018, 0x2019), (0x2024, 0x2024), (0xFE52, 0xFE52), (0xFF07, 0xFF07),
  (0xFF0E, 0xFF0E)]

/-- The characters behind which a sentence goes on. -/
def sentenceContinuers : Ranges := [
  (0x2C, 0x2D), (0x3A, 0x3B), (0x37E, 0x37E), (0x55D, 0x55D), (0x60C, 0x60D), (0x7F8, 0x7F8),
  (0x1802, 0x1802), (0x1808, 0x1808), (0x2013, 0x2014), (0x3001, 0x3001), (0xFE10, 0xFE11),
  (0xFE13, 0xFE14), (0xFE31, 0xFE32), (0xFE50, 0xFE51), (0xFE54, 0xFE55), (0xFE58, 0xFE58),
  (0xFE63, 0xFE63), (0xFF0C, 0xFF0D), (0xFF1A, 0xFF1B), (0xFF64, 0xFF64)]

/-- The quotation marks that neither open nor close. -/
def plainQuotes : Ranges := [
  (0x22, 0x22), (0x27, 0x27), (0x275B, 0x2760), (0x2E00, 0x2E01), (0x2E06, 0x2E08),
  (0x2E0B, 0x2E0B), (0x1F676, 0x1F678)]

/-- The characters of a script with a name. -/
def scriptCalled (name : String) : Ranges := (findNamed? scripts (looseName name.toList)).getD []

/-- Line ends that neither a carriage return nor a line feed makes. -/
def lineBreaks : Ranges := [(0x85, 0x85), (0x2028, 0x2029)]

/-- A carriage return. -/
def carriageReturn : Ranges := [(0xD, 0xD)]

/-- A line feed. -/
def lineFeed : Ranges := [(0xA, 0xA)]

/-- The zero width joiner. -/
def joiner : Ranges := [(0x200D, 0x200D)]

/-! ## Clusters -/

/-- The characters that extend a cluster. -/
def clusterExtend : Ranges := graphemeExtend.union emojiModifiers

/-- The syllables of Hangul without a final consonant: every 28th. -/
def openSyllables : Ranges := (List.range' 0xAC00 399 28).map fun n => (n, n)

/-- The characters by the part they have in a cluster. -/
def clusterBreaks : List NamedSet := [
  ⟨["CR"], carriageReturn⟩, ⟨["LF"], lineFeed⟩,
  ⟨["CN", "Control"],
    diff
      (unionAll [lineSeparators, paragraphSeparators, controls, formats, inter unassigned ignorable])
      (unionAll [carriageReturn, lineFeed, joinControls, prependedMarks, graphemeExtend])⟩,
  ⟨["EX", "Extend"], clusterExtend⟩, ⟨["ZWJ"], joiner⟩,
  ⟨["RI", "Regional_Indicator"], regionalIndicators⟩,
  ⟨["PP", "Prepend"], prependedMarks.union leadingConsonants⟩,
  ⟨["SM", "SpacingMark"],
    diff (unionAll [spacingMarks, [(0xE33, 0xE33), (0xEB3, 0xEB3)]])
      (clusterExtend.union separateSpacingMarks)⟩,
  ⟨["L"], [(0x1100, 0x115F), (0xA960, 0xA97C)]⟩,
  ⟨["V"], [(0x1160, 0x11A7), (0xD7B0, 0xD7C6), (0x16D63, 0x16D63), (0x16D67, 0x16D6A)]⟩,
  ⟨["T"], [(0x11A8, 0x11FF), (0xD7CB, 0xD7FB)]⟩,
  ⟨["LV"], openSyllables⟩, ⟨["LVT"], diff [(0xAC00, 0xD7A3)] openSyllables⟩]

/-! ## Words -/

/-- The characters that extend the one before them. -/
def extending : Ranges := unionAll [graphemeExtend, spacingMarks, emojiModifiers]

/-- The letters of Hebrew. -/
def hebrewLetters : Ranges := inter (scriptCalled "Hebrew") otherLetters

/-- The characters of Katakana and those that are used like them. -/
def katakana : Ranges := (scriptCalled "Katakana").union extraKatakana

/-- The characters by the part they have in a word. -/
def wordBreaks : List NamedSet := [
  ⟨["CR"], carriageReturn⟩, ⟨["LF"], lineFeed⟩,
  ⟨["NL", "Newline"], union [(0xB, 0xC)] lineBreaks⟩,
  ⟨["Extend"], extending⟩, ⟨["ZWJ"], joiner⟩,
  ⟨["RI", "Regional_Indicator"], regionalIndicators⟩,
  ⟨["KA", "Katakana"], katakana⟩, ⟨["HL", "Hebrew_Letter"], hebrewLetters⟩,
  ⟨["LE", "ALetter"],
    diff (alphabetic.union letterLike)
      (unionAll [ideographs, katakana, dictionaryScripts, scriptCalled "Hiragana", extending,
        hebrewLetters])⟩,
  ⟨["NU", "Numeric"], unionAll [decimalNumbers, [(0x66B, 0x66B)], diff prependedMarks letterLike]⟩,
  ⟨["FO", "Format"],
    diff formats (unionAll [[(0x200B, 0x200D)], graphemeExtend, prependedMarks])⟩,
  ⟨["SQ", "Single_Quote"], [(0x27, 0x27)]⟩, ⟨["DQ", "Double_Quote"], [(0x22, 0x22)]⟩,
  ⟨["ML", "MidLetter"], midLetters⟩, ⟨["MN", "MidNum"], midNumbers⟩,
  ⟨["MB", "MidNumLet"], midNumberLetters⟩,
  ⟨["EX", "ExtendNumLet"], connectorPunctuation.union [(0x202F, 0x202F)]⟩,
  ⟨["WSegSpace"], diff spaceSeparators [(0xA0, 0xA0), (0x2007, 0x2007), (0x202F, 0x202F)]⟩]

/-! ## Sentences -/

/-- The characters that extend the one before them, joiners among them. -/
def sentenceExtend : Ranges := unionAll [graphemeExtend, spacingMarks, joiner]

/-- Small letters, but for those of Georgian, which begin sentences. -/
def sentenceLower : Ranges :=
  diff lowercase (graphemeExtend.union [(0x10D0, 0x10FA), (0x10FD, 0x10FF)])

/-- Capital letters, but for those of Georgian, which do not begin sentences. -/
def sentenceUpper : Ranges :=
  diff (uppercase.union titlecaseLetters) [(0x1C90, 0x1CBA), (0x1CBD, 0x1CBF)]

/-- Full stops, which may also end abbreviations. -/
def fullStops : Ranges := [(0x2E, 0x2E), (0x2024, 0x2024), (0xFE52, 0xFE52), (0xFF0E, 0xFF0E)]

/-- The characters by the part they have in a sentence. -/
def sentenceBreaks : List NamedSet := [
  ⟨["CR"], carriageReturn⟩, ⟨["LF"], lineFeed⟩, ⟨["SE", "Sep"], lineBreaks⟩,
  ⟨["EX", "Extend"], sentenceExtend⟩,
  ⟨["FO", "Format"],
    diff formats (unionAll [joinControls, graphemeExtend, diff prependedMarks letterLike])⟩,
  ⟨["SP", "Sp"], diff blanks (unionAll [carriageReturn, lineFeed, lineBreaks])⟩,
  ⟨["LO", "Lower"], sentenceLower⟩, ⟨["UP", "Upper"], sentenceUpper⟩,
  ⟨["LE", "OLetter"],
    diff (alphabetic.union [(0x5F3, 0x5F3)])
      (unionAll [sentenceLower, sentenceUpper, sentenceExtend])⟩,
  ⟨["NU", "Numeric"],
    unionAll [decimalNumbers, [(0x66B, 0x66C)], diff prependedMarks letterLike]⟩,
  ⟨["AT", "ATerm"], fullStops⟩, ⟨["ST", "STerm"], diff sentenceTerminals fullStops⟩,
  ⟨["SC", "SContinue"], sentenceContinuers⟩,
  ⟨["CL", "Close"],
    unionAll [openPunctuation, closePunctuation, initialPunctuation, finalPunctuation, plainQuotes]⟩]

end SqlDialect.Text
