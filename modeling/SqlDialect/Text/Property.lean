import SqlDialect.Text.Age
import SqlDialect.Text.Alphabetic
import SqlDialect.Text.Blank
import SqlDialect.Text.Break
import SqlDialect.Text.Property.Case
import SqlDialect.Text.Property.Emoji
import SqlDialect.Text.Property.Grapheme
import SqlDialect.Text.Property.Identifier
import SqlDialect.Text.Property.Ideograph
import SqlDialect.Text.Property.Sign
import SqlDialect.Text.Script

/-!
# Properties by name

The properties of characters that are true or false (`properties`), and the sets of characters that
a name or the value of a property stands for (`property?`, `propertyValue?`). All are those of
Unicode 16, and names are compared loosely.
-/

namespace SqlDialect.Text

/-- The properties that are true or false, with the characters of which they are true. -/
def properties : List NamedSet := [
  ⟨["Alpha", "Alphabetic"], alphabetic⟩,
  ⟨["AHex", "ASCII_Hex_Digit"], asciiHexDigits⟩,
  ⟨["Bidi_C", "Bidi_Control"], bidiControls⟩,
  ⟨["CI", "Case_Ignorable"], caseIgnorable⟩,
  ⟨["Cased"], cased⟩,
  ⟨["CWCF", "Changes_When_Casefolded"], changedByFolding⟩,
  ⟨["CWCM", "Changes_When_Casemapped"], changedByCasing⟩,
  ⟨["CWL", "Changes_When_Lowercased"], changedByLowercasing⟩,
  ⟨["CWT", "Changes_When_Titlecased"], changedByTitlecasing⟩,
  ⟨["CWU", "Changes_When_Uppercased"], changedByUppercasing⟩,
  ⟨["Dash"], dashes⟩,
  ⟨["DI", "Default_Ignorable_Code_Point"], ignorable⟩,
  ⟨["Dep", "Deprecated"], deprecatedCharacters⟩,
  ⟨["Dia", "Diacritic"], diacritics⟩,
  ⟨["EBase", "Emoji_Modifier_Base"], emojiModifierBases⟩,
  ⟨["EComp", "Emoji_Component"], emojiComponents⟩,
  ⟨["EMod", "Emoji_Modifier"], emojiModifiers⟩,
  ⟨["Emoji"], emoji⟩,
  ⟨["EPres", "Emoji_Presentation"], emojiPresentation⟩,
  ⟨["Ext", "Extender"], extenders⟩,
  ⟨["ExtPict", "Extended_Pictographic"], extendedPictographic⟩,
  ⟨["Gr_Base", "Grapheme_Base"], graphemeBase⟩,
  ⟨["Gr_Ext", "Grapheme_Extend"], graphemeExtend⟩,
  ⟨["Gr_Link", "Grapheme_Link"], graphemeLinks⟩,
  ⟨["Hex", "Hex_Digit"], hexDigits⟩,
  ⟨["Hyphen"], hyphens⟩,
  ⟨["ID_Compat_Math_Continue"], mathContinue⟩,
  ⟨["ID_Compat_Math_Start"], mathStart⟩,
  ⟨["IDC", "ID_Continue"], identifierContinue⟩,
  ⟨["IDS", "ID_Start"], identifierStart⟩,
  ⟨["IDSB", "IDS_Binary_Operator"], binaryDescriptions⟩,
  ⟨["IDST", "IDS_Trinary_Operator"], ternaryDescriptions⟩,
  ⟨["IDSU", "IDS_Unary_Operator"], unaryDescriptions⟩,
  ⟨["Ideo", "Ideographic"], ideographs⟩,
  ⟨["Join_C", "Join_Control"], joinControls⟩,
  ⟨["LOE", "Logical_Order_Exception"], logicalOrderExceptions⟩,
  ⟨["Lower", "Lowercase"], lowercase⟩,
  ⟨["Math"], mathematical⟩,
  ⟨["MCM", "Modifier_Combining_Mark"], combiningModifiers⟩,
  ⟨["NChar", "Noncharacter_Code_Point"], noncharacters⟩,
  ⟨["OAlpha", "Other_Alphabetic"], otherAlphabetic⟩,
  ⟨["ODI", "Other_Default_Ignorable_Code_Point"], otherIgnorable⟩,
  ⟨["OGr_Ext", "Other_Grapheme_Extend"], otherGraphemeExtend⟩,
  ⟨["OIDC", "Other_ID_Continue"], otherIdentifierContinue⟩,
  ⟨["OIDS", "Other_ID_Start"], otherIdentifierStart⟩,
  ⟨["OLower", "Other_Lowercase"], otherLowercase⟩,
  ⟨["OMath", "Other_Math"], otherMath⟩,
  ⟨["OUpper", "Other_Uppercase"], otherUppercase⟩,
  ⟨["Pat_Syn", "Pattern_Syntax"], patternSyntax⟩,
  ⟨["Pat_WS", "Pattern_White_Space"], patternBlanks⟩,
  ⟨["PCM", "Prepended_Concatenation_Mark"], prependedMarks⟩,
  ⟨["QMark", "Quotation_Mark"], quotationMarks⟩,
  ⟨["Radical"], radicals⟩,
  ⟨["RI", "Regional_Indicator"], regionalIndicators⟩,
  ⟨["SD", "Soft_Dotted"], softDotted⟩,
  ⟨["STerm", "Sentence_Terminal"], sentenceTerminals⟩,
  ⟨["Term", "Terminal_Punctuation"], terminalPunctuation⟩,
  ⟨["UIdeo", "Unified_Ideograph"], unifiedIdeographs⟩,
  ⟨["Upper", "Uppercase"], uppercase⟩,
  ⟨["VS", "Variation_Selector"], variationSelectors⟩,
  ⟨["WSpace", "White_Space", "space"], blanks⟩,
  ⟨["XIDC", "XID_Continue"], stableIdentifierContinue⟩,
  ⟨["XIDS", "XID_Start"], stableIdentifierStart⟩]

/-- The characters that a loose name stands for: those of a property, of a general category or of a
script. -/
def property? (loose : List Char) : Option Ranges :=
  findNamed? (properties ++ categories ++ scripts) loose

/-- The properties that have other values than true and false, with the sets of their values. -/
inductive ValuedProperty
  | age
  | category
  | script
  | scriptExtensions
  | clusterBreak
  | wordBreak
  | sentenceBreak
  deriving DecidableEq, Repr

/-- The names of a valued property. -/
def ValuedProperty.names : ValuedProperty → List String
  | .age => ["Age"]
  | .category => ["gc", "General_Category"]
  | .script => ["sc", "Script"]
  | .scriptExtensions => ["scx", "Script_Extensions"]
  | .clusterBreak => ["GCB", "Grapheme_Cluster_Break"]
  | .wordBreak => ["WB", "Word_Break"]
  | .sentenceBreak => ["SB", "Sentence_Break"]

/-- The valued property with a loose name. -/
def ValuedProperty.ofName? (loose : List Char) : Option ValuedProperty :=
  [.age, .category, .script, .scriptExtensions, .clusterBreak, .wordBreak, .sentenceBreak].find?
    fun p => p.names.any fun name => looseName name.toList = loose

/-- The characters of which a property has the value with a loose name. -/
def ValuedProperty.value? (p : ValuedProperty) (loose : List Char) : Option Ranges :=
  match p with
  | .age => age? loose
  | .category => findNamed? categories loose
  | .script => findNamed? scripts loose
  | .scriptExtensions => findNamed? Text.scriptExtensions loose
  | .clusterBreak => findNamed? clusterBreaks loose
  | .wordBreak => findNamed? wordBreaks loose
  | .sentenceBreak => findNamed? sentenceBreaks loose

end SqlDialect.Text
