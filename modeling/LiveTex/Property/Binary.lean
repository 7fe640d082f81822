import LiveTex.Property.CaseChange
import LiveTex.Property.Category
import LiveTex.Property.Contributory
import LiveTex.Property.Diacritic
import LiveTex.Property.Emoji
import LiveTex.Property.Ideograph
import LiveTex.Property.Punctuation
import LiveTex.Property.Technical
import LiveTex.Property.WordBreak
import LiveTex.Text.Blank

/-!
Properties that a character has or has not. Many are put together from categories and from sets that
add to them.
-/

namespace LiveTex.Property

def lowercase : CharSet := category ["Ll"] ∪ otherLowercase

def uppercase : CharSet := category ["Lu"] ∪ otherUppercase

/-- Characters of lower, upper or title case. -/
def cased : CharSet := lowercase ∪ uppercase ∪ category ["Lt"]

/-- Characters to look past where the case of a word is told from its letters. -/
def caseIgnorable : CharSet :=
  category ["Mn", "Me", "Cf", "Lm", "Sk"] ∪
    wordBreaks.select fun code => ["ML", "MB", "SQ"].any (·.toList == code)

/-- The letters, and what stands for letters. -/
def alphabetic : CharSet := category ["L", "Nl"] ∪ lowercase ∪ uppercase ∪ otherAlphabetic

def math : CharSet := category ["Sm"] ∪ otherMath

/-- Marks that extend the grapheme before them. -/
def graphemeExtend : CharSet := category ["Mn", "Me"] ∪ otherGraphemeExtend

/-- Characters that graphemes are built on. -/
def graphemeBase : CharSet := (category ["C", "Zl", "Zp"] ∪ graphemeExtend).compl

/-- Characters that identifiers may start with. -/
def idStart : CharSet :=
  (category ["L", "Nl"] ∪ otherIDStart) \ (patternSyntax ∪ patternWhiteSpace)

/-- Characters that identifiers may go on with. -/
def idContinue : CharSet :=
  (idStart ∪ category ["Mn", "Mc", "Nd", "Pc"] ∪ otherIDContinue) \ (patternSyntax ∪ patternWhiteSpace)

/-- Characters whose compatible form has no place at the start of an identifier. -/
def unstableStart : CharSet := .ofRows
  ["37a e33 eb3 309b-309c fc5e-fc63 fdfa-fdfb fe70 fe72 fe74 fe76 fe78 fe7a fe7c fe7e ff9e-ff9f"]

/-- Characters whose compatible form has no place in an identifier. -/
def unstableContinue : CharSet := .ofRows
  ["37a 309b-309c fc5e-fc63 fdfa-fdfb fe70 fe72 fe74 fe76 fe78 fe7a fe7c fe7e"]

/-- Characters that identifiers may start with in every normal form. -/
def xidStart : CharSet := idStart \ unstableStart

/-- Characters that identifiers may go on with in every normal form. -/
def xidContinue : CharSet := idContinue \ unstableContinue

/-- The properties with their names. -/
def binaryProperties : List (String × CharSet) :=
  [("ASCII_Hex_Digit ahex", asciiHexDigit), ("Alphabetic alpha", alphabetic),
   ("Bidi_Control bidic", bidiControl), ("Bidi_Mirrored bidim", bidiMirrored),
   ("Case_Ignorable ci", caseIgnorable), ("Cased", cased),
   ("Changes_When_Casefolded cwcf", changesWhenCasefolded),
   ("Changes_When_Casemapped cwcm", changesWhenCasemapped),
   ("Changes_When_Lowercased cwl", changesWhenLowercased),
   ("Changes_When_Titlecased cwt", changesWhenTitlecased),
   ("Changes_When_Uppercased cwu", changesWhenUppercased), ("Dash", dash),
   ("Default_Ignorable_Code_Point di", defaultIgnorableCodePoint), ("Deprecated dep", deprecated),
   ("Diacritic dia", diacritic), ("Emoji", emoji), ("Emoji_Component ecomp", emojiComponent),
   ("Emoji_Modifier emod", emojiModifier), ("Emoji_Modifier_Base ebase", emojiModifierBase),
   ("Emoji_Presentation epres", emojiPresentation),
   ("Extended_Pictographic extpict", extendedPictographic), ("Extender ext", extender),
   ("Grapheme_Base grbase", graphemeBase), ("Grapheme_Extend grext", graphemeExtend),
   ("Grapheme_Link grlink", graphemeLink), ("Hex_Digit hex", hexDigit), ("Hyphen", hyphen),
   ("IDS_Binary_Operator idsb", idsBinaryOperator),
   ("IDS_Trinary_Operator idst", idsTrinaryOperator), ("IDS_Unary_Operator idsu", idsUnaryOperator),
   ("ID_Compat_Math_Continue", idCompatMathContinue), ("ID_Compat_Math_Start", idCompatMathStart),
   ("ID_Continue idc", idContinue), ("ID_Start ids", idStart), ("Ideographic ideo", ideographic),
   ("Join_Control joinc", joinControl), ("Logical_Order_Exception loe", logicalOrderException),
   ("Lowercase lower", lowercase), ("Math", math),
   ("Modifier_Combining_Mark mcm", modifierCombiningMark),
   ("Noncharacter_Code_Point nchar", noncharacterCodePoint),
   ("Other_Alphabetic oalpha", otherAlphabetic),
   ("Other_Default_Ignorable_Code_Point odi", otherDefaultIgnorableCodePoint),
   ("Other_Grapheme_Extend ogrext", otherGraphemeExtend),
   ("Other_ID_Continue oidc", otherIDContinue), ("Other_ID_Start oids", otherIDStart),
   ("Other_Lowercase olower", otherLowercase), ("Other_Math omath", otherMath),
   ("Other_Uppercase oupper", otherUppercase), ("Pattern_Syntax patsyn", patternSyntax),
   ("Pattern_White_Space patws", patternWhiteSpace),
   ("Prepended_Concatenation_Mark pcm", prependedConcatenationMark),
   ("Quotation_Mark qmark", quotationMark), ("Radical", radical),
   ("Regional_Indicator ri", regionalIndicator), ("Sentence_Terminal sterm", sentenceTerminal),
   ("Soft_Dotted sd", softDotted), ("Terminal_Punctuation term", terminalPunctuation),
   ("Unified_Ideograph uideo", unifiedIdeograph), ("Uppercase upper", uppercase),
   ("Variation_Selector vs", variationSelector), ("White_Space space wspace", Text.whiteSpace),
   ("XID_Continue xidc", xidContinue), ("XID_Start xids", xidStart)]

/-- The characters that have the property with a name. -/
def ofBinary? (name : Text) : Option CharSet :=
  binaryProperties.findSome? fun (names, set) =>
    if ((Text.words names).any (squeezed · == name)) then some set else none

end LiveTex.Property
