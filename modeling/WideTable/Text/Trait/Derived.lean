import WideTable.Text.Blank
import WideTable.Text.Category
import WideTable.Text.Trait.Basic

namespace WideTable.Text.Trait

def whiteSpace : CodeSet :=
  .ofRanges [(0x09, 0x0d), (0x20, 0x20), (0x85, 0x85), (0xa0, 0xa0), (0x1680, 0x1680),
    (0x2000, 0x200a), (0x2028, 0x2029), (0x202f, 0x202f), (0x205f, 0x205f), (0x3000, 0x3000)]

theorem contains_whiteSpace (c : Char) : whiteSpace.contains c.toNat = isBlank c := by
  rw [Bool.eq_iff_iff]
  simp [whiteSpace, CodeSet.ofRanges, CodeSet.contains_unions, isBlank]
  omega

def lowercase : CodeSet :=
  Category.lowercaseLetter.codes ∪ otherLowercase

def uppercase : CodeSet :=
  Category.uppercaseLetter.codes ∪ otherUppercase

def cased : CodeSet :=
  lowercase ∪ uppercase ∪ Category.titlecaseLetter.codes

def caseIgnorable : CodeSet :=
  Category.union [.nonspacingMark, .enclosingMark, .format, .modifierLetter, .modifierSymbol] ∪
  midLetter ∪ midNumLet ∪ .single 0x27

def changesWhenCasemapped : CodeSet :=
  changesWhenLowercased ∪ changesWhenUppercased ∪ changesWhenTitlecased

def alphabetic : CodeSet :=
  Category.union (.letterNumber :: Category.letters) ∪ otherAlphabetic

def math : CodeSet :=
  Category.mathSymbol.codes ∪ otherMath

def graphemeExtend : CodeSet :=
  Category.union [.nonspacingMark, .enclosingMark] ∪ otherGraphemeExtend

def graphemeBase : CodeSet :=
  (Category.assigned \ Category.union [.control, .format, .privateUse, .lineSeparator,
    .paragraphSeparator]) \ graphemeExtend

def idStart : CodeSet :=
  ((Category.union (.letterNumber :: Category.letters) ∪ otherIdStart) \ patternSyntax) \
    patternWhiteSpace

def idContinue : CodeSet :=
  ((idStart ∪ Category.union [.nonspacingMark, .spacingMark, .decimalNumber,
    .connectorPunctuation] ∪ otherIdContinue) \ patternSyntax) \ patternWhiteSpace

-- The start of identifiers that stay identifiers when compatible forms are unified.
def xidStart : CodeSet :=
  idStart \ .ofLines ["37a e33 eb3 309b-309c fc5e-fc63 fdfa-fdfb fe70/fe7e ff9e-ff9f"]

def xidContinue : CodeSet :=
  idContinue \ .ofLines ["37a 309b-309c fc5e-fc63 fdfa-fdfb fe70/fe7e"]

def defaultIgnorableCodePoint : CodeSet :=
  (otherDefaultIgnorableCodePoint ∪ Category.format.codes ∪ variationSelector) \
    (whiteSpace ∪ .ofRanges [(0xfff9, 0xfffb), (0x13430, 0x1343f)] ∪ prependedConcatenationMark)

def names : List (List String × CodeSet) :=
  [(["ahex", "asciihexdigit"], asciiHexDigit), (["alpha", "alphabetic"], alphabetic),
   (["bidic", "bidicontrol"], bidiControl), (["bidim", "bidimirrored"], bidiMirrored),
   (["cased"], cased), (["ci", "caseignorable"], caseIgnorable),
   (["cwcf", "changeswhencasefolded"], changesWhenCasefolded),
   (["cwcm", "changeswhencasemapped"], changesWhenCasemapped),
   (["cwl", "changeswhenlowercased"], changesWhenLowercased),
   (["cwt", "changeswhentitlecased"], changesWhenTitlecased),
   (["cwu", "changeswhenuppercased"], changesWhenUppercased), (["dash"], dash),
   (["di", "defaultignorablecodepoint"], defaultIgnorableCodePoint),
   (["dep", "deprecated"], deprecated), (["dia", "diacritic"], diacritic),
   (["ebase", "emojimodifierbase"], emojiModifierBase),
   (["ecomp", "emojicomponent"], emojiComponent), (["emod", "emojimodifier"], emojiModifier),
   (["emoji"], emoji), (["epres", "emojipresentation"], emojiPresentation),
   (["ext", "extender"], extender), (["extpict", "extendedpictographic"], extendedPictographic),
   (["grbase", "graphemebase"], graphemeBase), (["grext", "graphemeextend"], graphemeExtend),
   (["grlink", "graphemelink"], graphemeLink), (["hex", "hexdigit"], hexDigit),
   (["hyphen"], hyphen), (["idc", "idcontinue"], idContinue),
   (["idcompatmathcontinue"], idCompatMathContinue), (["idcompatmathstart"], idCompatMathStart),
   (["ideo", "ideographic"], ideographic), (["ids", "idstart"], idStart),
   (["idsb", "idsbinaryoperator"], binaryIdeographOperator),
   (["idst", "idstrinaryoperator"], trinaryIdeographOperator),
   (["idsu", "idsunaryoperator"], unaryIdeographOperator),
   (["joinc", "joincontrol"], joinControl),
   (["loe", "logicalorderexception"], logicalOrderException),
   (["lower", "lowercase"], lowercase), (["math"], math),
   (["mcm", "modifiercombiningmark"], modifierCombiningMark),
   (["nchar", "noncharactercodepoint"], noncharacterCodePoint),
   (["oalpha", "otheralphabetic"], otherAlphabetic),
   (["odi", "otherdefaultignorablecodepoint"], otherDefaultIgnorableCodePoint),
   (["ogrext", "othergraphemeextend"], otherGraphemeExtend),
   (["oidc", "otheridcontinue"], otherIdContinue), (["oids", "otheridstart"], otherIdStart),
   (["olower", "otherlowercase"], otherLowercase), (["omath", "othermath"], otherMath),
   (["oupper", "otheruppercase"], otherUppercase), (["patsyn", "patternsyntax"], patternSyntax),
   (["patws", "patternwhitespace"], patternWhiteSpace),
   (["pcm", "prependedconcatenationmark"], prependedConcatenationMark),
   (["qmark", "quotationmark"], quotationMark), (["radical"], radical),
   (["ri", "regionalindicator"], regionalIndicator), (["sd", "softdotted"], softDotted),
   (["sterm", "sentenceterminal"], sentenceTerminal),
   (["space", "wspace", "whitespace"], whiteSpace),
   (["term", "terminalpunctuation"], terminalPunctuation),
   (["uideo", "unifiedideograph"], unifiedIdeograph), (["upper", "uppercase"], uppercase),
   (["vs", "variationselector"], variationSelector), (["xidc", "xidcontinue"], xidContinue),
   (["xids", "xidstart"], xidStart)]

def named? (name : String) : Option CodeSet :=
  (names.find? (·.1.contains name)).map (·.2)

end WideTable.Text.Trait
