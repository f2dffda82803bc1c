import WideTable.Text.Script
import WideTable.Text.Trait.Derived

namespace WideTable.Text

def lineFeed : CodeSet :=
  .single 0x0a

def carriageReturn : CodeSet :=
  .single 0x0d

def joiner : CodeSet :=
  .single 0x200d

namespace GraphemeBreak

def extend : CodeSet :=
  Trait.graphemeExtend ∪ Trait.emojiModifier

def control : CodeSet :=
  (Category.union [.lineSeparator, .paragraphSeparator, .control, .format] ∪
    (Category.unassigned ∩ Trait.defaultIgnorableCodePoint)) \
  (carriageReturn ∪ lineFeed ∪ joiner ∪ Trait.prependedConcatenationMark ∪ Trait.graphemeExtend)

def precedingLetter : CodeSet := .ofLines
  ["d4e 111c2-111c3 113d1 1193f 11941 11a3a 11a84-11a89 11d46 11f02"]

def prepend : CodeSet :=
  Trait.prependedConcatenationMark ∪ precedingLetter

-- Marks that take space, and yet begin a character of their own.
def apartMark : CodeSet := .ofLines
  ["102b-102c 1038 1062-1064 1067-106d 1083 1087-108c 108f 109a-109c 1a61 1a63-1a64 aa7b aa7d",
   "11720-11721"]

def spacingMark : CodeSet :=
  ((Category.spacingMark.codes \ Trait.graphemeExtend) ∪ .ofCodes [0xe33, 0xeb3]) \ apartMark

def leadingConsonant : CodeSet :=
  .ofLines ["1100-115f a960-a97c"]

def vowel : CodeSet :=
  .ofLines ["1160-11a7 d7b0-d7c6 16d63 16d67-16d6a"]

def trailingConsonant : CodeSet :=
  .ofLines ["11a8-11ff d7cb-d7fb"]

-- There are 28 syllables for each that has no trailing consonant.
def openSyllable : CodeSet :=
  .ofCodes ((List.range 399).map (0xac00 + 28 * ·))

def closedSyllable : CodeSet :=
  .range 0xac00 0xd7a3 \ openSyllable

-- The rest value of each property has no name here.
def named? : String → Option CodeSet
  | "cn" | "control" => some control
  | "cr" => some carriageReturn
  | "ex" | "extend" => some extend
  | "l" => some leadingConsonant
  | "lf" => some lineFeed
  | "lv" => some openSyllable
  | "lvt" => some closedSyllable
  | "pp" | "prepend" => some prepend
  | "ri" | "regionalindicator" => some Trait.regionalIndicator
  | "sm" | "spacingmark" => some spacingMark
  | "t" => some trailingConsonant
  | "v" => some vowel
  | "zwj" => some joiner
  | _ => none

end GraphemeBreak

namespace WordBreak

def extend : CodeSet :=
  Trait.graphemeExtend ∪ Category.spacingMark.codes ∪ Trait.emojiModifier

def format : CodeSet :=
  Category.format.codes \ (Trait.prependedConcatenationMark ∪ Trait.graphemeExtend ∪
    .ofCodes [0x200b, 0x200d])

def hebrewLetter : CodeSet :=
  Script.hebrew ∩ Category.otherLetter.codes

def numeric : CodeSet :=
  Category.decimalNumber.codes ∪ (Trait.prependedConcatenationMark \ .single 0x70f) ∪
  .ofCodes [0x66b, 0x19da]

def katakana : CodeSet := .ofLines
  ["3031-3035 309b-309c 30a0-30fa 30fc-30ff 31f0-31ff 32d0-32fe 3300-3357 ff66-ff9d 1aff0-1aff3",
   "1aff5-1affb 1affd-1affe 1b000 1b120-1b122 1b155 1b164-1b167"]

-- Letters of scripts that write words without blanks between them.
def unspacedLetter : CodeSet := .ofLines
  ["e01-e30 e32-e33 e40-e46 e81-e82 e84 e86-e8a e8c-ea3 ea5 ea7-eb0 eb2-eb3 ebd ec0-ec4 ec6",
   "edc-edf 1000-102a 103f 1050-1055 105a-105d 1061 1065-1066 106e-1070 1075-1081 108e 1780-17b3",
   "17d7 17dc 1950-196d 1970-1974 1980-19ab 19b0-19c9 1a20-1a54 1aa7 a9e0-a9e4 a9e6-a9ef",
   "a9fa-a9fe aa60-aa76 aa7a aa7e-aaaf aab1 aab5-aab6 aab9-aabd aac0 aac2 aadb-aadd 11700-1171a",
   "11740-11746"]

def letterLike : CodeSet := .ofLines
  ["2c2-2c5 2d2-2d7 2de-2df 2e5-2eb 2ed 2ef-2ff 55a-55c 55e 58a 5f3 70f a708-a716 a720-a721",
   "a789-a78a ab5b"]

def letter : CodeSet :=
  (Trait.alphabetic \ (Trait.ideographic ∪ katakana ∪ extend ∪ hebrewLetter ∪ Script.hiragana ∪
    unspacedLetter)) ∪ letterLike

def midNum : CodeSet :=
  .ofLines ["2c 3b 37e 589 60c-60d 66c 7f8 2044 fe50 fe54 ff0c ff1b"]

def extendNumLet : CodeSet :=
  .ofLines ["5f 202f 203f-2040 2054 fe33-fe34 fe4d-fe4f ff3f"]

def newline : CodeSet :=
  .ofLines ["b-c 85 2028-2029"]

-- Blanks that do not forbid a break.
def blank : CodeSet :=
  .ofLines ["20 1680 2000-2006 2008-200a 205f 3000"]

def named? : String → Option CodeSet
  | "le" | "aletter" => some letter
  | "cr" => some carriageReturn
  | "dq" | "doublequote" => some (.single 0x22)
  | "ex" | "extendnumlet" => some extendNumLet
  | "extend" => some extend
  | "fo" | "format" => some format
  | "hl" | "hebrewletter" => some hebrewLetter
  | "ka" | "katakana" => some katakana
  | "lf" => some lineFeed
  | "mb" | "midnumlet" => some Trait.midNumLet
  | "ml" | "midletter" => some Trait.midLetter
  | "mn" | "midnum" => some midNum
  | "nl" | "newline" => some newline
  | "nu" | "numeric" => some numeric
  | "ri" | "regionalindicator" => some Trait.regionalIndicator
  | "sq" | "singlequote" => some (.single 0x27)
  | "wsegspace" => some blank
  | "zwj" => some joiner
  | _ => none

end WordBreak

namespace SentenceBreak

def extend : CodeSet :=
  Trait.graphemeExtend ∪ Category.spacingMark.codes ∪ joiner

def format : CodeSet :=
  Category.format.codes \ ((Trait.prependedConcatenationMark \ .single 0x70f) ∪
    Trait.graphemeExtend ∪ joiner)

def separator : CodeSet :=
  .ofCodes [0x85, 0x2028, 0x2029]

def blank : CodeSet :=
  Trait.whiteSpace \ (carriageReturn ∪ lineFeed ∪ separator)

def lower : CodeSet :=
  Trait.lowercase \ (Trait.graphemeExtend ∪ .ofRanges [(0x10d0, 0x10fa), (0x10fd, 0x10ff)])

def upper : CodeSet :=
  (Trait.uppercase ∪ Category.titlecaseLetter.codes) \ .ofRanges [(0x1c90, 0x1cba), (0x1cbd, 0x1cbf)]

def otherLetter : CodeSet :=
  (Trait.alphabetic ∪ .single 0x5f3) \ (lower ∪ upper ∪ extend)

def numeric : CodeSet :=
  WordBreak.numeric ∪ .single 0x66c

def fullStop : CodeSet :=
  .ofLines ["2e 2024 fe52 ff0e"]

def terminator : CodeSet :=
  Trait.sentenceTerminal \ fullStop

def goingOn : CodeSet := .ofLines
  ["2c-2d 3a-3b 37e 55d 60c-60d 7f8 1802 1808 2013-2014 3001 fe10-fe11 fe13-fe14 fe31-fe32",
   "fe50-fe51 fe54-fe55 fe58 fe63 ff0c-ff0d ff1a-ff1b ff64"]

def closing : CodeSet :=
  Category.union [.openPunctuation, .closePunctuation, .initialPunctuation, .finalPunctuation] ∪
  .ofLines ["22 27 275b-2760 2e00-2e01 2e06-2e08 2e0b 1f676-1f678"]

def named? : String → Option CodeSet
  | "at" | "aterm" => some fullStop
  | "cl" | "close" => some closing
  | "cr" => some carriageReturn
  | "ex" | "extend" => some extend
  | "fo" | "format" => some format
  | "le" | "oletter" => some otherLetter
  | "lf" => some lineFeed
  | "lo" | "lower" => some lower
  | "nu" | "numeric" => some numeric
  | "sc" | "scontinue" => some goingOn
  | "se" | "sep" => some separator
  | "sp" => some blank
  | "st" | "sterm" => some terminator
  | "up" | "upper" => some upper
  | _ => none

end SentenceBreak
end WideTable.Text
