import LineEditor.Unicode.Binary
import LineEditor.Unicode.Script

/-! The classes of characters by which the Unicode standard divides text into grapheme clusters,
words and sentences. For each of the three a character is in one class at most; one that is in none
is left to the rule for all others. -/
namespace LineEditor.Unicode

namespace GraphemeBreak

def extend : CharSet := Binary.graphemeExtend.union Binary.emojiModifier

def zeroWidthJoiner : CharSet := .single '\u200d'

def control : CharSet :=
  (Category.unions [Category.lineSeparator, Category.paragraphSeparator, Category.control,
    Category.format, Category.unassigned.inter Binary.defaultIgnorableCodePoint]).diff
    (Category.unions [.single '\r', .single '\n', zeroWidthJoiner, extend,
      Binary.prependedConcatenationMark])

def prepended : CharSet :=
  Binary.prependedConcatenationMark.union
    (.ofHex "d4e 111c2-111c3 113d1 1193f 11941 11a3a 11a84-11a89 11d46 11f02")

def spacingMark : CharSet :=
  (Category.spacingMark.union (.ofHex "e33 eb3")).diff (extend.union
    (.ofHex "102b-102c 1038 1062-1064 1067-106d 1083 1087-108c 108f 109a-109c 1a61 1a63-1a64 aa7b
      aa7d 11720-11721"))

def leadingJamo : CharSet := .ofHex "1100-115f a960-a97c"

def vowelJamo : CharSet := .ofHex "1160-11a7 d7b0-d7c6 16d63 16d67-16d6a"

def trailingJamo : CharSet := .ofHex "11a8-11ff d7cb-d7fb"

def openSyllable : CharSet :=
  ⟨(List.range 399).map fun i => ⟨0xac00 + 28 * i, 0xac00 + 28 * i⟩⟩

def closedSyllable : CharSet := CharSet.diff (.ofHex "ac00-d7a3") openSyllable

def named : List (List String × CharSet) :=
  [
    (["CR"], .single '\r'),
    (["LF"], .single '\n'),
    (["Control", "CN"], control),
    (["Extend", "EX"], extend),
    (["ZWJ"], zeroWidthJoiner),
    (["Regional_Indicator", "RI"], Binary.regionalIndicator),
    (["Prepend", "PP"], prepended),
    (["SpacingMark", "SM"], spacingMark),
    (["L"], leadingJamo),
    (["V"], vowelJamo),
    (["T"], trailingJamo),
    (["LV"], openSyllable),
    (["LVT"], closedSyllable)]

end GraphemeBreak

namespace WordBreak

def extend : CharSet :=
  (Category.unions [Binary.graphemeExtend, Category.spacingMark, Binary.emojiModifier]).diff
    GraphemeBreak.zeroWidthJoiner

def format : CharSet :=
  Category.format.diff (Category.unions [extend, GraphemeBreak.zeroWidthJoiner,
    Binary.prependedConcatenationMark, .single '\u200b'])

def katakana : CharSet :=
  (Script.union ["Katakana"]).union (.ofHex "3031-3035 309b-309c 30a0 30fc ff70")

def hebrewLetter : CharSet := (Script.union ["Hebrew"]).inter Category.otherLetter

/-- Scripts that put no mark between words, so that their letters say nothing about a break. -/
def unspaced : CharSet :=
  Script.union ["Hiragana", "Thai", "Lao", "Myanmar", "Khmer", "Tai_Le", "New_Tai_Lue", "Tai_Tham",
    "Tai_Viet", "Ahom"]

def letter : CharSet :=
  (Binary.alphabetic.union
    (.ofHex "2c2-2c5 2d2-2d7 2de-2df 2e5-2eb 2ed 2ef-2ff 55a-55c 55e 58a 5f3 70f a708-a716
      a720-a721 a789-a78a ab5b")).diff
    (Category.unions [Binary.ideographic, katakana, unspaced, extend, hebrewLetter])

def numeric : CharSet :=
  Category.decimalNumber.union (.ofHex "600-605 66b 6dd 890-891 8e2 19da 110bd 110cd")

def named : List (List String × CharSet) :=
  [
    (["CR"], .single '\r'),
    (["LF"], .single '\n'),
    (["Newline", "NL"], .ofHex "b-c 85 2028-2029"),
    (["Extend"], extend),
    (["ZWJ"], GraphemeBreak.zeroWidthJoiner),
    (["Regional_Indicator", "RI"], Binary.regionalIndicator),
    (["Format", "FO"], format),
    (["Katakana", "KA"], katakana),
    (["Hebrew_Letter", "HL"], hebrewLetter),
    (["ALetter", "LE"], letter),
    (["Single_Quote", "SQ"], .single '\''),
    (["Double_Quote", "DQ"], .single '"'),
    (["MidNumLet", "MB"], .ofHex "2e 2018-2019 2024 fe52 ff07 ff0e"),
    (["MidLetter", "ML"], .ofHex "3a b7 387 55f 5f4 2027 fe13 fe55 ff1a"),
    (["MidNum", "MN"], .ofHex "2c 3b 37e 589 60c-60d 66c 7f8 2044 fe50 fe54 ff0c ff1b"),
    (["Numeric", "NU"], numeric),
    (["ExtendNumLet", "EX"], Category.connectorPunctuation.union (.single '\u202f')),
    (["WSegSpace"], Category.spaceSeparator.diff (.ofHex "a0 2007 202f"))]

end WordBreak

namespace SentenceBreak

def separator : CharSet := .ofHex "85 2028-2029"

def extend : CharSet :=
  Category.unions [Binary.graphemeExtend, Category.spacingMark, GraphemeBreak.zeroWidthJoiner]

def numeric : CharSet := WordBreak.numeric.union (.single '\u066c')

def format : CharSet := Category.format.diff (extend.union numeric)

def space : CharSet :=
  Binary.whiteSpace.diff (Category.unions [.single '\r', .single '\n', separator])

/-- Georgian letters have case, but sentences do not begin with a capital. -/
def georgian : CharSet := .ofHex "10d0-10fa 10fd-10ff 1c90-1cba 1cbd-1cbf"

def lower : CharSet := Binary.lowercase.diff (Binary.graphemeExtend.union georgian)

def upper : CharSet := (Binary.uppercase.union Category.titlecaseLetter).diff georgian

def otherLetter : CharSet :=
  (Binary.alphabetic.union (.single '\u05f3')).diff (Category.unions [lower, upper, extend])

def fullStop : CharSet := .ofHex "2e 2024 fe52 ff0e"

def closing : CharSet :=
  (Category.unions [Category.openPunctuation, Category.closePunctuation,
    Category.initialPunctuation, Category.finalPunctuation, Binary.quotationMark,
    .ofHex "275b-2760 2e00-2e01 2e06-2e08 2e0b 1f676-1f678"]).diff (.ofHex "ff02 ff07")

def named : List (List String × CharSet) :=
  [
    (["CR"], .single '\r'),
    (["LF"], .single '\n'),
    (["Sep", "SE"], separator),
    (["Extend", "EX"], extend),
    (["Format", "FO"], format),
    (["Sp"], space),
    (["Lower", "LO"], lower),
    (["Upper", "UP"], upper),
    (["OLetter", "LE"], otherLetter),
    (["Numeric", "NU"], numeric),
    (["ATerm", "AT"], fullStop),
    (["STerm", "ST"], Binary.sentenceTerminal.diff fullStop),
    (["SContinue", "SC"],
      .ofHex "2c-2d 3a-3b 37e 55d 60c-60d 7f8 1802 1808 2013-2014 3001 fe10-fe11 fe13-fe14
        fe31-fe32 fe50-fe51 fe54-fe55 fe58 fe63 ff0c-ff0d ff1a-ff1b ff64"),
    (["Close", "CL"], closing)]

end SentenceBreak

end LineEditor.Unicode
