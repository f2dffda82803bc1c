import WideTable.Text.Recent
import WideTable.Text.Trait.Derived

namespace WideTable.Text

def isAsciiWord (b : UInt8) : Bool :=
  ('a'.toUInt8 ≤ b && b ≤ 'z'.toUInt8) || ('A'.toUInt8 ≤ b && b ≤ 'Z'.toUInt8) ||
  ('0'.toUInt8 ≤ b && b ≤ '9'.toUInt8) || b == '_'.toUInt8

def words : CodeSet :=
  Trait.alphabetic ∪ Trait.joinControl ∪
  Category.union (.decimalNumber :: .connectorPunctuation :: Category.marks)

def isWordChar (c : Char) : Bool :=
  if c.toNat < 0x80 then isAsciiWord c.toUInt8 else words.contains c.toNat

def nameStarts : CodeSet :=
  .unions [Trait.alphabetic, Recent.letters, Recent.letterNumbers, Recent.alphabeticMarks]

def nameParts : CodeSet :=
  nameStarts ∪ Category.union Category.numbers ∪ Recent.decimalNumbers

def isAlphabetic (c : Char) : Bool :=
  nameStarts.contains c.toNat

def isAlphanumeric (c : Char) : Bool :=
  nameParts.contains c.toNat

end WideTable.Text
