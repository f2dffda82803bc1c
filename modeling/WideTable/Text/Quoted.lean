import WideTable.Bytes
import WideTable.Text.Recent
import WideTable.Text.Trait.Derived

namespace WideTable.Text

-- Signs that take space in Korean text and yet show nothing.
def fillers : CodeSet :=
  .ofCodes [0x115f, 0x1160, 0x3164, 0xffa0]

-- The code points beyond ASCII that leave a mark of their own on the page: no controls, no blanks, and
-- nothing that merges with the character before it, the two half-width sound marks aside.
def printables : CodeSet :=
  (Category.assigned ∪ Recent.all) \
    .unions [Category.union Category.others, Category.union Category.separators, fillers,
      Recent.nonspacingMarks, Trait.graphemeExtend \ Category.modifierLetter.codes]

def isPrintable (c : Char) : Bool :=
  if c.toNat < 0x80 then 0x20 ≤ c.toNat && c.toNat < 0x7f else printables.contains c.toNat

def shortEscape? : Char → Option Char
  | '\x00' => some '0'
  | '\t' => some 't'
  | '\n' => some 'n'
  | '\r' => some 'r'
  | '"' => some '"'
  | '\\' => some '\\'
  | _ => none

def escapeChar (c : Char) : List Char :=
  match shortEscape? c with
  | some e => ['\\', e]
  | none =>
    if isPrintable c then [c]
    else ['\\', 'u', '\x7b'] ++ Nat.toDigits 16 c.toNat ++ ['\x7d']

def escapeByte (b : UInt8) : List Char :=
  let c := Char.ofNat b.toNat
  match shortEscape? c with
  | some e => ['\\', e]
  | none =>
    if 0x20 ≤ b ∧ b < 0x7f then [c]
    else ['\\', 'x', Hex.digit (b.toNat / 16), Hex.digit (b.toNat % 16)]

-- Inside quotes, a quote and a backslash are always escaped, so the end of a quoted form is the first
-- quote that no backslash stands before.
def quote (s : String) : String :=
  .ofList ('"' :: s.toList.flatMap escapeChar ++ ['"'])

def quoteBytes (bs : Bytes) : String :=
  .ofList ('b' :: '"' :: bs.flatMap escapeByte ++ ['"'])

end WideTable.Text
