import WideTable.Bytes
import WideTable.Text.Hex

namespace WideTable.Pattern

def isMeta (b : UInt8) : Bool :=
  "\\.+*?()|[]\x7b\x7d^$#&-~".toList.contains (Char.ofNat b.toNat)

def escapeByte (b : UInt8) : List Char :=
  if isMeta b then
    ['\\', Char.ofNat b.toNat]
  else if 0x20 ≤ b ∧ b < 0x7f then
    [Char.ofNat b.toNat]
  else
    ['\\', 'x', Hex.capital (b.toNat / 16), Hex.capital (b.toNat % 16)]

def escape (literal : Bytes) : List Char :=
  literal.flatMap escapeByte

-- Escaped literals hold no bare `|`, so `|` can separate them.
def alternation : List Bytes → List Char
  | [] => []
  | [l] => escape l
  | l :: ls => escape l ++ '|' :: alternation ls

def ofLiteral (literal : Bytes) : String :=
  .ofList (escape literal)

-- No pattern stands for none at all.
def ofLiterals? : List Bytes → Option String
  | [] => none
  | ls => some (.ofList (alternation ls))

@[simp]
theorem ofLiterals?_nil : ofLiterals? [] = none :=
  rfl

@[simp]
theorem ofLiterals?_singleton (l : Bytes) : ofLiterals? [l] = some (ofLiteral l) :=
  rfl

end WideTable.Pattern
