import WideTable.Decimal.Nearest
import WideTable.Text.Hex
import WideTable.Toml.Blank
import WideTable.Toml.DateTime
import WideTable.Toml.Value

namespace WideTable.Toml

def isHex (c : Char) : Bool :=
  (Hex.value? c).isSome

def wellGroupedAfter (digit : Char → Bool) : (before : Char) → List Char → Bool
  | _, [] => true
  | _, ['_'] => false
  | before, '_' :: c :: cs => digit before && digit c && wellGroupedAfter digit c cs
  | _, c :: cs => wellGroupedAfter digit c cs

-- Every underscore has a digit on both sides. Before it may also stand a single character, such as a
-- sign.
def wellGrouped (digit : Char → Bool) : List Char → Bool
  | [] => true
  | '_' :: _ => false
  | _ :: '_' :: c :: cs => digit c && wellGroupedAfter digit c cs
  | c :: cs => wellGroupedAfter digit c cs

def unsign : List Char → Bool × List Char
  | '-' :: cs => (true, cs)
  | '+' :: cs => (false, cs)
  | cs => (false, cs)

def signed (negative : Bool) (n : Nat) : Int :=
  if negative then -n else n

def natural? (base : Nat) (cs : List Char) : Option Nat :=
  let digits := cs.filter (· != '_')
  if digits.isEmpty then none
  else
    digits.foldlM (fun n c => do
      let d ← Hex.value? c
      if d < base then some (base * n + d) else none) 0

def integer (negative : Bool) (base : Nat) (cs : List Char) : Value :=
  match natural? base cs with
  | some n => .integer (signed negative n)
  | none => .valueless

-- A number in a base other than ten has no sign.
def radix? : List Char → Option (Nat × List Char)
  | '0' :: 'x' :: cs => some (16, cs)
  | '0' :: 'o' :: cs => some (8, cs)
  | '0' :: 'b' :: cs => some (2, cs)
  | _ => none

-- A decimal number has no needless zero in front.
def startsWell (cs : List Char) (digits : Nat) : Bool :=
  cs.head? != some '0' || digits == 1

def takeDigits? (cs : List Char) : Option (List Char × List Char) :=
  let (run, rest) := cs.span fun c => isDigit c || c == '_'
  let digits := run.filter isDigit
  if digits.isEmpty then none else some (digits, rest)

def readFraction? : List Char → Option (List Char × List Char)
  | '.' :: cs => takeDigits? cs
  | cs => some ([], cs)

def readExponent? : List Char → Option Int
  | [] => some 0
  | c :: cs =>
    if c == 'e' || c == 'E' then
      let (negative, cs) := unsign cs
      match takeDigits? cs with
      | some (digits, []) => some (signed negative (decimal digits))
      | _ => none
    else none

def numeral? (cs : List Char) : Option (Nat × Int) := do
  let (whole, rest) ← takeDigits? cs
  let (fraction, rest) ← readFraction? rest
  let exponent ← readExponent? rest
  if startsWell cs whole.length then
    return (decimal (whole ++ fraction), exponent - fraction.length)
  else none

def negateIf (negative : Bool) (x : Float) : Float :=
  if negative then -x else x

def float? (negative : Bool) (cs : List Char) : Option Value := do
  let (digits, exponent) ← numeral? cs
  let x := Decimal.nearest digits exponent
  return if x.isInf then .valueless else .float (negateIf negative x)

def decimal? (cs : List Char) : Option Value :=
  let (negative, digits) := unsign cs
  let rest := digits.dropWhile isDigit
  if digits = ['i', 'n', 'f'] then some (.float (negateIf negative (1 / 0)))
  else if digits = ['n', 'a', 'n'] then some (.float (0 / 0))
  else if rest.any fun c => c == '.' || c == 'e' || c == 'E' then
    if wellGrouped isDigit cs then float? negative digits else none
  else if !digits.isEmpty && (rest.isEmpty || rest.head? == some '_') then
    if startsWell digits digits.length && wellGrouped isHex cs then
      some (integer negative 10 digits)
    else none
  else none

-- Where underscores stand and where digits are missing decides whether a word is a number at all. Whether
-- it has a value is another question: `0x` and `1_2y` are numbers without one.
def number? (cs : List Char) : Option Value :=
  match radix? cs with
  | some (base, digits) =>
    let allowed (c : Char) : Bool := c == '_' || (Hex.value? c).any (· < base)
    if digits.all allowed && wellGrouped isHex digits then some (integer false base digits) else none
  | none => decimal? cs

def ofWord? (cs : List Char) : Option Value :=
  if cs = "true".toList then some (.boolean true)
  else if cs = "false".toList then some (.boolean false)
  else if isDateTime cs then some .dateTime
  else number? cs

def isWordChar (c : Char) : Bool :=
  !(isBlank c || "\r\n#=,[]\x7b\x7d".contains c)

-- A blank may stand between a date and a time.
def spanWord (cs : List Char) : List Char × List Char :=
  let (word, rest) := cs.span isWordChar
  match rest with
  | ' ' :: c :: rest =>
    if afterDate? word = some [] && isDigit c then
      let (time, rest) := (c :: rest).span isWordChar
      (word ++ ' ' :: time, rest)
    else (word, ' ' :: c :: rest)
  | rest => (word, rest)

def readWord? (cs : List Char) : Option (Value × List Char) :=
  let (word, rest) := spanWord cs
  (ofWord? word).map (·, rest)

end WideTable.Toml
