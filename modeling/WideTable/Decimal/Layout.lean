import WideTable.Decimal.Shortest

namespace WideTable.Decimal

-- Which numbers are written without an exponent: those whose first digit stands at one of the places from
-- `least` to `most`, where they are bounded.
structure Layout where
  least : Option Int := none
  most  : Option Int := none

namespace Layout

def plain : Layout :=
  {}

def json : Layout where
  least := some (-5)
  most := some 15

def zeros (n : Nat) : List Char :=
  List.replicate n '0'

-- A whole number ends with `.0`.
def fixed (digits : List Char) (exponent : Int) : List Char :=
  if 0 ≤ exponent then
    digits ++ zeros exponent.toNat ++ ['.', '0']
  else
    let places := exponent.natAbs
    let padded := zeros (places + 1 - digits.length) ++ digits
    padded.take (padded.length - places) ++ '.' :: padded.drop (padded.length - places)

def scientific (digits : List Char) (place : Int) : List Char :=
  let head :=
    match digits with
    | d :: e :: rest => d :: '.' :: e :: rest
    | _ => digits
  head ++ ['e', if place < 0 then '-' else '+'] ++ Nat.toDigits 10 place.natAbs

def trim (d : Decimal) : List Char × Int :=
  let digits := Nat.toDigits 10 d.digits
  let kept := (digits.reverse.dropWhile (· == '0')).reverse
  (kept, d.exponent + (digits.length - kept.length : Nat))

def finite (l : Layout) (b : Binary) : List Char :=
  let (digits, exponent) := if b.mantissa = 0 then (['0'], 0) else trim (shortest b)
  let place := exponent + digits.length - 1
  let body :=
    if l.least.all (· ≤ place) && l.most.all (place ≤ ·) then fixed digits exponent
    else scientific digits place
  if b.negative then '-' :: body else body

def render (l : Layout) (x : Float) : String :=
  match Binary.ofFloat? x with
  | some b => .ofList (l.finite b)
  | none => if x.isNaN then "NaN" else if x < 0 then "-inf" else "inf"

end Layout
end WideTable.Decimal
