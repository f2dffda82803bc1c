namespace WideTable

structure Decimal where
  digits   : Nat
  exponent : Int
  deriving DecidableEq, Repr

structure Binary where
  negative : Bool
  mantissa : Nat
  exponent : Int
  deriving DecidableEq, Repr

namespace Binary

def leadingBit : Nat :=
  1 <<< 52

def ofFloat? (x : Float) : Option Binary :=
  let bits := x.toBits.toNat
  let negative := bits >>> 63 = 1
  let exponent : Nat := bits >>> 52 % 2048
  let fraction := bits % leadingBit
  if exponent = 2047 then none
  else if exponent = 0 then some ⟨negative, fraction, -1074⟩
  else some ⟨negative, leadingBit + fraction, (exponent : Int) - 1075⟩

-- The neighbour below is only half as far where the mantissa is as small as it gets.
def isLeast (b : Binary) : Bool :=
  b.mantissa == leadingBit && b.exponent != -1074

end Binary

namespace Decimal

def width (n : Nat) : Nat :=
  (Nat.toDigits 10 n).length

-- The place of the first digit of `num / den`, which is not zero: 0 for units, -1 for tenths.
def leadingPlace (num den : Nat) : Int :=
  if den ≤ num then (width (num / den) : Int) - 1
  else
    -- Each power of ten takes more than three of two.
    match (List.range den.log2).find? fun k => den ≤ num * Nat.pow 10 (k + 1) with
    | some k => -(k + 1 : Int)
    | none => -(den.log2 + 1 : Int)

-- The decimal nearest to `num / den` on the grid of `10^place` that lies between `low / den` and `high /
-- den`, the ends included if `closed`.
def onGrid? (num low high den : Nat) (closed : Bool) (place : Int) : Option Decimal :=
  let unit := Nat.pow 10 place.natAbs
  -- All four numbers are scaled so that the grid becomes the integers.
  let (scale, den) := if place < 0 then (unit, den) else (1, den * unit)
  let num := num * scale
  let inside (n : Nat) : Bool :=
    let x := n * den
    let low := low * scale
    let high := high * scale
    if closed then low ≤ x && x ≤ high else low < x && x < high
  let floor := num / den
  let rest := num % den
  let near := [floor, floor + 1].filter inside
  match near with
  | [] => none
  | [n] => some ⟨n, place⟩
  | _ =>
    -- A tie goes to the even one.
    let up := den < 2 * rest || (den == 2 * rest && floor % 2 == 1)
    some ⟨if up then floor + 1 else floor, place⟩

-- A finite number is `m · 2^q`. The decimals that read back as it fill the interval between the midpoints
-- to its two neighbours. Of those with the fewest digits the nearest one is taken.
def shortest (b : Binary) : Decimal :=
  -- In quarters of the distance to the next number.
  let quarters := 4 * b.mantissa
  let below := if b.isLeast then 1 else 2
  let q := b.exponent - 2
  let (scale, den) := if q < 0 then (1, 1 <<< q.natAbs) else (1 <<< q.natAbs, 1)
  let num := quarters * scale
  let low := (quarters - below) * scale
  let high := (quarters + 2) * scale
  let first := leadingPlace num den
  let grids := (List.range 17).map fun (n : Nat) => first - n
  let found := grids.findSome? (onGrid? num low high den (b.mantissa % 2 == 0))
  -- Seventeen digits are always enough.
  found.getD ⟨0, 0⟩

end Decimal
end WideTable
