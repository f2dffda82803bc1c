namespace WideTable.Decimal

def length (n : Nat) : Nat :=
  (Nat.toDigits 10 n).length

-- Beyond the places 310 and -330 every number is infinite or zero, so the powers of ten stay small.
def nearest (digits : Nat) (exponent : Int) : Float :=
  let place := exponent + length digits
  if digits = 0 || place < -330 then 0
  else if 310 < place then 1 / 0
  else Float.ofScientific digits (exponent < 0) exponent.natAbs

end WideTable.Decimal
