import WideTable.Decimal.Nearest

namespace WideTable

inductive Json
  | null
  | bool (b : Bool)
  | int (n : Int)
  | float (x : Float)
  | string (s : String)
  | array (items : List Json)
  | object (members : List (String × Json))
  deriving Inhabited, Repr

namespace Json

def fitsWord (n : Int) : Bool :=
  Int64.minValue.toInt ≤ n && n < UInt64.size

-- Without a point and an exponent a number is an integer, if that fits into 64 bits and is not a negative
-- zero.
def ofNumeral (negative : Bool) (digits : Nat) (exponent : Option Int) : Json :=
  let n : Int := if negative then -digits else digits
  if exponent.isNone && fitsWord n && !(negative && digits == 0) then int n
  else
    let x := Decimal.nearest digits (exponent.getD 0)
    float (if negative then -x else x)

end Json
end WideTable
