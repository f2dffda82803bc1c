namespace WideTable.Toml

def isDigit (c : Char) : Bool :=
  '0' ≤ c && c ≤ '9'

def decimal (digits : List Char) : Nat :=
  digits.foldl (fun n d => 10 * n + (d.toNat - '0'.toNat)) 0

def readField? (width least most : Nat) (cs : List Char) : Option (Nat × List Char) :=
  let digits := cs.take width
  let n := decimal digits
  if digits.length = width && digits.all isDigit && least ≤ n && n ≤ most then
    some (n, cs.drop width)
  else none

def after? (mark : Char) : List Char → Option (List Char)
  | c :: cs => if c = mark then some cs else none
  | [] => none

def isLeap (year : Nat) : Bool :=
  year % 4 == 0 && (year % 100 != 0 || year % 400 == 0)

def daysIn (year : Nat) : (month : Nat) → Nat
  | 2 => if isLeap year then 29 else 28
  | 4 | 6 | 9 | 11 => 30
  | _ => 31

def afterDate? (cs : List Char) : Option (List Char) := do
  let (year, cs) ← readField? 4 0 9999 cs
  let (month, cs) ← readField? 2 1 12 (← after? '-' cs)
  let (_, cs) ← readField? 2 1 (daysIn year month) (← after? '-' cs)
  return cs

-- Seconds and their fraction may be left out.
def afterTime? (cs : List Char) : Option (List Char) := do
  let (_, cs) ← readField? 2 0 23 cs
  let (_, cs) ← readField? 2 0 59 (← after? ':' cs)
  match cs with
  | ':' :: cs =>
    let (_, cs) ← readField? 2 0 60 cs
    match cs with
    | '.' :: cs => if cs.head?.any isDigit then return cs.dropWhile isDigit else none
    | cs => return cs
  | cs => return cs

def isOffset : List Char → Bool
  | [] | ['Z'] | ['z'] => true
  | sign :: cs =>
    let rest? := do
      let (_, cs) ← readField? 2 0 23 cs
      let (_, cs) ← readField? 2 0 59 (← after? ':' cs)
      return cs
    (sign == '+' || sign == '-') && rest?.any List.isEmpty

-- Only a date and a time together have an offset.
def isDateTime (cs : List Char) : Bool :=
  match afterDate? cs with
  | some [] => true
  | some (c :: cs) => (c == 'T' || c == 't' || c == ' ') && (afterTime? cs).any isOffset
  | none => (afterTime? cs).any List.isEmpty

end WideTable.Toml
