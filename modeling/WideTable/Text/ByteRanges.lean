import WideTable.Text.CodeSet

namespace WideTable

-- Any choice of a byte from each range of a sequence is the form of a character of the set.
abbrev ByteRanges := List (Nat × Nat)

namespace ByteRanges

-- Sequences for the numbers from `low` to `high`, written with `count` bytes after a first one.
def continuations : (count low high : Nat) → List ByteRanges
  | 0, _, _ => [[]]
  | count + 1, low, high =>
    let unit := 1 <<< (6 * count)
    let (a, b) := (low / unit, high / unit)
    let part (digit low high : Nat) : List ByteRanges :=
      (continuations count low high).map ((0x80 + digit, 0x80 + digit) :: ·)
    if a = b then part a (low % unit) (high % unit)
    else
      let whole := (high + 1) % unit = 0
      let first := if low % unit = 0 then [] else part a (low % unit) (unit - 1)
      let last := if whole then [] else part b 0 (high % unit)
      let a := if low % unit = 0 then a else a + 1
      let stop := if whole then b + 1 else b
      let middle : List ByteRanges :=
        if a < stop then
          [(0x80 + a, 0x80 + (stop - 1)) :: List.replicate count (0x80, 0xbf)]
        else []
      first ++ middle ++ last

-- The form of characters with so many bytes after the first, which adds `mark` to its digits.
structure Width where
  count : Nat
  mark  : Nat
  low   : Nat
  high  : Nat

def widths : List Width :=
  [⟨0, 0, 0, 0x7f⟩, ⟨1, 0xc0, 0x80, 0x7ff⟩, ⟨2, 0xe0, 0x800, 0xffff⟩, ⟨3, 0xf0, 0x10000, 0x10ffff⟩]

def ofSet (set : Text.CodeSet) : List ByteRanges :=
  set.ranges.flatMap fun (a, b) => widths.flatMap fun w => within w (max a w.low) (min b w.high)
where
  within (w : Width) (low high : Nat) : List ByteRanges :=
    if high < low then []
    else if w.count = 0 then [[(low, high)]]
    else
      (continuations (w.count + 1) low high).map fun
        | (a, b) :: rest => (a - 0x80 + w.mark, b - 0x80 + w.mark) :: rest
        | [] => []

def byHead : List ByteRanges → List ((Nat × Nat) × List ByteRanges)
  | [] => []
  | [] :: rest => byHead rest
  | (head :: tail) :: rest =>
    match byHead rest with
    | (next, tails) :: more =>
      if next = head then (head, tail :: tails) :: more else (head, [tail]) :: (next, tails) :: more
    | [] => [(head, [tail])]

end ByteRanges

end WideTable
