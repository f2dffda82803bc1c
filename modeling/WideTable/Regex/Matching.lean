import WideTable.Regex.Basic

namespace WideTable

-- The places of a word: what lies before each position, from right to left, and what after it.
structure Places where
  size   : Nat
  around : Array (Bytes × Bytes)

namespace Places

def splits : (before after : Bytes) → List (Bytes × Bytes)
  | before, [] => [(before, [])]
  | before, b :: after => (before, b :: after) :: splits (b :: before) after

def ofWord (w : Bytes) : Places where
  size := w.length + 1
  around := (splits [] w).toArray

def advance? (p : Places) (a : Atom) (i : Nat) : Option Nat := do
  let (before, after) ← p.around[i]?
  return i + (← a.width? before after)

end Places

namespace Positions

def ofList (is : List Nat) : Nat :=
  is.foldl (fun s i => s ||| 1 <<< i) 0

-- The positions in `s`, the last one first. They are less than `size`.
def toList : (size s : Nat) → List Nat
  | 0, _ => []
  | size + 1, s =>
    if s = 0 then []
    else s.log2 :: toList size (s - 1 <<< s.log2)

-- Follows `f` again and again from `fresh`, and adds what is reached to `seen`.
def grow (f : Nat → Nat) : (rounds seen fresh : Nat) → Nat
  | 0, seen, _ => seen
  | rounds + 1, seen, fresh =>
    if fresh = 0 then seen
    else
      let reached := seen ||| f fresh
      grow f rounds reached (reached ^^^ seen)

-- A set that `f` does not change stays as it is from then on.
def follow (f : Nat → Nat) : (times s : Nat) → Nat
  | 0, s => s
  | times + 1, s => if f s = s then s else follow f times (f s)

end Positions

namespace Regex

-- The search keeps the set of all positions that can be reached, as the bits of a number. So its work is
-- bounded by the sizes of the regex and the word, whatever the regex repeats.
def run (p : Places) (r : Regex) (s : Nat) : Nat :=
  if s = 0 then 0
  else match r with
  | empty => s
  | atom a => Positions.ofList ((Positions.toList p.size s).filterMap (p.advance? a))
  | seq r t => t.run p (r.run p s)
  | alt r t => r.run p s ||| t.run p s
  | rep r least most _ =>
    let start := Positions.follow (r.run p) least s
    -- Each round adds a position, so the number that stands for the set grows.
    let rounds := most.elim (1 <<< p.size) (· - least)
    Positions.grow (r.run p) rounds start start
  | group _ r => r.run p s

def occursIn (r : Regex) (w : Bytes) : Bool :=
  let p := Places.ofWord w
  r.run p (1 <<< p.size - 1) != 0

end Regex
end WideTable
