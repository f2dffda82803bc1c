import Std.Data.HashMap
import WideTable.Regex.Form
import WideTable.Text.ByteRanges

namespace WideTable

inductive Direction
  | forward
  | backward
  deriving DecidableEq, Repr

-- States are numbered in the order in which they are made. A state takes a fixed number of bytes, to
-- which one with several ways on adds some for each way. The size depends on the numbers themselves only
-- where classes of characters share states.
structure Footprint where
  states : Nat := 0
  bytes  : Nat := 0
  deriving DecidableEq, Repr

namespace Footprint

instance : Add Footprint :=
  ⟨fun a b => ⟨a.states + b.states, a.bytes + b.bytes⟩⟩

def times (n : Nat) (a : Footprint) : Footprint :=
  ⟨n * a.states, n * a.bytes⟩

def total (parts : List Footprint) : Footprint :=
  parts.foldl (· + ·) {}

def state : Footprint :=
  ⟨1, 32⟩

-- A state that goes on without reading a byte, in one of `n` ways.
def fork (n : Nat) : Footprint :=
  ⟨1, 32 + 4 * n⟩

def ranges (n : Nat) : Footprint :=
  ⟨1, 32 + 8 * n⟩

def byteClass (set : Text.CodeSet) : Footprint :=
  ranges set.ranges.length + state

end Footprint

-- States that a class shares between its sequences. Each key that tells what a state does has one of a
-- fixed number of slots, which holds the state that was last made there.
structure Sharing where
  size  : Footprint
  slots : Std.HashMap Nat (List Nat × Nat) := {}

namespace Sharing

def mix (key : List Nat) : UInt64 :=
  key.foldl (fun h n => (h ^^^ n.toUInt64) * 1099511628211) 14695981039346656037

-- The state for the key: the one in its slot if that was made for the key, or else a new one.
def find (count : Nat) (key : List Nat) (cost : Footprint) (s : Sharing) : Nat × Sharing :=
  let slot := (mix key).toNat % count
  match s.slots[slot]? with
  | some (held, number) => if held = key then (number, s) else make slot
  | none => make slot
where
  make (slot : Nat) : Nat × Sharing :=
    let number := s.size.states
    (number, { size := s.size + cost, slots := s.slots.insert slot (key, number) })

-- Makes a state for each range of a sequence; the first one leads to the last state of all.
def chain (last : Nat) (ranges : ByteRanges) (s : Sharing) : Sharing :=
  (ranges.foldl (fun (next, s) (a, b) => s.find 1000 [next, a, b] Footprint.state) (last, s)).2

-- The first state is made after all that follows it.
def point (last : Nat) : (depth : Nat) → List ByteRanges → Sharing → Nat × Sharing
  | 0, _, s => (last, s)
  | depth + 1, seqs, s =>
    let step (made : List Nat × Sharing) (next : (Nat × Nat) × List ByteRanges) :
        List Nat × Sharing :=
      let (number, s) :=
        if next.2 = [[]] then (last, made.2) else point last depth next.2 made.2
      (made.1 ++ [next.1.1, next.1.2, number], s)
    let (key, s) := (ByteRanges.byHead seqs).foldl step ([], s)
    s.find 10000 key (Footprint.ranges (key.length / 3))

end Sharing

namespace Footprint

def addChars (d : Direction) (set : Text.CodeSet) (s : Footprint) : Footprint :=
  if Form.isAscii set then s + byteClass set
  else
    let seqs := ByteRanges.ofSet set
    match d with
    | .forward => (Sharing.point s.states 4 seqs { size := s + state }).2.size
    | .backward =>
      let start : Sharing := { size := s + fork seqs.length + state }
      (seqs.foldl (fun made ranges => made.chain (s.states + 1) ranges) start).size

def byFirst (literals : List Bytes) : List (List Bytes) :=
  (literals.filterMap List.head?).eraseDups.map fun b =>
    (literals.filter (·.head? = some b)).map List.tail

-- A literal that ends at a point of the tree parts those before it from those after it, which share no
-- states. Those that end before any goes on count once.
def literalTree : (depth : Nat) → List Bytes → Footprint
  | 0, _ => {}
  | depth + 1, literals =>
    let rest := literals.dropWhile List.isEmpty
    let ends := (if rest.length < literals.length then 1 else 0) + rest.countP List.isEmpty
    let parts := ((rest.splitOnP List.isEmpty).filter (!·.isEmpty)).map byFirst
    let steps (n : Nat) : Footprint := if n = 1 then state else ranges n
    fork (parts.length + ends) + total (parts.map fun nexts => steps nexts.length) +
      total (parts.flatten.map fun next =>
        if next.all List.isEmpty then {} else literalTree depth next)

def literalChoice (d : Direction) (literals : List Bytes) : Footprint :=
  let literals := match d with | .forward => literals | .backward => literals.map List.reverse
  state + literalTree ((literals.map List.length).foldl max 0 + 1) literals

def literal? : Form → Option Bytes
  | .literal bs => some bs
  | _ => none

def maxBytes : Nat :=
  10 <<< 20

-- Where a group starts or ends is noted forward only.
def note : Direction → Footprint
  | .forward => state
  | .backward => {}

mutual

-- Whether the form always takes the same, wherever it stands.
def isSteady : Form → Bool
  | .chars set => Form.isAscii set
  | .rep f _ _ _ => isSteady f
  | .group _ f => isSteady f
  | .row fs => allSteady fs
  | .choice fs => allSteady fs
  | _ => true

def allSteady : List Form → Bool
  | [] => true
  | f :: fs => isSteady f && allSteady fs

end

-- Adds `n` copies, and stops where the size is too large already.
def copies (add : Footprint → Footprint) (steady : Bool) (n : Nat) (s : Footprint) : Footprint :=
  if steady then s + times n (add {}) else go n s
where
  go : Nat → Footprint → Footprint
    | 0, s => s
    | n + 1, s => if maxBytes < s.bytes then s else go n (add s)

-- What is repeated without end has a last copy more than it must have if it may take no byte.
def repeated (add : Footprint → Footprint) (steady takesBytes : Bool) (s : Footprint) :
    (least : Nat) → (most : Option Nat) → Footprint
  | 0, none =>
    if takesBytes then add (s + fork 2) else add s + fork 2 + fork 2 + state
  | 0, some 1 => add (s + fork 2) + state
  | least, none => copies add steady least s + fork 2
  | least, some most =>
    let start := if least = 0 then s + state else copies add steady least s
    if least = most then start
    else copies (fun s => add (s + fork 2)) steady (most - least) (start + state)

mutual

-- Adds the states of the form, with those that are read first before the others.
def add (d : Direction) : Form → Footprint → Footprint
  | .empty, s | .look _, s => s + state
  | .literal bs, s => s + times bs.length state
  | .bytes set, s => s + byteClass set
  | .chars set, s => addChars d set s
  | .rep f least most _, s =>
    repeated (add d f) (isSteady f) (f.least?.any (0 < ·)) s least most
  | .group _ f, s => add d f (s + note d) + note d
  | .row fs, s => addRow d fs s
  | .choice fs, s =>
    match fs.mapM literal? with
    | some literals => s + literalChoice d literals
    | none => addBranches d fs.length 0 fs s

def addRow (d : Direction) : List Form → Footprint → Footprint
  | [], s => s
  | f :: fs, s =>
    match d with
    | .forward => addRow d fs (add d f s)
    | .backward => add d f (addRow d fs s)

-- The two states where branches part and meet are made after the second branch.
def addBranches (d : Direction) (count : Nat) (before : Nat) : List Form → Footprint → Footprint
  | [], s => s
  | f :: fs, s =>
    let s := add d f s
    addBranches d count (before + 1) fs (if before = 1 then s + fork count + state else s)

end

-- Whether a match can start, in the reading direction, only where the word does.
def isAnchored (f : Form) : Direction → Bool
  | .forward => f.opensWith .textStart
  | .backward => f.closesWith .textStop

-- Before the regex comes a loop over all bytes if it is not anchored, and after it a last state.
def ofRegex (d : Direction) (r : Regex) : Footprint :=
  let f := Form.ofRegex r
  let start := if isAnchored f d then state else fork 2 + byteClass Text.octets
  add d (.group 0 f) start + state

end Footprint

def Regex.fits (r : Regex) : Bool :=
  [Direction.forward, .backward].all fun d => (Footprint.ofRegex d r).bytes ≤ Footprint.maxBytes

end WideTable
