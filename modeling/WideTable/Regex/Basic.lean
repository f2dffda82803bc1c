import WideTable.Text.Utf8
import WideTable.Text.Word

namespace WideTable

-- The half forms look at one side only.
inductive WordEdge
  | boundary
  | inside
  | start
  | stop
  | startHalf
  | stopHalf
  deriving DecidableEq, Repr

inductive Look
  | textStart
  | textStop
  -- With `crlf`, a line ends with CR, LF or CR LF, and otherwise with LF.
  | lineStart (crlf : Bool)
  | lineStop (crlf : Bool)
  | wordEdge (unicode : Bool) (edge : WordEdge)
  deriving DecidableEq, Repr

namespace Look

def cr : UInt8 := 0x0d

def lf : UInt8 := 0x0a

def asciiEdge (edge : WordEdge) (before after : Bytes) : Bool :=
  let left := before.head?.any Text.isAsciiWord
  let right := after.head?.any Text.isAsciiWord
  match edge with
  | .boundary => left != right
  | .inside => left == right
  | .start => !left && right
  | .stop => left && !right
  | .startHalf => !left
  | .stopHalf => !right

-- Beside bytes that are no character there is no word, yet no place there is inside of one or without a
-- word on that side.
def unicodeEdge (edge : WordEdge) (before after : Bytes) : Bool :=
  let last := Utf8.last? before
  let next := (Utf8.first? after).map (·.1)
  let left := last.any Text.isWordChar
  let right := next.any Text.isWordChar
  let leftSound := before.isEmpty || last.isSome
  let rightSound := after.isEmpty || next.isSome
  match edge with
  | .boundary => left != right
  | .inside => leftSound && rightSound && left == right
  | .start => !left && right
  | .stop => left && !right
  | .startHalf => leftSound && !left
  | .stopHalf => rightSound && !right

-- What lies `before` is read from right to left.
def holds (look : Look) (before after : Bytes) : Bool :=
  match look with
  | textStart => before.isEmpty
  | textStop => after.isEmpty
  | lineStart false => before.isEmpty || before.head? == some lf
  | lineStart true =>
    before.isEmpty || before.head? == some lf || (before.head? == some cr && after.head? != some lf)
  | lineStop false => after.isEmpty || after.head? == some lf
  | lineStop true =>
    after.isEmpty || after.head? == some cr || (after.head? == some lf && before.head? != some cr)
  | wordEdge false edge => asciiEdge edge before after
  | wordEdge true edge => unicodeEdge edge before after

end Look

inductive Atom
  | look (look : Look)
  | byte (set : Text.CodeSet)
  | char (set : Text.CodeSet)

def Atom.width? (a : Atom) (before after : Bytes) : Option Nat :=
  match a with
  | look l => if l.holds before after then some 0 else none
  | byte set => if after.head?.any (set.contains ·.toNat) then some 1 else none
  | char set => (Utf8.first? after).bind fun (c, n) => if set.contains c.toNat then some n else none

inductive Regex
  | empty
  | atom (a : Atom)
  | seq (r s : Regex)
  | alt (r s : Regex)
  | rep (r : Regex) (least : Nat) (most : Option Nat) (lazy : Bool)
  -- A part of the match that is reported by its number.
  | group (number : Nat) (r : Regex)

namespace Regex

def never : Regex :=
  atom (.byte ∅)

def sequence (rs : List Regex) : Regex :=
  rs.foldr seq empty

def oneOf (rs : List Regex) : Regex :=
  rs.foldr alt never

def bytes (bs : Bytes) : Regex :=
  sequence (bs.map fun b => atom (.byte (.single b.toNat)))

def Steps (R : Nat → Nat → Prop) : (n i j : Nat) → Prop
  | 0, i, j => i = j
  | n + 1, i, j => ∃ k, R i k ∧ Steps R n k j

-- Nothing here depends on which of several matches a search would prefer, so it does not matter whether a
-- repetition is lazy, nor what a group is for.
def Spans (w : Bytes) : Regex → (i j : Nat) → Prop
  | empty, i, j => i = j
  | atom a, i, j => ∃ n, a.width? (w.take i).reverse (w.drop i) = some n ∧ j = i + n
  | seq r s, i, j => ∃ k, Spans w r i k ∧ Spans w s k j
  | alt r s, i, j => Spans w r i j ∨ Spans w s i j
  | rep r least most _, i, j =>
    ∃ n, least ≤ n ∧ (∀ m ∈ most, n ≤ m) ∧ Steps (Spans w r) n i j
  | group _ r, i, j => Spans w r i j

def Occurs (w : Bytes) (r : Regex) : Prop :=
  ∃ i j, i ≤ w.length ∧ Spans w r i j

end Regex
end WideTable
