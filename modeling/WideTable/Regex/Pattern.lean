import WideTable.Regex.Class
import WideTable.Regex.Matching

namespace WideTable.Pattern

structure Piece where
  regex : Regex
  depth : Nat := 0

inductive Grouping
  | plain
  | numbered
  | named (name : List Char)
  deriving DecidableEq, Repr

inductive Token
  | done
  | piece (p : Piece)
  -- Flags for the rest of the group.
  | flags (f : Flags)
  | opening (f : Flags) (kind : Grouping)
  | closing
  | bar
  | repetition (least : Nat) (most : Option Nat) (lazy : Bool)

namespace Token

def isNameChar (c : Char) : Bool :=
  c == '_' || c == '.' || c == '[' || c == ']' || Text.isAlphanumeric c

def readName? (f : Flags) (cs : List Char) : Option (Token × List Char) :=
  match cs.span (· != '>') with
  | (c :: name, '>' :: rest) =>
    if (c == '_' || Text.isAlphabetic c) && name.all isNameChar then
      some (opening f (.named (c :: name)), rest)
    else none
  | _ => none

-- Looking around and a `?` without flags are refused.
def readOpening? (f : Flags) (cs : List Char) : Option (Token × List Char) :=
  match skip f.spaced cs with
  | '?' :: '=' :: _ | '?' :: '!' :: _ | '?' :: '<' :: '=' :: _ | '?' :: '<' :: '!' :: _ => none
  | '?' :: 'P' :: '<' :: cs | '?' :: '<' :: cs => readName? f cs
  | '?' :: cs => do
    let setting ← f.read? cs
    if setting.opens then return (opening setting.flags .plain, setting.rest)
    else if setting.given then return (flags setting.flags, setting.rest)
    else none
  | cs => some (opening f .numbered, cs)

-- A repetition that `?` follows is lazy, or greedy where the flag `U` swaps the two.
def ofCounts (f : Flags) (least : Nat) (most : Option Nat) : List Char → Token × List Char
  | '?' :: cs => (repetition least most (!f.swapGreed), cs)
  | cs => (repetition least most f.swapGreed, cs)

def isDigit (c : Char) : Bool :=
  '0' ≤ c && c ≤ '9'

-- Blanks are allowed around a count, spaced or not.
def readCount? (f : Flags) (cs : List Char) : Option (Nat × List Char) :=
  match collect f.spaced isDigit (cs.dropWhile Text.isBlank) with
  | ([], _) => none
  | (digits, rest) =>
    let n := digits.foldl (fun n d => 10 * n + (d.toNat - '0'.toNat)) 0
    if n < UInt32.size then some (n, rest.dropWhile Text.isBlank) else none

def readRepetition? (f : Flags) (cs : List Char) : Option (Token × List Char) := do
  let (least, cs) ← readCount? f (skip f.spaced cs)
  let (most, cs) ←
    match cs with
    | ',' :: cs =>
      match skip f.spaced cs with
      | '\x7d' :: cs => some (none, '\x7d' :: cs)
      | cs => do
        let (most, cs) ← readCount? f cs
        some (some most, cs)
    | cs => some (some least, cs)
  match cs with
  | '\x7d' :: rest =>
    if most.all (least ≤ ·) then
      return ofCounts f least most (skip f.spaced rest)
    else none
  | _ => none

def ofSymbol? (f : Flags) (symbol : Symbol) : Option Token :=
  (symbol.regex? f).map fun regex => piece { regex }

def read? (f : Flags) (cs : List Char) : Option (Token × List Char) :=
  match skip f.spaced cs with
  | [] => some (done, [])
  | '(' :: cs => readOpening? f cs
  | ')' :: cs => some (closing, cs)
  | '|' :: cs => some (bar, cs)
  | '[' :: cs => do
    let (s, rest) ← readClass? f cs
    return (piece { regex := f.atomOf s.codes, depth := s.depth }, rest)
  | '?' :: cs => some (ofCounts f 0 (some 1) cs)
  | '*' :: cs => some (ofCounts f 0 none cs)
  | '+' :: cs => some (ofCounts f 1 none cs)
  | '\x7b' :: cs => readRepetition? f cs
  | '\\' :: cs => do
    let (symbol, rest) ← Symbol.readEscape? f.spaced cs
    return (← ofSymbol? f symbol, rest)
  | '.' :: cs => do return (← ofSymbol? f .any, cs)
  | '^' :: cs => do return (← ofSymbol? f .lineStart, cs)
  | '$' :: cs => do return (← ofSymbol? f .lineStop, cs)
  | c :: cs => do return (← ofSymbol? f (.literal c false), cs)

end Token

namespace Piece

-- Putting two pieces or more together counts as a level.
def jointDepth : List Piece → Nat
  | [] => 0
  | [p] => p.depth
  | ps => (ps.map depth).foldl max 0 + 1

def sequence (ps : List Piece) : Piece where
  regex := .sequence (ps.map regex)
  depth := jointDepth ps

def oneOf (ps : List Piece) : Piece where
  regex := .oneOf (ps.map regex)
  depth := jointDepth ps

def group (number : Option Nat) (p : Piece) : Piece where
  regex := number.elim p.regex (.group · p.regex)
  depth := p.depth + 1

def repeated (p : Piece) (least : Nat) (most : Option Nat) (lazy : Bool) : Piece where
  regex := .rep p.regex least most lazy
  depth := p.depth + 1

end Piece

-- What has been read comes the last first.
structure Level where
  branches : List Piece := []
  -- Nothing stands for flags, which cannot be repeated.
  items : List (Option Piece) := []

namespace Level

def add (l : Level) (item : Option Piece) : Level :=
  { l with items := item :: l.items }

def branch (l : Level) : Piece :=
  .sequence (l.items.reverse.map (·.getD { regex := .empty }))

def nextBranch (l : Level) : Level where
  branches := l.branch :: l.branches

def value (l : Level) : Piece :=
  .oneOf (l.branch :: l.branches).reverse

-- Repeats the last item, which has to be there and to be more than flags.
def repeat? (l : Level) (least : Nat) (most : Option Nat) (lazy : Bool) : Option Level :=
  match l.items with
  | some p :: items => some { l with items := some (p.repeated least most lazy) :: items }
  | _ => none

end Level

structure Enclosing where
  level  : Level
  flags  : Flags
  number : Option Nat

-- Reading keeps, for every group that is still open, the branches and items read so far, and the flags
-- that hold again once the group is closed.
structure Reader where
  flags : Flags
  level : Level := {}
  -- The groups around, the innermost first.
  outer : List Enclosing := []
  names : List (List Char) := []
  -- How many groups have got a number.
  numbered : Nat := 0

namespace Reader

-- No two groups have one name.
def open? (r : Reader) (f : Flags) (kind : Grouping) : Option Reader :=
  let inner (number : Option Nat) : Reader :=
    { r with flags := f, level := {}, outer := ⟨r.level, r.flags, number⟩ :: r.outer }
  let next := r.numbered + 1
  match kind with
  | .plain => some (inner none)
  | .numbered => some { inner (some next) with numbered := next }
  | .named name =>
    if name ∈ r.names then none
    else some { inner (some next) with numbered := next, names := name :: r.names }

def take? (r : Reader) : Token → Option Reader
  | .done => none
  | .piece p => some { r with level := r.level.add (some p) }
  | .flags f => some { r with flags := f, level := r.level.add none }
  | .bar => some { r with level := r.level.nextBranch }
  | .repetition least most lazy => do
    return { r with level := ← r.level.repeat? least most lazy }
  | .opening f kind => r.open? f kind
  | .closing =>
    match r.outer with
    | up :: outer =>
      let group := r.level.value.group up.number
      some { r with flags := up.flags, outer, level := up.level.add (some group) }
    | [] => none

def finish? (r : Reader) : Option Piece :=
  if r.outer.isEmpty then some r.level.value else none

-- Every round takes a character.
def read? : (fuel : Nat) → Reader → List Char → Option Piece
  | 0, _, _ => none
  | fuel + 1, r, cs => do
    match ← Token.read? r.flags cs with
    | (.done, _) => r.finish?
    | (token, rest) => read? fuel (← r.take? token) rest

end Reader

def maxDepth : Nat :=
  250

def piece? (f : Flags) (cs : List Char) : Option Piece :=
  Reader.read? (cs.length + 1) { flags := f } cs

def regex? (f : Flags) (cs : List Char) : Option Regex := do
  let piece ← piece? f cs
  if piece.depth ≤ maxDepth then some piece.regex else none

def whole (pattern : List Char) : List Char :=
  "(?s-u)^(?:".toList ++ pattern ++ ")$".toList

def wholeRegex? (pattern : String) : Option Regex :=
  regex? {} (whole pattern.toList)

end WideTable.Pattern
