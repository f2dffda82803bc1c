import WideTable.Regex.Symbol

namespace WideTable.Pattern

-- The depth counts the levels that the text of the set is nested.
structure ClassSet where
  codes : Text.CodeSet
  depth : Nat := 0

namespace ClassSet

inductive Operator
  | intersection
  | difference
  | symmetricDifference
  deriving DecidableEq, Repr

def Operator.apply : Operator → Bool → Bool → Bool
  | intersection, a, b => a && b
  | difference, a, b => a && !b
  | symmetricDifference, a, b => a != b

def combine (op : Operator) (a b : ClassSet) : ClassSet where
  codes := .combine op.apply a.codes b.codes
  depth := max a.depth b.depth + 1

-- Listing two members or more counts as a level.
def union : List ClassSet → ClassSet
  | [s] => s
  | [] => { codes := ∅ }
  | ss => { codes := .unions (ss.map codes), depth := (ss.map depth).foldl max 0 + 1 }

def bracket (f : Flags) (negated : Bool) (s : ClassSet) : ClassSet where
  codes := f.flip negated s.codes
  depth := s.depth + 1

end ClassSet

def asciiClass? (name : List Char) : Option Text.CodeSet :=
  let within (ranges : List (Nat × Nat)) : Option Text.CodeSet :=
    some (.ofRanges ranges)
  let digit := (0x30, 0x39)
  let upper := (0x41, 0x5a)
  let lower := (0x61, 0x7a)
  match String.ofList name with
  | "alnum" => within [digit, upper, lower]
  | "alpha" => within [upper, lower]
  | "ascii" => within [(0, 0x7f)]
  | "blank" => within [(0x09, 0x09), (0x20, 0x20)]
  | "cntrl" => within [(0, 0x1f), (0x7f, 0x7f)]
  | "digit" => within [digit]
  | "graph" => within [(0x21, 0x7e)]
  | "lower" => within [lower]
  | "print" => within [(0x20, 0x7e)]
  | "punct" => within [(0x21, 0x2f), (0x3a, 0x40), (0x5b, 0x60), (0x7b, 0x7e)]
  | "space" => within [(0x09, 0x0d), (0x20, 0x20)]
  | "upper" => within [upper]
  | "word" => within [digit, upper, lower, (0x5f, 0x5f)]
  | "xdigit" => within [digit, (0x41, 0x46), (0x61, 0x66)]
  | _ => none

-- A class that is being read: the operator that waits for its right side, and the members so far.
structure ClassFrame where
  negated : Bool
  pending : Option (ClassSet.Operator × ClassSet) := none
  -- The last member first.
  members : List ClassSet := []

namespace ClassFrame

def add (frame : ClassFrame) (s : ClassSet) : ClassFrame :=
  { frame with members := s :: frame.members }

def value (frame : ClassFrame) : ClassSet :=
  let right := ClassSet.union frame.members.reverse
  match frame.pending with
  | some (op, left) => ClassSet.combine op left right
  | none => right

def operator (frame : ClassFrame) (op : ClassSet.Operator) : ClassFrame :=
  { frame with pending := some (op, frame.value), members := [] }

def close (f : Flags) (frame : ClassFrame) : ClassSet :=
  frame.value.bracket f frame.negated

end ClassFrame

-- Reads what may follow `[`: a `^`, then members `-`, or a `]` as the first member.
def openClass? (f : Flags) (cs : List Char) : Option (ClassFrame × List Char) :=
  let cs := skip f.spaced cs
  let (negated, cs) :=
    match cs with
    | '^' :: cs => (true, skip f.spaced cs)
    | _ => (false, cs)
  match collect f.spaced (· == '-') cs with
  | (_, []) => none
  | ([], ']' :: cs) =>
    match skip f.spaced cs with
    | [] => none
    | cs => some ({ negated, members := [{ codes := .single 0x5d }] }, cs)
  | (dashes, cs) => some ({ negated, members := dashes.map fun _ => { codes := .single 0x2d } }, cs)

def readAsciiClass? (f : Flags) : List Char → Option (ClassSet × List Char)
  | ':' :: cs =>
    let (negated, cs) :=
      match cs with
      | '^' :: cs => (true, cs)
      | _ => (false, cs)
    match cs.span (· != ':') with
    | (name, ':' :: ']' :: rest) => do
      return ({ codes := f.flip negated (f.spread (← asciiClass? name)) }, rest)
    | _ => none
  | _ => none

def readMember? (f : Flags) : List Char → Option (Symbol × List Char)
  | [] => none
  | '\\' :: cs => Symbol.readEscape? f.spaced cs
  | c :: cs => some (.literal c false, cs)

def range? (f : Flags) : Symbol → Symbol → Option ClassSet
  | .literal a aPair, .literal b bPair => do
    let low ← Symbol.literalCode? f a aPair
    let high ← Symbol.literalCode? f b bPair
    if a ≤ b then some { codes := f.spread (.range low high) } else none
  | _, _ => none

-- A `-` before `]` or before another `-` makes no range.
def readRange? (f : Flags) (cs : List Char) : Option (ClassSet × List Char) := do
  let (a, cs) ← readMember? f cs
  let single : Option ClassSet := (a.codes? f).map fun codes => { codes := f.spread codes }
  match skip f.spaced cs with
  | [] => none
  | '-' :: rest =>
    if peek? f.spaced rest = some ']' ∨ peek? f.spaced rest = some '-' then
      return (← single, '-' :: rest)
    else
      let (b, rest) ← readMember? f (skip f.spaced rest)
      return (← range? f a b, rest)
  | cs => return (← single, cs)

def readClassBody? (f : Flags) :
    (fuel : Nat) → ClassFrame → (outer : List ClassFrame) → List Char → Option (ClassSet × List Char)
  | 0, _, _, _ => none
  | fuel + 1, frame, outer, cs =>
    match skip f.spaced cs with
    | [] => none
    | '[' :: cs =>
      match readAsciiClass? f cs with
      | some (s, rest) => readClassBody? f fuel (frame.add s) outer rest
      | none => do
        let (inner, rest) ← openClass? f cs
        readClassBody? f fuel inner (frame :: outer) rest
    | ']' :: cs =>
      match outer with
      | [] => some (frame.close f, cs)
      | up :: outer => readClassBody? f fuel (up.add (frame.close f)) outer cs
    | '&' :: '&' :: cs => readClassBody? f fuel (frame.operator .intersection) outer cs
    | '-' :: '-' :: cs => readClassBody? f fuel (frame.operator .difference) outer cs
    | '~' :: '~' :: cs => readClassBody? f fuel (frame.operator .symmetricDifference) outer cs
    | cs => do
      let (s, rest) ← readRange? f cs
      readClassBody? f fuel (frame.add s) outer rest

-- Case is spread over each member as it is read. That is the same as spreading it over the class: what is
-- made of sets that are closed under a change of case is closed itself.
def readClass? (f : Flags) (cs : List Char) : Option (ClassSet × List Char) := do
  let (frame, rest) ← openClass? f cs
  -- Every round takes a character.
  readClassBody? f (rest.length + 1) frame [] rest

end WideTable.Pattern
