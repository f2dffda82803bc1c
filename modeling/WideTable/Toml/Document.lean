import WideTable.Store.SortedMap
import WideTable.Toml.Scalar
import WideTable.Toml.Text

namespace WideTable.Toml

def isBare (c : Char) : Bool :=
  c.isAlphanum || c == '_' || c == '-'

def readKey? (cs : List Char) : Option (String × List Char) :=
  match cs.span isBare with
  | ([], cs) => readShort? cs
  | (name, rest) => some (.ofList name, rest)

def maxDepth : Nat :=
  80

namespace Path

-- Every key takes a character.
def readKeys? : (fuel : Nat) → List Char → Option (Path × List Char)
  | 0, _ => none
  | fuel + 1, cs => do
    let (name, cs) ← readKey? cs
    match skipBlanks cs with
    | '.' :: cs =>
      let (path, cs) ← readKeys? fuel (skipBlanks cs)
      return ({ path with outer := name :: path.outer }, cs)
    | cs => return (⟨[], name⟩, cs)

def read? (cs : List Char) : Option (Path × List Char) := do
  let (path, cs) ← readKeys? (cs.length + 1) cs
  if path.outer.length < maxDepth then return (path, cs) else none

end Path

def Assignment.read? (space? : List Char → Option (List Char))
    (value? : List Char → Option (Value × List Char)) (cs : List Char) :
    Option (Assignment × List Char) := do
  let (path, cs) ← Path.read? cs
  let (value, cs) ← value? (← space? (← after? '=' (← space? cs)))
  return (⟨path, value⟩, cs)

-- One more comma is allowed at the end.
def readItems? {α : Type} (item? : List Char → Option (α × List Char)) (mark : Char) :
    (fuel : Nat) → List Char → Option (List α × List Char)
  | 0, _ => none
  | fuel + 1, cs => do
    let cs ← skip? cs
    match after? mark cs with
    | some rest => return ([], rest)
    | none =>
      let (item, cs) ← item? cs
      let cs ← skip? cs
      match after? ',' cs with
      | some rest =>
        let (items, rest) ← readItems? item? mark fuel rest
        return (item :: items, rest)
      | none => return ([item], ← after? mark cs)

namespace Value

def readFlat? (cs : List Char) : Option (Value × List Char) :=
  match cs with
  | '"' :: _ | '\'' :: _ => (readText? cs).map fun (s, rest) => (.string s, rest)
  | _ => readWord? cs

def read? : (depth : Nat) → List Char → Option (Value × List Char)
  | 0, cs => readFlat? cs
  | depth + 1, cs =>
    match cs with
    | '[' :: cs => do
      let (items, cs) ← readItems? (read? depth) ']' (cs.length + 1) cs
      return (array items, cs)
    | '\x7b' :: cs => do
      let item? := Assignment.read? skip? (read? depth)
      let (items, cs) ← readItems? item? '\x7d' (cs.length + 1) cs
      return (table .braces (← Table.assignAll [] items), cs)
    | cs => readFlat? cs

end Value

-- Reads the assignment of a line, which goes on to the end of its value without a break.
def Assignment.readLine? (cs : List Char) : Option (Assignment × List Char) :=
  read? (fun cs => some (skipBlanks cs)) (Value.read? maxDepth) cs

structure Header where
  path     : Path
  repeated : Bool
  deriving DecidableEq, Repr

def Header.read? (repeated : Bool) (cs : List Char) : Option (Header × List Char) := do
  let (path, cs) ← Path.read? (skipBlanks cs)
  let cs ← after? ']' cs
  return (⟨path, repeated⟩, ← if repeated then after? ']' cs else some cs)

inductive Line
  | header (h : Header)
  | assignment (a : Assignment)

namespace Line

def read? : List Char → Option (Line × List Char)
  | '[' :: '[' :: cs => (Header.read? true cs).map fun (h, rest) => (header h, rest)
  | '[' :: cs => (Header.read? false cs).map fun (h, rest) => (header h, rest)
  | cs => (Assignment.readLine? cs).map fun (a, rest) => (assignment a, rest)

-- Every line takes a character.
def readAll? : (fuel : Nat) → List Char → Option (List Line)
  | 0, _ => none
  | fuel + 1, cs => do
    match ← skip? cs with
    | [] => return []
    | cs =>
      let (line, cs) ← read? cs
      if closesLine cs then return line :: (← readAll? fuel cs) else none

end Line

structure Section where
  header      : Header
  assignments : List Assignment

def sections (lines : List Line) : List Assignment × List Section :=
  lines.foldr (fun line (as, ss) =>
    match line with
    | .assignment a => (a :: as, ss)
    | .header h => ([], ⟨h, as⟩ :: ss)) ([], [])

namespace Table

-- A table has one header at most, and it cannot have been made by dotted keys before.
def addSection (t : Table) (s : Section) : Option Table :=
  let name := s.header.path.name
  let add (_ : Origin) (t : Table) : Option Table :=
    match s.header.repeated, t.find? name with
    | false, none => do
      return t.put name (.table .header (← assignAll [] s.assignments))
    | false, some (.table .outer inner) => do
      return t.put name (.table .header (← assignAll inner s.assignments))
    | true, none => do
      return t.put name (.tables [← assignAll [] s.assignments])
    | true, some (.tables items) => do
      return t.put name (.tables ((← assignAll [] s.assignments) :: items))
    | _, _ => none
  t.change .outer add s.header.path.outer .header

def ofLines? (lines : List Line) : Option Table := do
  let (assignments, ss) := sections lines
  ss.foldlM addSection (← assignAll [] assignments)

end Table

abbrev Document := SortedMap String Value

namespace Document

def ofTable (t : Table) : Document :=
  t.foldl (fun d (name, v) => d.alter name fun _ => v) .empty

-- A mark of the byte order in front does not count.
def body : List Char → List Char
  | '\ufeff' :: cs => cs
  | cs => cs

def ofText? (text : String) : Option Document := do
  let cs := body text.toList
  return ofTable (← Table.ofLines? (← Line.readAll? (cs.length + 1) cs))

end Document
end WideTable.Toml
