namespace WideTable.Toml

-- A table may be written in several parts. What has been said of it so far decides what may be added.
inductive Origin
  -- It has a header of its own, is an element of an array of tables, or is the document.
  | header
  -- It is part of the header of another table.
  | outer
  -- It is part of a dotted key.
  | dotted
  -- It is a value between braces.
  | braces
  deriving DecidableEq, Repr

inductive Value
  | string (s : String)
  | integer (n : Int)
  | float (x : Float)
  -- A number that is written as one but has no value: its digits are no digits, or it is too large.
  | valueless
  | boolean (b : Bool)
  -- A date, a time, or both.
  | dateTime
  | array (items : List Value)
  | table (origin : Origin) (entries : List (String × Value))
  -- An array that is written as tables with the same header, the last one first.
  | tables (items : List (List (String × Value)))
  deriving Inhabited, Repr

-- The entries of a table in the order in which their keys were first seen.
abbrev Table := List (String × Value)

structure Path where
  outer : List String
  name  : String
  deriving DecidableEq, Repr

structure Assignment where
  path  : Path
  value : Value

namespace Origin

-- Braces close a table for good. A dotted key goes through no table with its own header.
def admits : Origin → (via : Origin) → Bool
  | braces, _ => false
  | header, via => via != dotted
  | outer, _ => true
  | dotted, _ => true

end Origin

namespace Table

def find? (t : Table) (name : String) : Option Value :=
  t.lookup name

def put (name : String) (v : Value) : Table → Table
  | [] => [(name, v)]
  | (other, w) :: t => if other = name then (name, v) :: t else (other, w) :: put name v t

-- Changes the table at the end of a way. Tables that are missing on the way are added. An array of tables
-- stands for its last element.
def change (via : Origin) (f : Origin → Table → Option Table) :
    List String → Origin → Table → Option Table
  | [], origin, t => f origin t
  | name :: names, _, t =>
    match t.find? name with
    | none => do
      return t.put name (.table via (← change via f names via []))
    | some (.table origin inner) =>
      if origin.admits via then do
        return t.put name (.table origin (← change via f names origin inner))
      else none
    | some (.tables (last :: others)) => do
      return t.put name (.tables ((← change via f names .header last) :: others))
    | some _ => none

-- Adds a value. Its name is new in its table, and a dotted key ends in a table that has been made by
-- dotted keys only.
def assign (t : Table) (a : Assignment) : Option Table :=
  let dotted := !a.path.outer.isEmpty
  let add (origin : Origin) (t : Table) : Option Table :=
    if (origin == .dotted) == dotted && (t.find? a.path.name).isNone then
      some (t.put a.path.name a.value)
    else none
  t.change .dotted add a.path.outer .header

def assignAll (t : Table) (as : List Assignment) : Option Table :=
  as.foldlM assign t

end Table
end WideTable.Toml
