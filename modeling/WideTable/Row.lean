import WideTable.Text.Quoted

namespace WideTable

structure Cell where
  timestamp : Int64
  value     : Bytes
  labels    : List String := []
  deriving DecidableEq, Repr

structure Column where
  qualifier : Qualifier
  cells     : List Cell
  deriving DecidableEq, Repr

structure Family where
  name    : String
  columns : List Column
  deriving DecidableEq, Repr

structure Row where
  key      : RowKey
  families : List Family
  deriving DecidableEq, Repr

-- A key that is no text is shown by its bytes.
def RowKey.describe (key : RowKey) : String :=
  "RowKey(" ++ (match Bytes.text? key with
    | some s => Text.quote s
    | none => Text.quoteBytes key) ++ ")"

-- Cells come latest first.
def Column.latest (c : Column) : Option Cell :=
  c.cells.head?

namespace Family

def column (f : Family) (q : Qualifier) : Option Column :=
  f.columns.find? (·.qualifier = q)

def cells (f : Family) : List Cell :=
  f.columns.flatMap (·.cells)

end Family

namespace Row

def family (r : Row) (name : String) : Option Family :=
  r.families.find? (·.name = name)

def cells (r : Row) : List Cell :=
  r.families.flatMap (·.cells)

def cellCount (r : Row) : Nat :=
  r.cells.length

end Row
end WideTable
