import WideTable.Read.Projection
import WideTable.Range

namespace WideTable

inductive Call
  -- Selecting rows.
  | addKeys (keys : List RowKey)
  | addKeyRange (start stop : Option RowKey)
  | addRowRange (spec : RangeSpec)
  | limitRows (n : Nat)
  | keyRegex (pattern : String)
  -- Narrowing to families.
  | family (name : String)
  | families
  | familyRegex (pattern : String)
  | familiesNamed (names : List String)
  -- Narrowing to columns.
  | column (qualifier : Qualifier)
  | columns
  | columnRegex (pattern : String)
  | columnsNamed (qualifiers : List Qualifier)
  | qualifierEdge (edge : Edge) (qualifier : Qualifier)
  | qualifierRange (spec : RangeSpec)
  -- Narrowing to cells. Zero is no limit.
  | latestCell
  | cells
  | limitCells (n : UInt32)
  | timestampRange (start stop : Option Int64)
  | startTimestamp (start : Int64)
  | endTimestamp (stop : Int64)
  | valueRegex (pattern : String)
  | valueRange (spec : RangeSpec)
  -- Dropping one level of lists.
  | flatten
  deriving DecidableEq, Repr

namespace Call

inductive Kind
  | selectRows
  | oneFamily
  | manyFamilies
  | oneColumn
  | manyColumns
  | boundColumns
  | latestCell
  | allCells
  | filterCells
  | flatten
  deriving DecidableEq, Repr

def kind : Call → Kind
  | addKeys _ | addKeyRange .. | addRowRange _ | limitRows _ | keyRegex _ => .selectRows
  | family _ => .oneFamily
  | families | familyRegex _ | familiesNamed _ => .manyFamilies
  | column _ => .oneColumn
  | columns | columnRegex _ | columnsNamed _ => .manyColumns
  | qualifierEdge .. | qualifierRange _ => .boundColumns
  | latestCell => .latestCell
  | cells => .allCells
  | limitCells _ | timestampRange .. | startTimestamp _ | endTimestamp _ => .filterCells
  | valueRegex _ | valueRange _ => .filterCells
  | flatten => .flatten

end Call

namespace State

def nextOfKind? : State → Call.Kind → Option State
  | s, .flatten => if s.shape.isNested then some (flatten s) else none
  | rows .many, .selectRows => some (rows .many)
  | rows c, .oneFamily => some (narrow .family .one (rows c))
  | rows c, .manyFamilies => some (narrow .family .many (rows c))
  | narrow .family .one p, .oneColumn => some (narrow .column .one (narrow .family .one p))
  | narrow .family c p, .manyColumns => some (narrow .column .many (narrow .family c p))
  | narrow .column .many p, .boundColumns => some (narrow .column .many p)
  | narrow .column c p, .latestCell => some (narrow .cell .one (narrow .column c p))
  | narrow .column c p, .allCells => some (narrow .cell .many (narrow .column c p))
  | narrow .cell .many p, .filterCells => some (narrow .cell .many p)
  | _, _ => none

def next? (s : State) (c : Call) : Option State :=
  s.nextOfKind? c.kind

end State
end WideTable
