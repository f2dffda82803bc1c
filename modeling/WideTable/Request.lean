import WideTable.Filter
import WideTable.Selector

namespace WideTable

structure Request where
  table   : String
  profile : Option String := none
  rows    : RowSet := .all
  filter  : Option Filter := none
  limit   : Nat := 0
  deriving Repr

namespace Request

def ofSelector (table : String) (profile : Option String) (s : Selector) (filters : List Filter) :
    Request where
  table := table
  profile := profile
  rows := s.rows
  filter := Filter.collapse? filters
  limit := s.limit

def filterCount (r : Request) : Nat :=
  Filter.count r.filter

end Request
end WideTable
