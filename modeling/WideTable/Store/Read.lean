import WideTable.Filter.Apply
import WideTable.Request
import WideTable.Store.Basic

namespace WideTable

namespace Store

def orderedKeys (keys : List RowKey) : List RowKey :=
  (keys.foldl (fun m k => m.alter k fun _ => ()) (SortedMap.empty (α := Unit))).entries.map (·.1)

def select (s : Store) : RowSet → List (RowKey × StoredRow)
  | .all => s.rows.entries
  | .keys keys => (orderedKeys keys).filterMap fun k => (s.rows.find? k).map (k, ·)
  | .range span =>
    if h : span.isVoid = false then s.rows.slice span (Span.searchable_of_not_isVoid h) else []

-- A row that its filter leaves without cells is not returned, and does not count as one of those wanted.
def survivors (sieve : Sieve) : (wanted : Option Nat) → List (RowKey × StoredRow) → List Row
  | some 0, _ => []
  | _, [] => []
  | wanted, (key, row) :: rows =>
    match sieve key (StoredRow.entries row) with
    | [] => survivors sieve wanted rows
    | es => Row.ofEntries key es :: survivors sieve (wanted.map (· - 1)) rows

def read (s : Store) (r : Request) : Except PatternError (List Row) := do
  let sieve ← Filter.compileOptional r.filter
  return survivors sieve (if r.limit = 0 then none else some r.limit) (s.select r.rows)

end Store

structure MemoryStore where
  store : Store := .empty
  reads : Nat := 0

namespace MemoryStore

def insert (m : MemoryStore) (w : Write) : MemoryStore :=
  { m with store := m.store.insert w }

-- A read that fails counts as well.
def read (m : MemoryStore) (r : Request) : Except PatternError (List Row) × MemoryStore :=
  (m.store.read r, { m with reads := m.reads + 1 })

end MemoryStore
end WideTable
