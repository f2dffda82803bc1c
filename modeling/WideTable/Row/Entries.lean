import WideTable.Row

namespace WideTable

structure Entry where
  family    : String
  qualifier : Qualifier
  cell      : Cell
  deriving DecidableEq, Repr

namespace Column

def entries (family : String) (c : Column) : List Entry :=
  c.cells.map fun cell => ⟨family, c.qualifier, cell⟩

-- Puts a cell in front, into the first column if that has its qualifier.
def attach (q : Qualifier) (cell : Cell) : List Column → List Column
  | [] => [⟨q, [cell]⟩]
  | c :: cs => if c.qualifier = q then ⟨q, cell :: c.cells⟩ :: cs else ⟨q, [cell]⟩ :: c :: cs

end Column

namespace Family

def entries (f : Family) : List Entry :=
  f.columns.flatMap (·.entries f.name)

def attach (e : Entry) : List Family → List Family
  | [] => [⟨e.family, [⟨e.qualifier, [e.cell]⟩]⟩]
  | f :: fs =>
    if f.name = e.family then
      ⟨e.family, Column.attach e.qualifier e.cell f.columns⟩ :: fs
    else
      ⟨e.family, [⟨e.qualifier, [e.cell]⟩]⟩ :: f :: fs

-- Nesting puts a list of entries back into families and columns; only neighbours are put together.
def nest (es : List Entry) : List Family :=
  es.foldr attach []

end Family

namespace Row

def entries (r : Row) : List Entry :=
  r.families.flatMap (·.entries)

def ofEntries (key : RowKey) (es : List Entry) : Row where
  key := key
  families := Family.nest es

end Row

@[simp]
theorem Column.entries_mk_cons (q : Qualifier) (cell : Cell) (cells : List Cell) (name : String) :
    (Column.mk q (cell :: cells)).entries name = ⟨name, q, cell⟩ :: (Column.mk q cells).entries name :=
  rfl

theorem Column.flatMap_entries_attach (name : String) (q : Qualifier) (cell : Cell)
    (cs : List Column) :
    (attach q cell cs).flatMap (·.entries name) = ⟨name, q, cell⟩ :: cs.flatMap (·.entries name) := by
  cases cs with
  | nil => rfl
  | cons c cs =>
    rw [attach]
    split
    case isTrue h => subst h; rfl
    case isFalse => rfl

theorem Family.flatMap_entries_attach (e : Entry) (fs : List Family) :
    (attach e fs).flatMap (·.entries) = e :: fs.flatMap (·.entries) := by
  cases fs with
  | nil => rfl
  | cons f fs =>
    rw [attach]
    split
    case isTrue h =>
      simp only [List.flatMap_cons, Family.entries, Column.flatMap_entries_attach, h, List.cons_append]
    case isFalse => rfl

@[simp]
theorem Row.entries_ofEntries (key : RowKey) (es : List Entry) : (ofEntries key es).entries = es := by
  induction es with
  | nil => rfl
  | cons e es ih => exact (Family.flatMap_entries_attach e _).trans (congrArg _ ih)

end WideTable
