import WideTable.Proofs.Filter.Limit
import WideTable.Proofs.Row.Lookup

namespace WideTable

open ByteKey

namespace Column

-- Only the first cells, which are the latest ones.
def cut (n : Nat) (c : Column) : Column :=
  { c with cells := c.cells.take n }

variable {c : Column} {n : Nat}

theorem entries_cut (n : Nat) (c : Column) (name : String) :
    (c.cut n).entries name = (c.entries name).take n :=
  List.map_take

theorem WellFormed.cut (h : c.WellFormed) (hn : n ≠ 0) : (c.cut n).WellFormed where
  filled := by simpa [Column.cut, List.take_eq_nil_iff, hn] using h.filled
  latestFirst := h.latestFirst.sublist (List.take_sublist n c.cells)

-- All that is left out is older than all that is left.
theorem WellFormed.cells_cut (h : c.WellFormed) (n : Nat) :
    ∃ rest, c.cells = (c.cut n).cells ++ rest ∧ (c.cut n).cells.length = min n c.cells.length ∧
      ∀ kept ∈ (c.cut n).cells, ∀ left ∈ rest, left.timestamp < kept.timestamp := by
  have hl := h.latestFirst
  rw [← List.take_append_drop n c.cells] at hl
  exact ⟨c.cells.drop n, (List.take_append_drop n c.cells).symm, List.length_take,
    (List.pairwise_append.mp hl).right.right⟩

theorem WellFormed.pairwise_entries (h : c.WellFormed) (name : String) :
    (c.entries name).Pairwise Entry.Before := by
  simpa only [entries, List.pairwise_map, Entry.before_in_column] using h.latestFirst

end Column

namespace Family

def cut (n : Nat) (f : Family) : Family :=
  { f with columns := f.columns.map (Column.cut n) }

variable {f : Family} {n : Nat}

theorem column_cut (n : Nat) (f : Family) (q : Qualifier) :
    (f.cut n).column q = (f.column q).map (Column.cut n) :=
  List.find?_map

theorem WellFormed.cut (h : f.WellFormed) (hn : n ≠ 0) : (f.cut n).WellFormed where
  filled := by simpa [Family.cut] using h.filled
  ordered := List.pairwise_map.mpr h.ordered
  columns := List.forall_mem_map.mpr fun c hc => (h.columns c hc).cut hn

theorem WellFormed.pairwise_entries (h : f.WellFormed) : f.entries.Pairwise Entry.Before := by
  refine List.pairwise_flatMap.mpr ⟨fun c hc => (h.columns c hc).pairwise_entries f.name, ?_⟩
  refine h.ordered.imp fun hq x hx y hy => ?_
  have ⟨_, _, hx⟩ := List.mem_map.mp hx
  have ⟨_, _, hy⟩ := List.mem_map.mp hy
  exact hx ▸ hy ▸ .inr ⟨rfl, .inl hq⟩

end Family

namespace Row

def cut (n : Nat) (r : Row) : Row :=
  { r with families := r.families.map (Family.cut n) }

variable {r s : Row} {n : Nat}

theorem family_cut (n : Nat) (r : Row) (name : String) :
    (r.cut n).family name = (r.family name).map (Family.cut n) :=
  List.find?_map

theorem column_cut (n : Nat) (r : Row) (f : String) (q : Qualifier) :
    ((r.cut n).family f).bind (·.column q) =
      ((r.family f).bind (·.column q)).map (Column.cut n) := by
  rw [family_cut]
  cases r.family f
  case none => rfl
  case some g => exact Family.column_cut n g q

theorem WellFormed.cut (h : r.WellFormed) (hn : n ≠ 0) : (r.cut n).WellFormed where
  filled := by simpa [Row.cut] using h.filled
  ordered := List.pairwise_map.mpr h.ordered
  families := List.forall_mem_map.mpr fun f hf => (h.families f hf).cut hn

theorem WellFormed.pairwise_entries (h : r.WellFormed) : r.entries.Pairwise Entry.Before := by
  refine List.pairwise_flatMap.mpr ⟨fun f hf => (h.families f hf).pairwise_entries, ?_⟩
  refine h.ordered.imp fun hn x hx y hy => .inl ?_
  rwa [Family.family_of_mem_entries hx, Family.family_of_mem_entries hy]

-- The entries of one column are those of the column that a look-up finds.
theorem WellFormed.filter_eq_column (h : r.WellFormed) (x : String × Qualifier) :
    r.entries.filter (·.column = x) = ((r.family x.1).bind (·.column x.2)).elim [] (·.entries x.1) := by
  rw [← h.filter_column, List.filter_filter]
  refine List.filter_congr fun e _ => ?_
  simp [Entry.column, Prod.ext_iff, Bool.and_comm]

-- A well-formed row is known by the entries of each of its columns, so to cut a row is to cut the entries
-- of each column.
theorem WellFormed.filter_entries_cut (h : r.WellFormed) (hn : n ≠ 0) (x : String × Qualifier) :
    (r.cut n).entries.filter (·.column = x) = (r.entries.filter (·.column = x)).take n := by
  rw [h.filter_eq_column, (h.cut hn).filter_eq_column, column_cut]
  cases (r.family x.1).bind (·.column x.2)
  case none => exact List.take_nil.symm
  case some c => exact Column.entries_cut n c x.1

end Row
end WideTable
