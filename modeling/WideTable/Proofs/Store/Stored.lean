import WideTable.Proofs.Row.WellFormed
import WideTable.Proofs.Store.Insert

namespace WideTable

open ByteKey

namespace SortedMap

variable {κ α : Type} [ByteKey κ]

theorem find?_entries [DecidableEq κ] (m : SortedMap κ α) (k : κ) :
    m.entries.find? (·.1 = k) = (m.find? k).map (k, ·) := by
  rw [find?]
  induction m.entries
  case nil => rfl
  case cons e es ih =>
    rw [findIn, List.find?_cons]
    by_cases h : e.1 = k
    case pos => simp [← h]
    case neg =>
      have hb : bytes e.1 ≠ bytes k := fun he => h (bytes_inj he)
      simp [h, hb, ih]

end SortedMap

def StoredFamily.columns (s : StoredFamily) : List Column :=
  s.entries.map fun (q, versions) => ⟨q, versions.cells⟩

def StoredRow.families (r : StoredRow) : List Family :=
  (SortedMap.entries r).map fun (f, columns) => ⟨f, StoredFamily.columns columns⟩

namespace StoredFamily

theorem find?_columns (s : StoredFamily) (q : Qualifier) :
    s.columns.find? (·.qualifier = q) = (s.find? q).map fun versions => ⟨q, versions.cells⟩ := by
  have he := s.find?_entries q
  rw [columns, List.find?_map]
  simp only [Function.comp_def, he, Option.map_map]

theorem ordered_columns (s : StoredFamily) :
    s.columns.Pairwise fun a b => Before a.qualifier b.qualifier :=
  List.pairwise_map.mpr s.sorted

theorem apart_columns (s : StoredFamily) : Column.Apart s.columns where
  differ := (ordered_columns s).isChain.imp fun _ _ h => h.ne
  filled c hc := by
    have ⟨(q, versions), _, he⟩ := List.mem_map.mp hc
    exact he ▸ versions.nonempty

end StoredFamily

namespace StoredRow

theorem entries_eq (r : StoredRow) : r.entries = r.families.flatMap (·.entries) := by
  rw [entries, families, List.flatMap_map]
  refine List.flatMap_congr ?_
  rintro ⟨f, columns⟩ _
  have hf : (Family.mk f (StoredFamily.columns columns)).entries = columns.entries.flatMap
      fun (q, versions) => (Column.mk q versions.cells).entries f := List.flatMap_map ..
  exact hf.symm

theorem find?_families (r : StoredRow) (f : String) :
    r.families.find? (·.name = f) =
      (r.find? f).map fun columns => ⟨f, StoredFamily.columns columns⟩ := by
  have he := SortedMap.find?_entries r f
  rw [families, List.find?_map]
  simp only [Function.comp_def, he, Option.map_map]

theorem Occupied.apart {r : StoredRow} (h : r.Occupied) : Family.Apart r.families where
  differ := by
    have ho : r.families.Pairwise fun a b => Before a.name b.name := List.pairwise_map.mpr r.sorted
    exact ho.isChain.imp fun _ _ h => h.ne
  filled g hg := by
    have ⟨(f, columns), hm, he⟩ := List.mem_map.mp hg
    have hc := h.columns f columns (SortedMap.mem_entries.mp hm)
    simpa [← he, StoredFamily.columns] using hc
  columns g hg := by
    have ⟨(f, columns), _, he⟩ := List.mem_map.mp hg
    exact he ▸ StoredFamily.apart_columns columns

theorem Occupied.wellFormed {r : StoredRow} (h : r.Occupied) (k : RowKey) :
    (Row.mk k r.families).WellFormed := by
  have hb := pairwise_entries r
  rw [entries_eq] at hb
  have hf : r.families ≠ [] := fun he => h.families (List.map_eq_nil_iff.mp he)
  exact ⟨hf, h.apart.ordered hb, h.apart.wellFormed hb⟩

end StoredRow

-- A stored row as it is, with all that it holds.
def Store.row? (s : Store) (k : RowKey) : Option Row :=
  (s.rows.find? k).map fun r => ⟨k, StoredRow.families r⟩

namespace Store

theorem Occupied.wellFormed_row? {s : Store} (h : s.Occupied) {k : RowKey} {r : Row}
    (hr : s.row? k = some r) : r.WellFormed := by
  have ⟨stored, hs, he⟩ := Option.map_eq_some_iff.mp hr
  exact he ▸ (h k stored hs).wellFormed k

theorem family_row? (s : Store) (k : RowKey) (f : String) :
    (s.row? k).bind (·.family f) =
      ((s.rows.find? k).bind (·.find? f)).map fun columns => ⟨f, StoredFamily.columns columns⟩ := by
  cases h : s.rows.find? k
  case none => simp [row?, h]
  case some r => simp [row?, h, Row.family, StoredRow.find?_families]

theorem column_row? (s : Store) (k : RowKey) (f : String) (q : Qualifier) :
    ((s.row? k).bind (·.family f)).bind (·.column q) =
      (s.column? k f q).map fun versions => ⟨q, versions.cells⟩ := by
  rw [family_row?, column?]
  cases h : (s.rows.find? k).bind (·.find? f)
  case none => rfl
  case some columns => exact StoredFamily.find?_columns columns q

end Store
end WideTable
