import WideTable.Proofs.Filter.Thinning
import WideTable.Proofs.Store.Selection

namespace WideTable

open ByteKey

theorem limited_sublist (n : Nat) (rows : List Row) : (limited n rows).Sublist rows := by
  rw [limited]
  split
  case isTrue => exact .refl rows
  case isFalse => exact List.take_sublist n rows

namespace Sieve

variable {sieve : Sieve} {e : RowKey × StoredRow} {row : Row}

theorem row?_eq_some (h : sieve.row? e = some row) :
    row = .ofEntries e.1 (sieve e.1 (StoredRow.entries e.2)) ∧
      sieve e.1 (StoredRow.entries e.2) ≠ [] := by
  rw [row?] at h
  split at h
  case isTrue => cases h
  case isFalse hn => exact ⟨(Option.some.inj h).symm, hn⟩

theorem key_of_row? (h : sieve.row? e = some row) : row.key = e.1 :=
  (row?_eq_some h).left ▸ rfl

theorem entries_of_row? (h : sieve.row? e = some row) :
    row.entries = sieve e.1 (StoredRow.entries e.2) := by
  rw [(row?_eq_some h).left, Row.entries_ofEntries]

theorem Thins.wellFormed {stripping : Bool} (ht : sieve.Thins stripping)
    (h : sieve.row? e = some row) : row.WellFormed := by
  have ⟨hr, hn⟩ := row?_eq_some h
  rw [hr]
  exact Row.wellFormed_ofEntries _ hn ((ht _ _).pairwise (StoredRow.pairwise_entries e.2))

end Sieve

namespace Store

variable {s : Store} {r : Request} {rows : List Row}

theorem sublist_of_read (h : s.read r = .ok rows) :
    ∃ sieve, Filter.compileOptional r.filter = .ok sieve ∧
      rows.Sublist (s.rows.entries.filterMap sieve.row?) := by
  rw [read_eq] at h
  cases hf : Filter.compileOptional r.filter <;> rw [hf] at h <;> cases h
  case ok sieve =>
    refine ⟨sieve, rfl, (limited_sublist _ _).trans ?_⟩
    exact List.filter_sublist.filterMap _

theorem pairwise_key_row? (s : Store) (sieve : Sieve) :
    (s.rows.entries.filterMap sieve.row?).Pairwise fun a b => Before a.key b.key := by
  refine List.pairwise_filterMap.mpr (s.rows.sorted.imp fun hab x hx y hy => ?_)
  rwa [Sieve.key_of_row? hx, Sieve.key_of_row? hy]

theorem pairwise_key_of_read (h : s.read r = .ok rows) :
    rows.Pairwise fun a b => Before a.key b.key := by
  have ⟨sieve, _, hs⟩ := sublist_of_read h
  exact (s.pairwise_key_row? sieve).sublist hs

theorem thinned_of_read (h : s.read r = .ok rows) {row : Row} (hr : row ∈ rows) :
    row.WellFormed ∧ ∃ stored, s.rows.find? row.key = some stored ∧
      Thinned (r.filter.any Filter.strips) stored.entries row.entries := by
  have ⟨sieve, hf, hs⟩ := sublist_of_read h
  have ht := Filter.thins_of_compileOptional hf
  have ⟨(key, stored), hm, hrow⟩ := List.mem_filterMap.mp (hs.subset hr)
  refine ⟨ht.wellFormed hrow, stored, ?_, ?_⟩
  · rw [Sieve.key_of_row? hrow]
    exact SortedMap.mem_entries.mp hm
  · rw [Sieve.entries_of_row? hrow]
    exact ht key _

-- With a strip somewhere in the filter values may be empty, and without one entries are as stored.
theorem wellFormed_read (ws : List Write) (r : Request) (rows : List Row)
    (h : (ofWrites ws).read r = .ok rows) :
    (rows.Pairwise fun a b => Before a.key b.key) ∧
      ∀ row ∈ rows, row.WellFormed ∧
        ∃ stored, (ofWrites ws).rows.find? row.key = some stored ∧
          Thinned (r.filter.any Filter.strips) stored.entries row.entries :=
  ⟨pairwise_key_of_read h, fun _ hr => thinned_of_read h hr⟩

-- Two rows, one of them with two versions in a column and the other hidden by the limit.
theorem wellFormed_read_stripped :
    let ws : List Write :=
      [⟨[2], "f", [1], ⟨5, [7], []⟩⟩, ⟨[1], "f", [1], ⟨3, [8], []⟩⟩, ⟨[1], "f", [1], ⟨4, [9], []⟩⟩]
    let r : Request :=
      { table := "t", filter := some (.chain [.cellsPerColumn 1, .stripValue]), limit := 1 }
    let rows : List Row := [⟨[1], [⟨"f", [⟨[1], [⟨4, [], []⟩]⟩]⟩]⟩]
    (ofWrites ws).read r = .ok rows ∧ (rows.Pairwise fun a b => Before a.key b.key) ∧
      ∀ row ∈ rows, row.WellFormed ∧
        ∃ stored, (ofWrites ws).rows.find? row.key = some stored ∧
          Thinned (r.filter.any Filter.strips) stored.entries row.entries := by
  intro ws r rows
  have h : (ofWrites ws).read r = .ok rows := by decide +kernel
  exact ⟨h, wellFormed_read ws r rows h⟩

end Store
end WideTable
