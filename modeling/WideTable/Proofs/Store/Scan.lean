import WideTable.Proofs.Store.Insert
import WideTable.Proofs.Store.Response

namespace WideTable

open ByteKey

def Row.writes (r : Row) : List Write :=
  r.entries.map fun e => ⟨r.key, e.family, e.qualifier, e.cell⟩

theorem Row.mem_writes {r : Row} {w : Write} :
    w ∈ r.writes ↔ r.key = w.key ∧ ⟨w.family, w.qualifier, w.cell⟩ ∈ r.entries := by
  obtain ⟨k, f, q, c⟩ := w
  simp only [writes, List.mem_map, Write.mk.injEq]
  constructor
  case mp =>
    rintro ⟨e, he, hk, rfl, rfl, rfl⟩
    exact ⟨hk, he⟩
  case mpr => exact fun ⟨hk, he⟩ => ⟨_, he, hk, rfl, rfl, rfl⟩

theorem Entry.Before.coordinate_ne {a b : Entry} (h : a.Before b) (k : RowKey) :
    Write.coordinate ⟨k, a.family, a.qualifier, a.cell⟩ ≠
      Write.coordinate ⟨k, b.family, b.qualifier, b.cell⟩ := by
  intro he
  simp only [Write.coordinate, Coordinate.mk.injEq, true_and] at he
  obtain h | ⟨_, h | ⟨_, h⟩⟩ := h
  · exact h.ne he.left
  · exact h.ne he.right.left
  · exact Int64.lt_irrefl (he.right.right ▸ h)

namespace Store

theorem mem_entries_iff_cell? {s : Store} {w : Write} :
    (∃ stored, s.rows.find? w.key = some stored ∧
      ⟨w.family, w.qualifier, w.cell⟩ ∈ StoredRow.entries stored) ↔
        s.cell? w.coordinate = some w.cell := by
  simp only [StoredRow.mem_entries, Versions.mem_cells_iff]
  constructor
  case mp =>
    rintro ⟨row, hr, columns, versions, hf, hq, ht⟩
    simp [cell?, column?, Write.coordinate, hr, hf, hq, ht]
  case mpr =>
    intro h
    obtain ⟨row, columns, versions, hr, hf, hq, ht⟩ := exists_of_cell?_eq_some h
    exact ⟨row, hr, columns, versions, hf, hq, ht⟩

-- The rows of a read without filter and limit.
def scan (s : Store) : List Row :=
  s.rows.entries.filterMap (Sieve.row? fun _ es => es)

theorem read_all (s : Store) (table : String) (profile : Option String) :
    s.read { table, profile } = .ok s.scan := by
  rw [read_eq]
  simp only [RowSet.admits, List.filter_true]
  rfl

theorem mem_writes_scan {s : Store} {w : Write} :
    w ∈ s.scan.flatMap Row.writes ↔ s.cell? w.coordinate = some w.cell := by
  simp only [← mem_entries_iff_cell?, scan, List.mem_flatMap, List.mem_filterMap, Row.mem_writes]
  constructor
  case mp =>
    rintro ⟨row, ⟨⟨k, stored⟩, hm, hrow⟩, hk, he⟩
    rw [Sieve.key_of_row? hrow] at hk
    rw [Sieve.entries_of_row? hrow] at he
    exact ⟨stored, hk ▸ SortedMap.mem_entries.mp hm, he⟩
  case mpr =>
    rintro ⟨stored, hs, he⟩
    have hrow : Sieve.row? (fun _ es => es) (w.key, stored) =
        some (.ofEntries w.key stored.entries) := if_neg (List.ne_nil_of_mem he)
    exact ⟨_, ⟨_, SortedMap.mem_entries.mpr hs, hrow⟩, rfl, by simpa using he⟩

theorem nodup_coordinate_scan (s : Store) :
    ((s.scan.flatMap Row.writes).map Write.coordinate).Nodup := by
  have hr := read_all s "" none
  refine List.pairwise_map.mpr (List.pairwise_flatMap.mpr ⟨fun row hrow => ?inside, ?across⟩)
  case inside =>
    have ⟨_, stored, _, ht⟩ := thinned_of_read hr hrow
    have hb := ht.pairwise (StoredRow.pairwise_entries stored)
    exact List.pairwise_map.mpr (hb.imp fun h => h.coordinate_ne row.key)
  case across =>
    refine (pairwise_key_of_read hr).imp fun hk x hx y hy he => hk.ne ?_
    rw [(Row.mem_writes.mp hx).left, (Row.mem_writes.mp hy).left]
    exact congrArg Coordinate.key he

theorem mem_writes_scan_ofWrites {ws : List Write} {w : Write} :
    w ∈ (ofWrites ws).scan.flatMap Row.writes ↔ lastWrite ws w.coordinate = some w := by
  rw [mem_writes_scan, cell?_ofWrites_eq_some_iff]

-- At each coordinate there is the last write, and nothing if there was none.
theorem filter_coordinate_scan (ws : List Write) (x : Coordinate) :
    ((ofWrites ws).scan.flatMap Row.writes).filter (·.coordinate = x) =
      (lastWrite ws x).toList := by
  have hd : ((ofWrites ws).scan.flatMap Row.writes).Nodup :=
    .of_map _ (nodup_coordinate_scan (ofWrites ws))
  have hm (w : Write) : w ∈ ((ofWrites ws).scan.flatMap Row.writes).filter (·.coordinate = x) ↔
      w ∈ (lastWrite ws x).toList := by
    rw [List.mem_filter, mem_writes_scan_ofWrites, Option.mem_toList, decide_eq_true_eq]
    constructor
    case mp => exact fun ⟨h, hx⟩ => hx ▸ h
    case mpr =>
      intro h
      have hx := coordinate_of_lastWrite h
      exact ⟨hx ▸ h, hx⟩
  have hp := (List.perm_ext_iff_of_nodup (hd.filter _) (by cases lastWrite ws x <;> simp)).mpr hm
  cases hw : lastWrite ws x <;> rw [hw] at hp
  case none => exact hp.eq_nil
  case some w => exact List.perm_singleton.mp hp

theorem scan_ofWrites (ws : List Write) (table : String) (profile : Option String) :
    ∃ rows, (ofWrites ws).read { table, profile } = .ok rows ∧
      (rows.Pairwise fun a b => Before a.key b.key) ∧
      (∀ row ∈ rows, row.WellFormed) ∧
      (∀ x, (rows.flatMap Row.writes).filter (·.coordinate = x) = (lastWrite ws x).toList) ∧
      (∀ w v, w.coordinate ≠ v.coordinate →
        ((ofWrites ws).insert w).insert v = ((ofWrites ws).insert v).insert w) ∧
      ∀ w, lastWrite ws w.coordinate = some w → (ofWrites ws).insert w = ofWrites ws := by
  have hr := read_all (ofWrites ws) table profile
  refine ⟨_, hr, pairwise_key_of_read hr, fun _ h => (thinned_of_read hr h).left,
    filter_coordinate_scan ws, fun _ _ => insert_comm, fun w hw => insert_eq_self ?_⟩
  rw [cell?_ofWrites, hw, Option.map_some]

end Store
end WideTable
