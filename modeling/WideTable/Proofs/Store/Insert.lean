import WideTable.Proofs.Store.SortedMap
import WideTable.Store.Basic

namespace WideTable

-- Where and when a cell is written.
structure Coordinate where
  key       : RowKey
  family    : String
  qualifier : Qualifier
  timestamp : Int64
  deriving DecidableEq, Repr

def Write.coordinate (w : Write) : Coordinate where
  key := w.key
  family := w.family
  qualifier := w.qualifier
  timestamp := w.cell.timestamp

-- A write is its coordinate and its cell.
theorem Write.ext_coordinate {w v : Write} (hx : w.coordinate = v.coordinate)
    (hc : w.cell = v.cell) : w = v := by
  cases w
  cases v
  simp_all [coordinate]

-- The last of the writes at a coordinate.
def lastWrite (ws : List Write) (x : Coordinate) : Option Write :=
  ws.reverse.find? (·.coordinate = x)

theorem lastWrite_concat (ws : List Write) (w : Write) (x : Coordinate) :
    lastWrite (ws ++ [w]) x = if w.coordinate = x then some w else lastWrite ws x := by
  simp only [lastWrite, List.reverse_append, List.reverse_singleton, List.singleton_append,
    List.find?_cons]
  split <;> simp_all

theorem coordinate_of_lastWrite {ws : List Write} {x : Coordinate} {w : Write}
    (h : lastWrite ws x = some w) : w.coordinate = x := by
  simpa using List.find?_some h

theorem lastWrite_isSome_iff {ws : List Write} {x : Coordinate} :
    (lastWrite ws x).isSome ↔ ∃ w ∈ ws, w.coordinate = x := by
  simp [lastWrite]

namespace Versions

variable {c d : Cell} {cs : List Cell} {t : Int64}

theorem find?_place (c : Cell) (cs : List Cell) (t : Int64) :
    (place c cs).find? (·.timestamp = t) =
      if c.timestamp = t then some c else cs.find? (·.timestamp = t) := by
  induction cs
  case nil => simp [place, List.find?_cons]; grind
  case cons d ds ih =>
    rw [place]
    split
    case isTrue => simp only [List.find?_cons]; grind
    case isFalse hnl =>
      split
      case isTrue hgt =>
        have hne : c.timestamp ≠ d.timestamp := fun he => Int64.lt_irrefl (he ▸ hgt)
        simp only [List.find?_cons, ih]
        grind
      case isFalse hng =>
        have he : c.timestamp = d.timestamp :=
          Int64.le_antisymm (Int64.not_lt.mp hnl) (Int64.not_lt.mp hng)
        simp only [List.find?_cons]
        grind

-- At most one version has a timestamp, so a version is found by its own.
theorem find?_eq_some_iff (h : cs.Pairwise fun a b => b.timestamp < a.timestamp) :
    cs.find? (·.timestamp = t) = some c ↔ c ∈ cs ∧ c.timestamp = t := by
  induction cs
  case nil => simp
  case cons d ds ih =>
    have ⟨hd, hds⟩ := List.pairwise_cons.mp h
    rw [List.find?_cons]
    split
    case h_1 ht =>
      have hn : c ∈ ds → c.timestamp ≠ t := fun hc he => by
        have hlt := hd c hc
        simp only [he, of_decide_eq_true ht] at hlt
        exact Int64.lt_irrefl hlt
      grind
    case h_2 => grind

instance : Std.Irrefl fun a b : Cell => b.timestamp < a.timestamp where
  irrefl _ := Int64.lt_irrefl

instance : Std.Antisymm fun a b : Cell => b.timestamp < a.timestamp where
  antisymm _ _ h h' := absurd h' (Int64.lt_asymm h)

-- The version with a timestamp.
def at? (versions : Option Versions) (t : Int64) : Option Cell :=
  versions.bind fun v => v.cells.find? (·.timestamp = t)

theorem mem_cells_iff {v : Versions} : c ∈ v.cells ↔ at? (some v) c.timestamp = some c := by
  simp [at?, find?_eq_some_iff v.latestFirst]

theorem ext_at? {v u : Versions} (h : ∀ t, at? (some v) t = at? (some u) t) : v = u := by
  have hc : v.cells = u.cells :=
    v.latestFirst.eq_of_mem_iff u.latestFirst fun c => by simp only [mem_cells_iff, h]
  cases v
  cases u
  congr

theorem at?_write (c : Cell) (versions : Option Versions) (t : Int64) :
    at? (some (write c versions)) t = if c.timestamp = t then some c else at? versions t := by
  cases versions <;> simp [at?, write, find?_place]

theorem write_comm (h : c.timestamp ≠ d.timestamp) (versions : Option Versions) :
    write d (some (write c versions)) = write c (some (write d versions)) := by
  apply ext_at?
  intro t
  simp only [at?_write]
  grind

theorem write_eq_self {v : Versions} (h : at? (some v) c.timestamp = some c) :
    write c (some v) = v := by
  apply ext_at?
  intro t
  rw [at?_write]
  split
  case isTrue ht => rw [← ht, h]
  case isFalse => rfl

end Versions

namespace StoredRow

variable {r : StoredRow}

theorem mem_entries {e : Entry} :
    e ∈ r.entries ↔
      ∃ columns versions, r.find? e.family = some columns ∧
        columns.find? e.qualifier = some versions ∧ e.cell ∈ versions.cells := by
  obtain ⟨f, q, c⟩ := e
  simp only [entries, List.mem_flatMap, List.mem_map, Prod.exists, SortedMap.mem_entries,
    Entry.mk.injEq]
  constructor
  case mp =>
    rintro ⟨_, columns, hf, _, versions, hq, _, hc, rfl, rfl, rfl⟩
    exact ⟨columns, versions, hf, hq, hc⟩
  case mpr =>
    rintro ⟨columns, versions, hf, hq, hc⟩
    exact ⟨f, columns, hf, q, versions, hq, c, hc, rfl, rfl, rfl⟩

end StoredRow

namespace Store

variable {s : Store} {w v : Write} {x : Coordinate}

-- The look-up of a column, level by level.
def column? (s : Store) (k : RowKey) (f : String) (q : Qualifier) : Option Versions :=
  ((s.rows.find? k).bind (·.find? f)).bind (·.find? q)

def cell? (s : Store) (x : Coordinate) : Option Cell :=
  Versions.at? (s.column? x.key x.family x.qualifier) x.timestamp

theorem column?_insert (s : Store) (w : Write) (k : RowKey) (f : String) (q : Qualifier) :
    (s.insert w).column? k f q =
      if w.key = k ∧ w.family = f ∧ w.qualifier = q then
        some (Versions.write w.cell (s.column? k f q))
      else s.column? k f q := by
  simp only [column?, insert, SortedMap.find?_alter]
  by_cases hk : w.key = k
  case neg => simp [hk]
  case pos =>
    by_cases hf : w.family = f
    case neg => simp [hk, hf, SortedMap.find?_alter]
    case pos => by_cases hq : w.qualifier = q <;> simp [hk, hf, hq, SortedMap.find?_alter]

theorem cell?_insert (s : Store) (w : Write) (x : Coordinate) :
    (s.insert w).cell? x = if w.coordinate = x then some w.cell else s.cell? x := by
  obtain ⟨k, f, q, t⟩ := x
  simp only [cell?, column?_insert, Write.coordinate, Coordinate.mk.injEq]
  split
  case isTrue h => simp [Versions.at?_write, h]
  case isFalse h => grind

-- The step from one write to the next is `cell?_insert`.
theorem cell?_ofWrites (ws : List Write) (x : Coordinate) :
    (ofWrites ws).cell? x = (lastWrite ws x).map (·.cell) := by
  induction ws using List.reverseRecOn
  case nil => rfl
  case append_singleton ws w ih =>
    have hw : ofWrites (ws ++ [w]) = (ofWrites ws).insert w := by simp [ofWrites]
    rw [hw, cell?_insert, lastWrite_concat, ih]
    split <;> rfl

theorem cell?_ofWrites_eq_some_iff {ws : List Write} {w : Write} :
    (ofWrites ws).cell? w.coordinate = some w.cell ↔ lastWrite ws w.coordinate = some w := by
  rw [cell?_ofWrites, Option.map_eq_some_iff]
  constructor
  case mp =>
    rintro ⟨v, hv, hc⟩
    exact Write.ext_coordinate (coordinate_of_lastWrite hv) hc ▸ hv
  case mpr => exact fun h => ⟨w, h, rfl⟩

theorem insert_comm (h : w.coordinate ≠ v.coordinate) :
    (s.insert w).insert v = (s.insert v).insert w := by
  simp only [insert, mk.injEq]
  by_cases hk : w.key = v.key
  case neg => exact s.rows.alter_comm hk _ _
  case pos =>
    rw [← hk, SortedMap.alter_alter_self, SortedMap.alter_alter_self]
    refine SortedMap.alter_congr ?_
    simp only [Option.getD_some]
    by_cases hf : w.family = v.family
    case neg => exact SortedMap.alter_comm _ hf _ _
    case pos =>
      rw [← hf, SortedMap.alter_alter_self, SortedMap.alter_alter_self]
      refine SortedMap.alter_congr ?_
      simp only [Option.getD_some]
      by_cases hq : w.qualifier = v.qualifier
      case neg => exact SortedMap.alter_comm _ hq _ _
      case pos =>
        have ht : w.cell.timestamp ≠ v.cell.timestamp := fun ht => h (by simp [Write.coordinate, *])
        rw [← hq, SortedMap.alter_alter_self, SortedMap.alter_alter_self]
        exact SortedMap.alter_congr (Versions.write_comm ht _)

theorem exists_of_cell?_eq_some {c : Cell} (h : s.cell? x = some c) :
    ∃ row columns versions, s.rows.find? x.key = some row ∧ row.find? x.family = some columns ∧
      columns.find? x.qualifier = some versions ∧
      Versions.at? (some versions) x.timestamp = some c := by
  simp only [cell?, Versions.at?, column?, Option.bind_eq_some_iff] at h
  obtain ⟨versions, ⟨columns, ⟨row, hr, hf⟩, hq⟩, ht⟩ := h
  exact ⟨row, columns, versions, hr, hf, hq, ht⟩

-- What is there already can be written again.
theorem insert_eq_self (h : s.cell? w.coordinate = some w.cell) : s.insert w = s := by
  have ⟨row, columns, versions, hr, hf, hq, ht⟩ := exists_of_cell?_eq_some h
  simp only [Write.coordinate] at hr hf hq ht
  have hc : columns.alter w.qualifier (Versions.write w.cell) = columns :=
    SortedMap.alter_eq_self hq (Versions.write_eq_self ht)
  have hrow := SortedMap.alter_eq_self hf (f := fun columns =>
    (columns.getD .empty).alter w.qualifier (Versions.write w.cell)) hc
  have hrows : (s.insert w).rows = s.rows := SortedMap.alter_eq_self hr hrow
  cases s
  exact congrArg Store.mk hrows

end Store

structure StoredRow.Occupied (r : StoredRow) : Prop where
  families : SortedMap.entries r ≠ []
  columns  : ∀ f columns, r.find? f = some columns → SortedMap.entries columns ≠ []

namespace SortedMap

variable {κ α : Type} [ByteKey κ]

theorem entries_alter_ne_nil [DecidableEq κ] (m : SortedMap κ α) (k : κ) (f : Option α → α) :
    (m.alter k f).entries ≠ [] := by
  have hm : (k, f (m.find? k)) ∈ (m.alter k f).entries := mem_entries_alter.mpr (.inl rfl)
  exact List.ne_nil_of_mem hm

end SortedMap

namespace Store

def Occupied (s : Store) : Prop :=
  ∀ k row, s.rows.find? k = some row → row.Occupied

theorem Occupied.insert {s : Store} (h : s.Occupied) (w : Write) : (s.insert w).Occupied := by
  intro k row hrow
  simp only [Store.insert, SortedMap.find?_alter] at hrow
  split at hrow
  case isFalse => exact h k row hrow
  case isTrue hk =>
    cases hrow
    constructor
    case families => exact SortedMap.entries_alter_ne_nil _ _ _
    case columns =>
      intro f columns hf
      rw [SortedMap.find?_alter] at hf
      split at hf
      case isTrue => cases hf; exact SortedMap.entries_alter_ne_nil _ _ _
      case isFalse =>
        rw [SortedMap.find?_getD_empty, Option.bind_eq_some_iff] at hf
        have ⟨row, hr, hf⟩ := hf
        exact (h _ row hr).columns f columns hf

theorem occupied_ofWrites (ws : List Write) : (ofWrites ws).Occupied := by
  have go (s : Store) (h : s.Occupied) : (ws.foldl Store.insert s).Occupied := by
    induction ws generalizing s
    case nil => exact h
    case cons w ws ih => exact ih _ (h.insert w)
  exact go .empty fun _ _ h => by cases h

end Store
end WideTable
