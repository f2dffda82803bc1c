import WideTable.Adapter
import WideTable.Proofs.Read.Narrowing
import WideTable.Proofs.Store.Scan

namespace WideTable

-- The cell was written at this place, and nothing was written there later under its timestamp.
def Stands (ws : List Write) (k : RowKey) (f : String) (q : Qualifier) (c : Cell) : Prop :=
  lastWrite ws ⟨k, f, q, c.timestamp⟩ = some ⟨k, f, q, c⟩

theorem Stands.mem {ws : List Write} {k : RowKey} {f : String} {q : Qualifier} {c : Cell}
    (h : Stands ws k f q c) : ⟨k, f, q, c⟩ ∈ ws :=
  List.mem_reverse.mp (List.mem_of_find?_eq_some h)

theorem exists_stands {ws : List Write} {w : Write} (h : w ∈ ws) :
    ∃ c, Stands ws w.key w.family w.qualifier c ∧ c.timestamp = w.cell.timestamp := by
  have hs := lastWrite_isSome_iff.mpr ⟨w, h, rfl⟩
  have ⟨⟨k, f, q, c⟩, hv⟩ := Option.isSome_iff_exists.mp hs
  have hx := coordinate_of_lastWrite hv
  simp only [Write.coordinate, Coordinate.mk.injEq] at hx
  obtain ⟨rfl, rfl, rfl, ht⟩ := hx
  refine ⟨c, ?_, ht⟩
  rw [Stands, ht]
  exact hv

-- What stands in a family of a row, and in a column of the family.
structure Stored (ws : List Write) (k : RowKey) (f : String) (q : Qualifier)
    (family? : Option Family) (column? : Option Column) : Prop where
  family  : ∀ g ∈ family?, g.WellFormed ∧ g.name = f
  entries : ∀ e, e ∈ family?.elim [] (·.entries) ↔
    Stands ws k e.family e.qualifier e.cell ∧ e.family = f
  column  : ∀ c ∈ column?, c.WellFormed ∧ c.qualifier = q
  cells   : ∀ c, c ∈ column?.elim [] (·.cells) ↔ Stands ws k f q c

namespace Stored

variable {ws : List Write} {k : RowKey} {f : String} {q : Qualifier} {family? : Option Family}
  {column? : Option Column}

theorem family?_eq_none_iff (h : Stored ws k f q family? column?) :
    family? = none ↔ ∀ w ∈ ws, w.key = k → w.family ≠ f := by
  constructor
  case mp =>
    rintro rfl w hw rfl rfl
    have ⟨c, hc, _⟩ := exists_stands hw
    simpa using (h.entries ⟨w.family, w.qualifier, c⟩).mpr ⟨hc, rfl⟩
  case mpr =>
    intro hn
    cases family?
    case none => rfl
    case some g =>
      have ⟨e, he⟩ := List.exists_mem_of_ne_nil _ (h.family g rfl).left.entries_ne_nil
      have ⟨hs, hf⟩ := (h.entries e).mp he
      exact absurd hf (hn _ hs.mem rfl)

theorem column?_eq_none_iff (h : Stored ws k f q family? column?) :
    column? = none ↔ ∀ w ∈ ws, w.key = k → w.family = f → w.qualifier ≠ q := by
  constructor
  case mp =>
    rintro rfl w hw rfl rfl rfl
    have ⟨c, hc, _⟩ := exists_stands hw
    simpa using (h.cells c).mpr hc
  case mpr =>
    intro hn
    cases column?
    case none => rfl
    case some c =>
      have ⟨cell, hc⟩ := List.exists_mem_of_ne_nil _ (h.column c rfl).left.filled
      have hs := (h.cells cell).mp hc
      exact absurd rfl (hn _ hs.mem rfl rfl)

theorem latest_eq_some_iff (h : Stored ws k f q family? column?) {cell : Cell} :
    column?.bind (·.latest) = some cell ↔ Stands ws k f q cell ∧
      ∀ w ∈ ws, w.key = k → w.family = f → w.qualifier = q → w.cell.timestamp ≤ cell.timestamp := by
  -- The cells that stand have all the timestamps that were ever written.
  have ht : (∀ d ∈ column?.elim [] (·.cells), d.timestamp ≤ cell.timestamp) ↔
      ∀ w ∈ ws, w.key = k → w.family = f → w.qualifier = q → w.cell.timestamp ≤ cell.timestamp := by
    constructor
    case mp =>
      rintro hle w hw rfl rfl rfl
      have ⟨c, hc, hwc⟩ := exists_stands hw
      exact hwc ▸ hle c ((h.cells c).mpr hc)
    case mpr =>
      intro hle d hd
      exact hle _ ((h.cells d).mp hd).mem rfl rfl rfl
  rw [← ht, ← h.cells]
  cases column?
  case none => simp
  case some c => exact (h.column c rfl).left.latest_eq_some_iff

end Stored

namespace Store

theorem mem_row? (ws : List Write) (k : RowKey) {e : Entry} :
    e ∈ ((ofWrites ws).row? k).elim [] (·.entries) ↔ Stands ws k e.family e.qualifier e.cell := by
  have he := mem_entries_iff_cell? (s := ofWrites ws) (w := ⟨k, e.family, e.qualifier, e.cell⟩)
  rw [cell?_ofWrites_eq_some_iff] at he
  refine .trans ?_ he
  rw [row?]
  cases (ofWrites ws).rows.find? k
  case none => simp
  case some stored =>
    have hs : (Row.mk k stored.families).entries = StoredRow.entries stored :=
      (StoredRow.entries_eq stored).symm
    simp [hs]

theorem stored_row? (ws : List Write) (k : RowKey) (f : String) (q : Qualifier) :
    Stored ws k f q (((ofWrites ws).row? k).bind (·.family f))
      ((((ofWrites ws).row? k).bind (·.family f)).bind (·.column q)) := by
  have hwf {r : Row} (hr : (ofWrites ws).row? k = some r) :=
    (occupied_ofWrites ws).wellFormed_row? hr
  constructor
  case family =>
    intro g hg
    have ⟨r, hr, hg⟩ := Option.bind_eq_some_iff.mp hg
    exact (hwf hr).of_family hg
  case column =>
    intro c hc
    have ⟨g, hg, hc⟩ := Option.bind_eq_some_iff.mp hc
    have ⟨r, hr, hg⟩ := Option.bind_eq_some_iff.mp hg
    exact (hwf hr).of_column (Option.bind_eq_some_iff.mpr ⟨g, hg, hc⟩)
  case entries =>
    intro e
    rw [← mem_row?]
    cases hr : (ofWrites ws).row? k
    case none => simp
    case some r => exact (hwf hr).mem_family
  case cells =>
    intro c
    rw [← mem_row? ws k (e := ⟨f, q, c⟩)]
    cases hr : (ofWrites ws).row? k
    case none => simp
    case some r => exact (hwf hr).mem_column

end Store

namespace Read

variable {s : State}

-- The result of a read, unless a name that it narrows to is too long to be matched.
def answer (r : Read s) (names : List Bytes) (result : s.Output) : Except ReadError s.Output :=
  match Pattern.tooLong? names with
  | none => .ok result
  | some l => .error (.execution r.request (.pattern (.refused (Pattern.ofLiteral l))))

theorem execute_of_row {r : Read s} {k : RowKey} (hk : r.draft.selector = (Start.row k).selector)
    (m : MemoryStore) :
    (r.execute .memory m).1 =
      match Filter.compileOptional (Filter.collapse? r.draft.filters) with
      | .ok sieve => .ok (s.project ((m.store.row? k).bind sieve.ofRow?).toList)
      | .error cause => .error (.execution r.request (.pattern cause)) := by
  have hr : r.request = ⟨r.draft.table.fullName, r.draft.profile, .keys [k],
      Filter.collapse? r.draft.filters, 1⟩ := by
    rw [request, Draft.request, hk]
    rfl
  -- There is a key, so the adapter is asked.
  have hread : Adapter.memory.readRows r.request m =
      ((m.store.read r.request).mapError .pattern, { m with reads := m.reads + 1 }) := rfl
  have he : r.request.rows.isEmptyKeys = false := by rw [hr]; rfl
  rw [execute, he, hread]
  simp only [hr, Store.read_row]
  cases Filter.compileOptional (Filter.collapse? r.draft.filters) <;> rfl

theorem execute_answer {r : Read s} {k : RowKey} {fs : List Filter} {names : List Bytes}
    {sieve : Sieve} (m : MemoryStore) (hk : r.draft.selector = (Start.row k).selector)
    (hf : r.draft.filters = fs)
    (hc : Filter.compileOptional (Filter.collapse? fs) =
      match Pattern.tooLong? names with
      | none => .ok sieve
      | some l => .error (.refused (Pattern.ofLiteral l))) :
    (r.execute .memory m).1 =
      r.answer names (s.project ((m.store.row? k).bind sieve.ofRow?).toList) := by
  rw [execute_of_row hk, hf, hc, answer]
  cases Pattern.tooLong? names <;> rfl

theorem execute_narrowed (ws : List Write) (reads : Nat) (table : TableName)
    (profile : Option String) (k : RowKey) (f : String) (q : Qualifier) :
    ∃ (family : Read .oneFamily) (column : Read .oneColumn) (cells : Read .allCells)
      (latest : Read .oneCell),
      let m : MemoryStore := ⟨.ofWrites ws, reads⟩
      let whole := Read.start table profile (.row k)
      let row? := m.store.row? k
      let family? := row?.bind (·.family f)
      let column? := family?.bind (·.column q)
      let names := [Bytes.ofText f, q]
      whole.call (.family f) rfl = .ok family ∧
      family.call (.column q) rfl = .ok column ∧
      column.call .cells rfl = .ok cells ∧
      column.call .latestCell rfl = .ok latest ∧
      (whole.execute .memory m).1 = .ok row? ∧
      (family.execute .memory m).1 = family.answer [Bytes.ofText f] family? ∧
      (column.execute .memory m).1 = column.answer names column? ∧
      (cells.execute .memory m).1 = cells.answer names (column?.elim [] (·.cells)) ∧
      (latest.execute .memory m).1 = latest.answer names (column?.bind (·.latest)) ∧
      family? = ((m.store.rows.find? k).bind (·.find? f)).map (⟨f, StoredFamily.columns ·⟩) ∧
      column? = (m.store.column? k f q).map (⟨q, ·.cells⟩) ∧
      Stored ws k f q family? column? ∧
      (family? = none ↔ ∀ w ∈ ws, w.key = k → w.family ≠ f) ∧
      (column? = none ↔ ∀ w ∈ ws, w.key = k → w.family = f → w.qualifier ≠ q) ∧
      ∀ c, column?.bind (·.latest) = some c ↔ Stands ws k f q c ∧
        ∀ w ∈ ws, w.key = k → w.family = f → w.qualifier = q → w.cell.timestamp ≤ c.timestamp := by
  let m : MemoryStore := ⟨.ofWrites ws, reads⟩
  have hwf : ∀ r ∈ (Store.ofWrites ws).row? k, r.WellFormed :=
    fun _ hr => (Store.occupied_ofWrites ws).wellFormed_row? hr
  have hs := Store.stored_row? ws k f q
  -- All four reads are of one row, and differ in their filters and in what they project.
  have honly := Filter.compile_only .family (Bytes.ofText f)
  have hchain {fs : List Filter} {sieves : List Sieve} (h : Filter.compileAll fs = .ok sieves) :=
    Filter.compile_chain h (.family, Bytes.ofText f) (.qualifier, q)
  refine ⟨_, _, _, _, rfl, rfl, rfl, rfl, ?whole, ?family, ?column, ?cells, ?latest,
    Store.family_row? _ k f, Store.column_row? _ k f q, hs,
    hs.family?_eq_none_iff, hs.column?_eq_none_iff, fun _ => hs.latest_eq_some_iff⟩
  case whole =>
    refine .trans (execute_of_row (k := k) rfl m) (congrArg Except.ok ?_)
    exact State.project_row hwf
  case family =>
    refine .trans (execute_answer (k := k) m rfl rfl honly) (congrArg _ ?_)
    exact State.project_family hwf f
  case column =>
    refine .trans (execute_answer (k := k) m rfl rfl (hchain rfl)) (congrArg _ ?_)
    exact State.project_column hwf f q
  case cells =>
    refine .trans (execute_answer (k := k) m rfl rfl (hchain rfl)) (congrArg _ ?_)
    exact State.project_cells hwf f q
  case latest =>
    refine .trans (execute_answer (k := k) m rfl rfl (hchain rfl)) (congrArg _ ?_)
    exact State.project_latest hwf f q

theorem execute_latest_of_tooLong (m : MemoryStore) (table : TableName) (profile : Option String)
    (k : RowKey) {f : String} {q : Qualifier} (hf : (Bytes.ofText f).length ≤ Pattern.maxLiteral)
    (hq : Pattern.maxLiteral < q.length) :
    ∃ (family : Read .oneFamily) (column : Read .oneColumn) (latest : Read .oneCell),
      (Read.start table profile (.row k)).call (.family f) rfl = .ok family ∧
      family.call (.column q) rfl = .ok column ∧
      column.call .latestCell rfl = .ok latest ∧
      (latest.execute .memory m).1 =
        .error (.execution latest.request (.pattern (.refused (Pattern.ofLiteral q)))) := by
  have hlimit : Filter.compileAll [.cellsPerColumn 1] = .ok [Sieve.cellsPerColumn 1] := rfl
  have hchain := Filter.compile_chain hlimit (.family, Bytes.ofText f) (.qualifier, q)
  have hlong : Pattern.tooLong? [Bytes.ofText f, q] = some q := by
    rw [Pattern.tooLong?_cons, if_pos hf, Pattern.tooLong?_cons, if_neg (Nat.not_le.mpr hq)]
  refine ⟨_, _, _, rfl, rfl, rfl, .trans (execute_answer (k := k) m rfl rfl hchain) ?_⟩
  simp only [answer, hlong]

-- Nothing is found under a name that is too long, and this is not said but refused.
theorem execute_latest_of_long_qualifier :
    ∃ (family : Read .oneFamily) (column : Read .oneColumn) (latest : Read .oneCell),
      let q : Qualifier := List.replicate 328000 0x61
      let ws : List Write := [⟨[0x6b], "f", [0x71], ⟨1, [0x76], []⟩⟩]
      (Read.start ⟨"p", "i", "t"⟩ none (.row [0x6b])).call (.family "f") rfl = .ok family ∧
      family.call (.column q) rfl = .ok column ∧
      column.call .latestCell rfl = .ok latest ∧
      (∀ w ∈ ws, w.qualifier ≠ q) ∧
      (latest.execute .memory ⟨.ofWrites ws, 0⟩).1 =
        .error (.execution latest.request (.pattern (.refused (Pattern.ofLiteral q)))) ∧
      (latest.execute .memory ⟨.ofWrites ws, 0⟩).1 ≠ .ok none := by
  have hf : (Bytes.ofText "f").length ≤ Pattern.maxLiteral := by decide
  have hq : Pattern.maxLiteral < (List.replicate 328000 (0x61 : UInt8)).length := by
    rw [List.length_replicate]
    decide
  have ⟨family, column, latest, hfamily, hcolumn, hlatest, he⟩ := execute_latest_of_tooLong
    ⟨.ofWrites [⟨[0x6b], "f", [0x71], ⟨1, [0x76], []⟩⟩], 0⟩ ⟨"p", "i", "t"⟩ none [0x6b] hf hq
  refine ⟨family, column, latest, hfamily, hcolumn, hlatest, ?_, he, ?_⟩
  · intro w hw hn
    have hl := congrArg List.length hn
    rw [List.mem_singleton.mp hw, List.length_replicate] at hl
    cases hl
  · rw [he]
    nofun

end Read
end WideTable
