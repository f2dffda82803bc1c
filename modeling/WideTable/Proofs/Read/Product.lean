import WideTable.Proofs.Filter.Chain
import WideTable.Proofs.Filter.Exact
import WideTable.Proofs.Read.Reached
import WideTable.Proofs.Regex.LiteralSize
import WideTable.Proofs.Row.Lookup
import WideTable.Proofs.Store.Scan

namespace WideTable

open ByteKey

namespace Pattern

-- The pattern that stands for the literals, if it takes more than can be compiled.
def tooLarge? (ls : List Bytes) : Option String :=
  if (Regex.exactly ls).fits then none else ofLiterals? ls

theorem tooLarge?_nil : tooLarge? [] = none :=
  ite_self _

theorem tooLarge?_singleton (l : Bytes) :
    tooLarge? [l] = if l.length ≤ maxLiteral then none else some (ofLiteral l) := by
  simp only [tooLarge?, Regex.fits_exactly_iff]
  rfl

end Pattern

namespace Sieve

-- The columns with these names, in the families with those names.
def named (names : List String) (qualifiers : List Qualifier) : Sieve :=
  fun _ es => es.filter fun e => names.contains e.family && qualifiers.contains e.qualifier

end Sieve

namespace Filter

theorem compile_exactAny_eq (field : Field) (ls : List Bytes) :
    (exactAny field ls).compile =
      match Pattern.tooLarge? ls with
      | none => .ok fun key es => es.filter (field.content key · ∈ ls)
      | some pattern => .error (.refused pattern) := by
  cases ls
  case nil =>
    have hc : (exactAny field []).compile = .ok fun _ _ => [] := rfl
    rw [hc, Pattern.tooLarge?_nil]
    simp
  case cons l ls =>
    have hs : Sieve.matching (.exactly (l :: ls)) field =
        fun key es => es.filter (field.content key · ∈ l :: ls) := by
      funext key es
      exact Sieve.matching_exactly (l :: ls) field key es
    rw [compile_exactAny field (List.cons_ne_nil l ls), hs, Pattern.tooLarge?]
    split <;> rfl

theorem compile_named (names : List String) (qualifiers : List Qualifier) :
    compileOptional (collapse? [exactAny .family (names.map Bytes.ofText),
      exactAny .qualifier qualifiers]) =
      match (Pattern.tooLarge? (names.map Bytes.ofText)).or (Pattern.tooLarge? qualifiers) with
      | none => .ok (Sieve.named names qualifiers)
      | some pattern => .error (.refused pattern) := by
  rw [compileOptional_collapse?]
  simp only [compileAll, compile_exactAny_eq]
  cases Pattern.tooLarge? (names.map Bytes.ofText)
  case some => rfl
  case none =>
    cases Pattern.tooLarge? qualifiers
    case some => rfl
    case none =>
      refine congrArg Except.ok ?_
      funext key es
      refine List.filter_filter.trans (List.filter_congr fun e _ => ?_)
      have hf : Bytes.ofText e.family ∈ names.map Bytes.ofText ↔ e.family ∈ names :=
        List.mem_map_of_injective fun _ _ => Bytes.ofText_inj.mp
      rw [Bool.eq_iff_iff, Bool.and_eq_true, Bool.and_eq_true, decide_eq_true_iff,
        decide_eq_true_iff, List.contains_iff_mem, List.contains_iff_mem]
      exact and_comm.trans (and_congr_left' hf)

end Filter

namespace Store

theorem length_orderedKeys_le (ks : List RowKey) : (orderedKeys ks).length ≤ ks.length := by
  have hd : (orderedKeys ks).Nodup := (pairwise_orderedKeys ks).imp fun h => h.ne
  exact (hd.subperm fun _ => mem_orderedKeys.mp).length_le

-- Keys that are given twice make the limit only larger.
theorem read_of_keys (s : Store) {ks : List RowKey} {r : Request} (hr : r.rows = .keys ks)
    (hl : r.limit = ks.length) :
    s.read r = (Filter.compileOptional r.filter).map fun sieve =>
      (s.select (.keys ks)).filterMap sieve.row? := by
  rw [read_eq, ← select_eq_filter, hr, hl]
  refine congrArg (Except.map · _) ?_
  funext sieve
  rw [limited]
  split
  case isTrue => rfl
  case isFalse =>
    refine List.take_of_length_le ?_
    calc ((s.select (.keys ks)).filterMap sieve.row?).length
      _ ≤ (s.select (.keys ks)).length := List.length_filterMap_le _ _
      _ ≤ (orderedKeys ks).length := List.length_filterMap_le _ _
      _ ≤ ks.length := length_orderedKeys_le ks

theorem flatMap_writes_filterMap_row? (sieve : Sieve) (es : List (RowKey × StoredRow)) :
    (es.filterMap sieve.row?).flatMap Row.writes = es.flatMap fun e =>
      (sieve e.1 (StoredRow.entries e.2)).map fun x => ⟨e.1, x.family, x.qualifier, x.cell⟩ := by
  induction es
  case nil => rfl
  case cons e es ih =>
    rw [List.flatMap_cons, ← ih, List.filterMap_cons, Sieve.row?]
    by_cases h : sieve e.1 (StoredRow.entries e.2) = []
    case pos => simp [h]
    case neg =>
      have hk (es : List Entry) : (Row.ofEntries e.1 es).key = e.1 := rfl
      simp [h, Row.writes, hk]

-- Rows that are not selected are like rows without a cell that is asked for.
theorem flatMap_writes_select (s : Store) (ks : List RowKey) (names : List String)
    (qualifiers : List Qualifier) :
    ((s.select (.keys ks)).filterMap (Sieve.named names qualifiers).row?).flatMap Row.writes =
      (s.scan.flatMap Row.writes).filter fun w =>
        w.key ∈ ks ∧ w.family ∈ names ∧ w.qualifier ∈ qualifiers := by
  rw [select_eq_filter, scan, flatMap_writes_filterMap_row?, flatMap_writes_filterMap_row?]
  induction s.rows.entries
  case nil => rfl
  case cons e es ih =>
    rw [List.flatMap_cons, List.filter_append, ← ih, List.filter_map, List.filter_cons]
    by_cases h : e.1 ∈ ks
    case pos => simp [RowSet.admits, h, Sieve.named, Function.comp_def]
    case neg => simp [RowSet.admits, h, Function.comp_def]

theorem pairwise_key_select (s : Store) (rows : RowSet) (sieve : Sieve) :
    ((s.select rows).filterMap sieve.row?).Pairwise fun a b => Before a.key b.key := by
  rw [select_eq_filter]
  exact (s.pairwise_key_row? sieve).sublist (List.filter_sublist.filterMap _)

theorem wellFormed_select {s : Store} {rows : RowSet} {names : List String}
    {qualifiers : List Qualifier} {row : Row}
    (h : row ∈ (s.select rows).filterMap (Sieve.named names qualifiers).row?) :
    row.WellFormed := by
  have ⟨_, _, hrow⟩ := List.mem_filterMap.mp h
  have ht : (Sieve.named names qualifiers).Thins false :=
    fun _ _ => .of_sublist List.filter_sublist
  exact ht.wellFormed hrow

end Store

namespace State

def manyFamilies : State :=
  .narrow .family .many (.rows .many)

def manyColumns : State :=
  .narrow .column .many manyFamilies

def manyCells : State :=
  .narrow .cell .many manyColumns

end State

namespace Read

-- The pattern that a read by names is refused for. Without keys, none is looked at.
def refused? (ks : List RowKey) (names : List String) (qualifiers : List Qualifier) :
    Option String :=
  if ks = [] then none
  else (Pattern.tooLarge? (names.map Bytes.ofText)).or (Pattern.tooLarge? qualifiers)

theorem execute_of_names {r : Read .manyCells} {ks : List RowKey} {names : List String}
    {qualifiers : List Qualifier} (m : MemoryStore)
    (hs : r.draft.selector = (Start.rowsWithKeys ks).selector)
    (hf : r.draft.filters =
      [.exactAny .family (names.map Bytes.ofText), .exactAny .qualifier qualifiers]) :
    (r.execute .memory m).1 =
      match refused? ks names qualifiers with
      | none => .ok ((m.store.select (.keys ks)).filterMap (Sieve.named names qualifiers).row?)
      | some pattern => .error (.execution r.request (.pattern (.refused pattern))) := by
  have hrows : r.request.rows = .keys ks := congrArg Selector.rows hs
  have hlimit : r.request.limit = ks.length := congrArg Selector.limit hs
  have hfilter : r.request.filter = Filter.collapse? r.draft.filters := rfl
  rw [execute_memory, Store.read_of_keys _ hrows hlimit, hfilter, hf, Filter.compile_named,
    hrows, refused?]
  cases ks
  case nil => rfl
  case cons k ks =>
    rw [if_neg (List.cons_ne_nil k ks)]
    cases (Pattern.tooLarge? (names.map Bytes.ofText)).or (Pattern.tooLarge? qualifiers) <;> rfl

theorem execute_product (ws : List Write) (reads : Nat) (table : TableName)
    (profile : Option String) (ks : List RowKey) (names : List String)
    (qualifiers : List Qualifier) :
    ∃ (families : Read .manyFamilies) (columns : Read .manyColumns) (cells : Read .manyCells)
      (rows : List Row),
      (Read.start table profile (.rowsWithKeys ks)).call (.familiesNamed names) rfl = .ok families ∧
      families.call (.columnsNamed qualifiers) rfl = .ok columns ∧
      columns.call .cells rfl = .ok cells ∧
      (cells.execute .memory ⟨.ofWrites ws, reads⟩).1 =
        (match refused? ks names qualifiers with
        | none => .ok rows
        | some pattern => .error (.execution cells.request (.pattern (.refused pattern)))) ∧
      (rows.Pairwise fun a b => Before a.key b.key) ∧
      (∀ row ∈ rows, row.WellFormed) ∧
      rows.flatMap Row.writes = ((Store.ofWrites ws).scan.flatMap Row.writes).filter (fun w =>
        w.key ∈ ks ∧ w.family ∈ names ∧ w.qualifier ∈ qualifiers) ∧
      (∀ w, w ∈ rows.flatMap Row.writes ↔ lastWrite ws w.coordinate = some w ∧
        w.key ∈ ks ∧ w.family ∈ names ∧ w.qualifier ∈ qualifiers) ∧
      (ks = [] ∨ names = [] ∨ qualifiers = [] → rows = []) := by
  have hmem (w : Write) :
      w ∈ (((Store.ofWrites ws).select (.keys ks)).filterMap
        (Sieve.named names qualifiers).row?).flatMap Row.writes ↔
      lastWrite ws w.coordinate = some w ∧
        w.key ∈ ks ∧ w.family ∈ names ∧ w.qualifier ∈ qualifiers := by
    rw [Store.flatMap_writes_select, List.mem_filter, Store.mem_writes_scan_ofWrites,
      decide_eq_true_iff]
  refine ⟨_, _, _, _, rfl, rfl, rfl, execute_of_names _ rfl rfl, Store.pairwise_key_select _ _ _,
    fun _ => Store.wellFormed_select, Store.flatMap_writes_select _ _ _ _, hmem, fun hempty => ?_⟩
  refine List.eq_nil_iff_forall_not_mem.mpr fun row hrow => ?_
  have ⟨e, he⟩ := List.exists_mem_of_ne_nil _ (Store.wellFormed_select hrow).entries_ne_nil
  have hw := (hmem _).mp (List.mem_flatMap.mpr ⟨row, hrow, List.mem_map_of_mem he⟩)
  rcases hempty with rfl | rfl | rfl <;> simp at hw

theorem execute_cells_of_tooLong (m : MemoryStore) (table : TableName) (profile : Option String)
    (k : RowKey) {f : String} {q : Qualifier} (hf : (Bytes.ofText f).length ≤ Pattern.maxLiteral)
    (hq : Pattern.maxLiteral < q.length) :
    ∃ (families : Read .manyFamilies) (columns : Read .manyColumns) (cells : Read .manyCells),
      (Read.start table profile (.rowsWithKeys [k])).call (.familiesNamed [f]) rfl = .ok families ∧
      families.call (.columnsNamed [q]) rfl = .ok columns ∧
      columns.call .cells rfl = .ok cells ∧
      (cells.execute .memory m).1 =
        .error (.execution cells.request (.pattern (.refused (Pattern.ofLiteral q)))) := by
  have hrefused : refused? [k] [f] [q] = some (Pattern.ofLiteral q) := by
    rw [refused?, if_neg (List.cons_ne_nil k []), List.map_singleton, Pattern.tooLarge?_singleton,
      if_pos hf, Option.none_or, Pattern.tooLarge?_singleton, if_neg (Nat.not_le.mpr hq)]
  refine ⟨_, _, _, rfl, rfl, rfl, .trans (execute_of_names m rfl rfl) ?_⟩
  simp only [hrefused]

-- Nothing is stored under a name that is too long, and this is not said but refused.
theorem execute_cells_of_long_qualifier :
    ∃ (families : Read .manyFamilies) (columns : Read .manyColumns) (cells : Read .manyCells),
      let q : Qualifier := List.replicate 328000 0x61
      let ws : List Write := [⟨[0x6b], "f", [0x71], ⟨1, [0x76], []⟩⟩]
      (Read.start ⟨"p", "i", "t"⟩ none (.rowsWithKeys [[0x6b]])).call (.familiesNamed ["f"]) rfl =
        .ok families ∧
      families.call (.columnsNamed [q]) rfl = .ok columns ∧
      columns.call .cells rfl = .ok cells ∧
      (∀ w ∈ ws, w.qualifier ∉ [q]) ∧
      (cells.execute .memory ⟨.ofWrites ws, 0⟩).1 =
        .error (.execution cells.request (.pattern (.refused (Pattern.ofLiteral q)))) ∧
      (cells.execute .memory ⟨.ofWrites ws, 0⟩).1 ≠ .ok [] := by
  have hf : (Bytes.ofText "f").length ≤ Pattern.maxLiteral := by decide
  have hq : Pattern.maxLiteral < (List.replicate 328000 (0x61 : UInt8)).length := by
    rw [List.length_replicate]
    decide
  have ⟨families, columns, cells, hfamilies, hcolumns, hcells, he⟩ := execute_cells_of_tooLong
    ⟨.ofWrites [⟨[0x6b], "f", [0x71], ⟨1, [0x76], []⟩⟩], 0⟩ ⟨"p", "i", "t"⟩ none [0x6b] hf hq
  refine ⟨families, columns, cells, hfamilies, hcolumns, hcells, fun w hw hn => ?_, he, ?_⟩
  · have hl := congrArg List.length (List.mem_singleton.mp hn)
    rw [List.mem_singleton.mp hw, List.length_replicate] at hl
    cases hl
  · rw [he]
    nofun

end Read
end WideTable
