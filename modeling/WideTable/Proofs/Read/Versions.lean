import WideTable.Proofs.Filter.Counter
import WideTable.Proofs.Read.Bounds

namespace WideTable

theorem UInt32.toNat_ne_zero {n : UInt32} (h : n ≠ 0) : n.toNat ≠ 0 :=
  fun hn => h (UInt32.toNat_inj.mp hn)

theorem limited_map (n : Nat) (f : Row → Row) (rows : List Row) :
    limited n (rows.map f) = (limited n rows).map f := by
  rw [limited, limited]
  split
  case isTrue => rfl
  case isFalse => exact List.map_take.symm

namespace Sieve

variable {r : Row} {n : UInt32} {stripping : Bool} {sieves : List Sieve} {e : RowKey × StoredRow}

theorem cellsPerColumn_entries (h : r.WellFormed)
    (hc : ∀ x, (r.entries.filter (·.column = x)).length < UInt32.size) (hn : n ≠ 0) (key : RowKey) :
    cellsPerColumn n key r.entries = (r.cut n.toNat).entries := by
  have hn := UInt32.toNat_ne_zero hn
  have hb := h.pairwise_entries
  refine Entry.eq_of_filter_column ?_ (h.cut hn).pairwise_entries fun x => ?_
  · exact hb.sublist (firstOfRuns_sublist n none 0 r.entries)
  · rw [filter_cellsPerColumn n key hb (hc x), h.filter_entries_cut hn]

-- A row that is left before the limit is left after it, and cut.
theorem row?_concat_cellsPerColumn (ht : (chain sieves).Thins stripping)
    (hc : ∀ x, ((StoredRow.entries e.2).filter (·.column = x)).length < UInt32.size) (hn : n ≠ 0) :
    (chain (sieves ++ [cellsPerColumn n])).row? e =
      ((chain sieves).row? e).map (Row.cut n.toNat) := by
  have ht := ht e.1 (StoredRow.entries e.2)
  simp only [row?, chain_append, chain_cons]
  generalize chain sieves e.1 (StoredRow.entries e.2) = es at ht
  by_cases hes : es = []
  case pos =>
    subst hes
    rfl
  case neg =>
    have hwf := Row.wellFormed_ofEntries e.1 hes (ht.pairwise (StoredRow.pairwise_entries e.2))
    have hlen : ∀ x, ((Row.ofEntries e.1 es).entries.filter (·.column = x)).length < UInt32.size := by
      intro x
      rw [Row.entries_ofEntries]
      exact (ht.length_filter_column_le x).trans_lt (hc x)
    have hcut := hwf.cut (UInt32.toNat_ne_zero hn)
    have he : chain [] e.1 (cellsPerColumn n e.1 es) =
        ((Row.ofEntries e.1 es).cut n.toNat).entries := by
      have he := cellsPerColumn_entries hwf hlen hn e.1
      rwa [Row.entries_ofEntries] at he
    rw [he, if_neg hcut.entries_ne_nil, if_neg hes]
    exact congrArg some hcut.ofEntries_entries

end Sieve

namespace Filter

mutual

-- None of the counters in a filter runs over when it is given these entries.
def Counts : Filter → RowKey → List Entry → Prop
  | cellsPerColumn limit, _, es => ∃ kept, Sieve.firstOfRuns? limit none 0 es = some kept
  | chain filters, key, es => CountsAll filters key es
  | _, _, _ => True

-- Each filter is given what the ones before it leave.
def CountsAll : List Filter → RowKey → List Entry → Prop
  | [], _, _ => True
  | f :: fs, key, es =>
    Counts f key es ∧ ∀ sieve, f.compile = .ok sieve → CountsAll fs key (sieve key es)

end

mutual

-- Only limits count, and chains lead back to filters. Columns do not grow on the way.
theorem counts_of_length_lt : (f : Filter) → {key : RowKey} → {es : List Entry} →
    (∀ x, (es.filter (·.column = x)).length < UInt32.size) → f.Counts key es
  | passAll, _, _, _ | blockAll, _, _, _ | regex .., _, _, _ | qualifierRange .., _, _, _
  | valueRange .., _, _, _ | timestampRange .., _, _, _ | cellsPerRow .., _, _, _
  | cellsOffset .., _, _, _ | stripValue, _, _, _ => trivial
  | cellsPerColumn limit, key, _, h => ⟨_, Sieve.firstOfRuns?_cellsPerColumn limit key h⟩
  | chain filters, _, _, h => countsAll_of_length_lt filters h

theorem countsAll_of_length_lt : (fs : List Filter) → {key : RowKey} → {es : List Entry} →
    (∀ x, (es.filter (·.column = x)).length < UInt32.size) → CountsAll fs key es
  | [], _, _, _ => trivial
  | f :: fs, key, es, h => by
    refine ⟨counts_of_length_lt f h, fun sieve hc => countsAll_of_length_lt fs fun x => ?_⟩
    exact ((thins_of_compile f hc key es).length_filter_column_le x).trans_lt (h x)

end

end Filter

namespace Store

variable {s : Store} {n : UInt32}

-- The same rows are found, and the limit on rows counts the same ones.
theorem read_push_cellsPerColumn (hs : s.Occupied) (hc : s.Countable) (hn : n ≠ 0) (d : Draft) :
    s.read (d.push (.cellsPerColumn n)).request =
      (s.read d.request).map (List.map (Row.cut n.toNat)) := by
  simp only [Draft.request, Draft.push, Request.ofSelector, read_eq,
    Filter.compileOptional_collapse?]
  have hl : (Filter.cellsPerColumn n).compile = .ok (Sieve.cellsPerColumn n) := rfl
  rw [Filter.compileAll_concat hl]
  cases hfs : Filter.compileAll d.filters
  case error => rfl
  case ok sieves =>
    refine congrArg Except.ok ?_
    rw [← limited_map, List.map_filterMap]
    refine congrArg (limited _) (List.filterMap_congr fun (key, stored) hm => ?_)
    have hm := SortedMap.mem_entries.mp (List.mem_of_mem_filter hm)
    exact Sieve.row?_concat_cellsPerColumn (Filter.thins_of_compileAll d.filters hfs)
      (hc.length_filter_lt hs hm) hn

end Store

namespace Read

-- The limit on rows, the filters before and the families around a column make no difference to how many
-- of its versions are left. A limit of zero after a filter leaves nothing of any column.
theorem answer_cut_to_latest (ws : List Write) (reads : Nat) (hn : (Store.ofWrites ws).Countable) :
    (∀ (b : Cardinality) (p : State) (r : Read (.narrow .column b p)) (sieve : Sieve),
      Filter.compileOptional r.request.filter = .ok sieve →
      let answer := fun t : Request => (Adapter.memory.readRows t ⟨.ofWrites ws, reads⟩).1
      ∃ all latest rows,
        r.call .cells rfl = .ok all ∧ answer all.request = .ok rows ∧
        r.call .latestCell rfl = .ok latest ∧ answer latest.request = .ok (rows.map (Row.cut 1)) ∧
        (∀ n : UInt32, n ≠ 0 → ∃ limited, all.call (.limitCells n) rfl = .ok limited ∧
          answer limited.request = .ok (rows.map (Row.cut n.toNat))) ∧
        ∀ row ∈ rows, ∀ f ∈ row.families, ∀ c ∈ f.columns,
          (∃ cell, (c.cut 1).cells = [cell]) ∧
          ∀ n, ∃ rest, c.cells = (c.cut n).cells ++ rest ∧
            (c.cut n).cells.length = min n c.cells.length ∧
            ∀ kept ∈ (c.cut n).cells, ∀ left ∈ rest, left.timestamp < kept.timestamp) ∧
    ∀ key stored, (Store.ofWrites ws).rows.find? key = some stored → ∀ f : Filter,
      f.Counts key stored.entries ∧
      ∀ sieve, f.compile = .ok sieve → ∀ n, ∃ limited,
        (Filter.chain [f, .cellsPerColumn n]).compile = .ok limited ∧
        (limited key stored.entries).Sublist (sieve key stored.entries) ∧
        ∀ x, (limited key stored.entries).filter (·.column = x) =
          ((sieve key stored.entries).filter (·.column = x)).take n.toNat := by
  have hs := Store.occupied_ofWrites ws
  refine ⟨fun b p r sieve hc => ?reads, fun key stored hkey f => ⟨?counts, fun sieve hf n => ?filters⟩⟩
  case reads =>
    have ⟨rows, hread⟩ : ∃ rows, (Store.ofWrites ws).read r.request = .ok rows :=
      ⟨_, by rw [Store.read_eq, hc]; rfl⟩
    have hlimited (n : UInt32) (h : n ≠ 0) :
        (Store.ofWrites ws).read (r.draft.push (.cellsPerColumn n)).request =
          .ok (rows.map (Row.cut n.toNat)) := by
      have hr : (Store.ofWrites ws).read r.draft.request = .ok rows := hread
      rw [Store.read_push_cellsPerColumn hs hn h, hr]
      rfl
    refine ⟨⟨r.draft⟩, ⟨r.draft.push (.cellsPerColumn 1)⟩, rows, rfl, ?_, rfl, ?_, fun n h => ?_, ?_⟩
    · exact congrArg (Except.mapError _) hread
    · exact congrArg (Except.mapError _) (hlimited 1 (by decide))
    · refine ⟨⟨r.draft.push (.cellsPerColumn n)⟩, ?_, congrArg (Except.mapError _) (hlimited n h)⟩
      simp only [call, Draft.perform, if_neg h]
      rfl
    · intro row hrow f hf c hc
      have hwf := (((Store.thinned_of_read hread hrow).left.families f hf).columns c hc)
      refine ⟨?_, hwf.cells_cut⟩
      have ⟨cell, cells, hcells⟩ := List.exists_cons_of_ne_nil hwf.filled
      exact ⟨cell, by rw [Column.cut, hcells]; rfl⟩
  case counts => exact Filter.counts_of_length_lt f (hn.length_filter_lt hs hkey)
  case filters =>
    have ht := Filter.thins_of_compile f hf key stored.entries
    have hchain : (Filter.chain [f, .cellsPerColumn n]).compile =
        .ok (.chain [sieve, .cellsPerColumn n]) := by
      rw [Filter.compile, Filter.compileAll, hf]
      rfl
    refine ⟨_, hchain, Sieve.firstOfRuns_sublist n none 0 _, fun x => ?_⟩
    refine Sieve.filter_cellsPerColumn n key (ht.pairwise stored.pairwise_entries) ?_
    exact (ht.length_filter_column_le x).trans_lt (hn.length_filter_lt hs hkey x)

-- One qualifier in neighbouring families, with an older version in each, and a row behind the limit.
theorem answer_cut_in_neighbouring_families :
    let ws : List Write := [⟨[1], "a", [7], ⟨5, [8], []⟩⟩, ⟨[1], "a", [7], ⟨6, [9], []⟩⟩,
      ⟨[1], "b", [7], ⟨4, [8], []⟩⟩, ⟨[1], "b", [7], ⟨3, [9], []⟩⟩, ⟨[2], "a", [7], ⟨2, [9], []⟩⟩]
    let r : Read (.narrow .column .many (.narrow .family .many (.rows .many))) :=
      ⟨⟨⟨"p", "i", "t"⟩, none, { limit := 1 }, [], none⟩⟩
    (Store.ofWrites ws).Countable ∧
    (∃ latest, r.call .latestCell rfl = .ok latest ∧
      (Adapter.memory.readRows latest.request ⟨.ofWrites ws, 0⟩).1 =
        .ok [⟨[1], [⟨"a", [⟨[7], [⟨6, [9], []⟩]⟩]⟩, ⟨"b", [⟨[7], [⟨4, [8], []⟩]⟩]⟩]⟩]) ∧
    ∃ stored, (Store.ofWrites ws).rows.find? [1] = some stored ∧
      Filter.Counts (.cellsPerColumn 1) [1] stored.entries := by
  intro ws r
  have hn : (Store.ofWrites ws).Countable := Store.countable_ofWrites (by decide)
  have ⟨hreads, hfilters⟩ := answer_cut_to_latest ws 0 hn
  refine ⟨hn, ?latest, ?counts⟩
  case latest =>
    obtain ⟨all, latest, rows, hall, hrows, hlatest, hcut, -⟩ := hreads _ _ r _ rfl
    cases hall
    have hread : (Adapter.memory.readRows r.request ⟨.ofWrites ws, 0⟩).1 =
        .ok [⟨[1], [⟨"a", [⟨[7], [⟨6, [9], []⟩, ⟨5, [8], []⟩]⟩]⟩,
          ⟨"b", [⟨[7], [⟨4, [8], []⟩, ⟨3, [9], []⟩]⟩]⟩]⟩] := by
      decide +kernel
    cases hread.symm.trans hrows
    exact ⟨latest, hlatest, hcut⟩
  case counts =>
    have hs : ((Store.ofWrites ws).rows.find? [1]).isSome := by decide +kernel
    have ⟨stored, hs⟩ := Option.isSome_iff_exists.mp hs
    exact ⟨stored, hs, (hfilters [1] stored hs (.cellsPerColumn 1)).left⟩

end Read
end WideTable
