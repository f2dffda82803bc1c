import WideTable.Proofs.Filter.Chain
import WideTable.Proofs.Read.Narrowing
import WideTable.Proofs.Row.Cut
import WideTable.Proofs.Store.Response

namespace WideTable

open ByteKey

theorem length_le_one_of_pairwise {α : Type} {R : α → α → Prop} {l : List α} (h : l.Pairwise R)
    (hn : ∀ a ∈ l, ∀ b ∈ l, ¬R a b) : l.length ≤ 1 := by
  rcases l with _ | ⟨a, _ | ⟨b, l⟩⟩
  case nil | cons.nil => simp
  case cons.cons =>
    have hab := (List.pairwise_cons.mp h).left b (.head _)
    exact absurd hab (hn a (.head _) b (.tail _ (.head _)))

theorem sublist_flatMap_of_mem {α β : Type} {l : List α} {a : α} (h : a ∈ l) (f : α → List β) :
    (f a).Sublist (l.flatMap f) :=
  List.sublist_flatten_of_mem (List.mem_map_of_mem h)

theorem length_limited_le {n : Nat} (hn : n ≠ 0) (rows : List Row) : (limited n rows).length ≤ n := by
  rw [limited, if_neg hn]
  exact List.length_take_le n rows

namespace Row

variable {r : Row} {f : Family} {c : Column}

theorem mem_entries_of_mem (hf : f ∈ r.families) (hc : c ∈ f.columns) {cell : Cell}
    (h : cell ∈ c.cells) : ⟨f.name, c.qualifier, cell⟩ ∈ r.entries :=
  List.mem_flatMap.mpr ⟨f, hf, List.mem_flatMap.mpr ⟨c, hc, List.mem_map_of_mem h⟩⟩

theorem WellFormed.length_families_le_one (h : r.WellFormed) {n : String}
    (hn : ∀ e ∈ r.entries, e.family = n) : r.families.length ≤ 1 := by
  have hname : ∀ f ∈ r.families, f.name = n := by
    intro f hf
    have ⟨e, he⟩ := List.exists_mem_of_ne_nil _ (h.families f hf).entries_ne_nil
    exact (Family.family_of_mem_entries he).symm.trans (hn e (List.mem_flatMap.mpr ⟨f, hf, he⟩))
  refine length_le_one_of_pairwise h.ordered fun f hf g hg hb => hb.ne ?_
  rw [hname f hf, hname g hg]

theorem WellFormed.length_columns_le_one (h : r.WellFormed) {q : Qualifier}
    (hq : ∀ e ∈ r.entries, e.qualifier = q) (hf : f ∈ r.families) : f.columns.length ≤ 1 := by
  have hwf := h.families f hf
  have hname : ∀ c ∈ f.columns, c.qualifier = q := by
    intro c hc
    have ⟨cell, hm⟩ := List.exists_mem_of_ne_nil _ (hwf.columns c hc).filled
    exact hq _ (mem_entries_of_mem hf hc hm)
  refine length_le_one_of_pairwise hwf.ordered fun c hc d hd hb => hb.ne ?_
  rw [hname c hc, hname d hd]

theorem length_cells_le (hf : f ∈ r.families) (hc : c ∈ f.columns) :
    c.cells.length ≤ (r.entries.filter (·.column = (f.name, c.qualifier))).length := by
  have hs : (c.entries f.name).Sublist r.entries :=
    (sublist_flatMap_of_mem hc (·.entries f.name)).trans (sublist_flatMap_of_mem hf (·.entries))
  have hall : (c.entries f.name).filter (·.column = (f.name, c.qualifier)) = c.entries f.name := by
    simp [List.filter_eq_self, Column.entries, Entry.column]
  have hlen := (hs.filter (·.column = (f.name, c.qualifier))).length_le
  rw [hall] at hlen
  simpa [Column.entries] using hlen

end Row

theorem Versions.length_place_le (c : Cell) (cs : List Cell) :
    (place c cs).length ≤ cs.length + 1 := by
  induction cs
  case nil => simp [place]
  case cons d ds ih =>
    rw [place]
    split
    case isTrue => exact Nat.le_refl _
    case isFalse => split <;> simp [ih]

namespace Store

-- No column has more versions than a limit can count.
def Countable (s : Store) : Prop :=
  ∀ k f q, ∀ versions ∈ s.column? k f q, versions.cells.length < UInt32.size

-- A write adds no more than one version.
theorem length_cells_le_of_column? (ws : List Write) {k : RowKey} {f : String} {q : Qualifier} :
    ∀ versions ∈ (ofWrites ws).column? k f q, versions.cells.length ≤ ws.length := by
  induction ws using List.reverseRecOn
  case nil => nofun
  case append_singleton ws w ih =>
    intro versions hv
    have hw : ofWrites (ws ++ [w]) = (ofWrites ws).insert w := by simp [ofWrites]
    rw [hw, column?_insert] at hv
    rw [List.length_append, List.length_singleton]
    split at hv
    case isFalse => exact (ih versions hv).trans (Nat.le_succ _)
    case isTrue =>
      cases hv
      refine (Versions.length_place_le w.cell _).trans (Nat.succ_le_succ ?_)
      cases hc : (ofWrites ws).column? k f q
      case none => exact Nat.zero_le _
      case some present => exact ih present hc

theorem countable_ofWrites {ws : List Write} (h : ws.length < UInt32.size) :
    (ofWrites ws).Countable :=
  fun _ _ _ versions hv => (length_cells_le_of_column? ws versions hv).trans_lt h

variable {s : Store} {r : Request} {rows : List Row} {row : Row}

theorem filter_column (hs : s.Occupied) {k : RowKey} {stored : StoredRow}
    (h : s.rows.find? k = some stored) (f : String) (q : Qualifier) :
    stored.entries.filter (·.column = (f, q)) =
      (s.column? k f q).elim [] fun versions => (Column.mk q versions.cells).entries f := by
  have hrow : s.row? k = some ⟨k, stored.families⟩ := congrArg (Option.map _) h
  have hcol := s.column_row? k f q
  rw [hrow, Option.bind_some] at hcol
  rw [StoredRow.entries_eq]
  refine (((hs k stored h).wellFormed k).filter_eq_column (f, q)).trans ?_
  rw [hcol]
  cases s.column? k f q <;> rfl

theorem Countable.length_filter_lt (hn : s.Countable) (hs : s.Occupied) {k : RowKey}
    {stored : StoredRow} (h : s.rows.find? k = some stored) (x : String × Qualifier) :
    (stored.entries.filter (·.column = x)).length < UInt32.size := by
  rw [filter_column hs h x.1 x.2]
  cases hv : s.column? k x.1 x.2
  case none => exact Nat.zero_lt_of_ne_zero nofun
  case some versions => simpa [Column.entries] using hn k x.1 x.2 versions hv

theorem length_le_limit (h : s.read r = .ok rows) (hl : r.limit ≠ 0) : rows.length ≤ r.limit := by
  rw [read_eq] at h
  cases hf : Filter.compileOptional r.filter <;> rw [hf] at h <;> cases h
  exact length_limited_le hl _

-- What a filter of a chain is given, and what it leaves, on the way from a stored row to its answer.
theorem exists_between (h : s.read r = .ok rows) {fs : List Filter}
    (hr : r.filter = Filter.collapse? fs) {f : Filter} (hf : f ∈ fs) (hrow : row ∈ rows) :
    ∃ sieve stored before, f.compile = .ok sieve ∧ s.rows.find? row.key = some stored ∧
      Thinned (fs.any Filter.strips) (StoredRow.entries stored) before ∧
      Thinned (fs.any Filter.strips) (sieve row.key before) row.entries := by
  have ⟨_, hc, hs⟩ := sublist_of_read h
  rw [hr] at hc
  obtain ⟨sieves, hall, rfl⟩ := Filter.compileOptional_collapse?_eq_ok.mp hc
  have ⟨sieve, hsieve, hbetween⟩ := Filter.exists_between hall hf
  have ⟨(key, stored), hm, hrow⟩ := List.mem_filterMap.mp (hs.subset hrow)
  have ⟨before, hb, ha⟩ := hbetween key stored.entries
  rw [Sieve.entries_of_row? hrow, Sieve.key_of_row? hrow]
  exact ⟨sieve, stored, before, hsieve, SortedMap.mem_entries.mp hm, hb, ha⟩

-- An exact filter leaves nothing but what it asks for.
theorem content_of_exact (h : s.read r = .ok rows) {fs : List Filter}
    (hr : r.filter = Filter.collapse? fs) {field : Field} (hv : field ≠ .value) {l : Bytes}
    (hf : .exact field l ∈ fs) (hrow : row ∈ rows) :
    ∀ e ∈ row.entries, field.content row.key e = l := by
  have ⟨sieve, _, before, hc, _, _, ha⟩ := exists_between h hr hf hrow
  refine ha.forall_mem (fun e he => ?_) fun e he => ?_
  · cases field
    case value => contradiction
    all_goals exact he
  · rw [Filter.eq_only_of_compile hc] at he
    exact of_decide_eq_true (List.mem_filter.mp he).right

theorem length_cells_of_cellsPerColumn (hn : s.Countable) (hs : s.Occupied)
    (h : s.read r = .ok rows) {fs : List Filter} (hr : r.filter = Filter.collapse? fs)
    {limit : UInt32} (hf : .cellsPerColumn limit ∈ fs) (hrow : row ∈ rows) {f : Family}
    (hfam : f ∈ row.families) {c : Column} (hcol : c ∈ f.columns) :
    c.cells.length ≤ limit.toNat := by
  have ⟨sieve, stored, before, hc, hst, hb, ha⟩ := exists_between h hr hf hrow
  cases hc
  have hordered := hb.pairwise (StoredRow.pairwise_entries stored)
  have hcount := (hb.length_filter_column_le (f.name, c.qualifier)).trans_lt
    (hn.length_filter_lt hs hst (f.name, c.qualifier))
  calc c.cells.length
    _ ≤ (row.entries.filter (·.column = (f.name, c.qualifier))).length :=
      Row.length_cells_le hfam hcol
    _ ≤ ((Sieve.cellsPerColumn limit row.key before).filter
          (·.column = (f.name, c.qualifier))).length := ha.length_filter_column_le _
    _ ≤ limit.toNat := by
      rw [Sieve.filter_cellsPerColumn limit row.key hordered hcount]
      exact List.length_take_le _ _

end Store

end WideTable
