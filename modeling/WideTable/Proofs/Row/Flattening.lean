import WideTable.Proofs.Store.Stored

namespace WideTable

namespace Column

variable {q : Qualifier} {cell : Cell} {c : Column} {cs : List Column}

-- Puts a cell at the end, into the last column if that has its qualifier.
-- Nesting can go through the entries in their order: each of them only concerns the last family and the
-- last column in it.
def extend (cs : List Column) (q : Qualifier) (cell : Cell) : List Column :=
  match cs.getLast? with
  | none => [⟨q, [cell]⟩]
  | some c =>
    if c.qualifier = q then cs.dropLast ++ [⟨q, c.cells ++ [cell]⟩] else cs ++ [⟨q, [cell]⟩]

theorem extend_concat (cs : List Column) (c : Column) (q : Qualifier) (cell : Cell) :
    extend (cs ++ [c]) q cell =
      if c.qualifier = q then cs ++ [⟨q, c.cells ++ [cell]⟩] else cs ++ [c] ++ [⟨q, [cell]⟩] := by
  simp [extend]

theorem extend_ne_nil (cs : List Column) (q : Qualifier) (cell : Cell) : extend cs q cell ≠ [] := by
  cases cs using List.reverseRecOn
  case nil => simp [extend]
  case append_singleton => rw [extend_concat]; split <;> simp

theorem flatMap_entries_extend (name : String) (cs : List Column) (q : Qualifier) (cell : Cell) :
    (extend cs q cell).flatMap (·.entries name) = cs.flatMap (·.entries name) ++ [⟨name, q, cell⟩] := by
  cases cs using List.reverseRecOn
  case nil => rfl
  case append_singleton cs c =>
    rw [extend_concat]
    split
    case isTrue h => simp [entries, h]
    case isFalse => simp [entries]

-- Only what stands last can stand next to what is added.
theorem apart_concat_iff :
    Apart (cs ++ [c]) ↔
      Apart cs ∧ c.cells ≠ [] ∧ ∀ d ∈ cs.getLast?, d.qualifier ≠ c.qualifier where
  mp h := by
    have ⟨hd, _, hl⟩ := List.isChain_append.mp h.differ
    exact ⟨⟨hd, fun d hm => h.filled d (by simp [hm])⟩, h.filled c (by simp),
      fun d hm => hl d hm c rfl⟩
  mpr h := by
    have ⟨hcs, hc, hl⟩ := h
    refine ⟨List.isChain_append.mpr ⟨hcs.differ, .singleton c, by simpa using hl⟩, ?_⟩
    simpa [or_imp, forall_and] using ⟨hcs.filled, hc⟩

theorem Apart.extend (h : Apart cs) (q : Qualifier) (cell : Cell) : Apart (extend cs q cell) := by
  cases cs using List.reverseRecOn
  case nil => exact ⟨.singleton _, by simp [Column.extend]⟩
  case append_singleton cs c =>
    have ⟨hcs, _, hl⟩ := apart_concat_iff.mp h
    rw [extend_concat]
    split
    case isTrue hq => exact apart_concat_iff.mpr ⟨hcs, by simp, hq ▸ hl⟩
    case isFalse hq => exact apart_concat_iff.mpr ⟨h, by simp, by simpa using hq⟩

end Column

namespace Family

variable {e : Entry} {f : Family} {fs : List Family} {es : List Entry}

-- Puts an entry at the end, into the last family if that has its name.
def extend (fs : List Family) (e : Entry) : List Family :=
  match fs.getLast? with
  | none => [⟨e.family, [⟨e.qualifier, [e.cell]⟩]⟩]
  | some f =>
    if f.name = e.family then
      fs.dropLast ++ [⟨e.family, Column.extend f.columns e.qualifier e.cell⟩]
    else
      fs ++ [⟨e.family, [⟨e.qualifier, [e.cell]⟩]⟩]

theorem extend_concat (fs : List Family) (f : Family) (e : Entry) :
    extend (fs ++ [f]) e =
      if f.name = e.family then fs ++ [⟨e.family, Column.extend f.columns e.qualifier e.cell⟩]
      else fs ++ [f] ++ [⟨e.family, [⟨e.qualifier, [e.cell]⟩]⟩] := by
  simp [extend]

theorem flatMap_entries_extend (fs : List Family) (e : Entry) :
    (extend fs e).flatMap (·.entries) = fs.flatMap (·.entries) ++ [e] := by
  cases fs using List.reverseRecOn
  case nil => rfl
  case append_singleton fs f =>
    rw [extend_concat]
    split
    case isTrue h => simp [entries, Column.flatMap_entries_extend, h]
    case isFalse => simp [entries, Column.entries]

theorem apart_concat_iff :
    Apart (fs ++ [f]) ↔
      Apart fs ∧ f.columns ≠ [] ∧ Column.Apart f.columns ∧ ∀ g ∈ fs.getLast?, g.name ≠ f.name where
  mp h := by
    have ⟨hd, _, hl⟩ := List.isChain_append.mp h.differ
    have hfs : Apart fs :=
      ⟨hd, fun g hm => h.filled g (by simp [hm]), fun g hm => h.columns g (by simp [hm])⟩
    exact ⟨hfs, h.filled f (by simp), h.columns f (by simp), fun g hm => hl g hm f rfl⟩
  mpr h := by
    have ⟨hfs, hf, hc, hl⟩ := h
    refine ⟨List.isChain_append.mpr ⟨hfs.differ, .singleton f, by simpa using hl⟩, ?_, ?_⟩
    · simpa [or_imp, forall_and] using ⟨hfs.filled, hf⟩
    · simpa [or_imp, forall_and] using ⟨hfs.columns, hc⟩

theorem Apart.extend (h : Apart fs) (e : Entry) : Apart (extend fs e) := by
  have hone : Column.Apart [⟨e.qualifier, [e.cell]⟩] := ⟨.singleton _, by simp⟩
  cases fs using List.reverseRecOn
  case nil => exact ⟨.singleton _, by simp [Family.extend], by simpa [Family.extend] using hone⟩
  case append_singleton fs f =>
    have ⟨hfs, _, hc, hl⟩ := apart_concat_iff.mp h
    rw [extend_concat]
    split
    case isTrue hn =>
      exact apart_concat_iff.mpr ⟨hfs, Column.extend_ne_nil _ _ _, hc.extend _ _, hn ▸ hl⟩
    case isFalse hn => exact apart_concat_iff.mpr ⟨h, by simp, hone, by simpa using hn⟩

-- What is apart is known by its entries.
theorem apart_iff_nest : Apart fs ↔ nest (fs.flatMap (·.entries)) = fs where
  mp    := nest_flatMap_entries
  mpr h := h ▸ apart_nest _

theorem foldl_extend (es : List Entry) :
    Apart (es.foldl extend []) ∧ (es.foldl extend []).flatMap (·.entries) = es := by
  induction es using List.reverseRecOn
  case nil => exact ⟨⟨.nil, by simp, by simp⟩, rfl⟩
  case append_singleton es e ih =>
    rw [List.foldl_concat, flatMap_entries_extend, ih.right]
    exact ⟨ih.left.extend e, rfl⟩

theorem nest_eq_foldl (es : List Entry) : nest es = es.foldl extend [] := by
  have ⟨ha, he⟩ := foldl_extend es
  conv_lhs => rw [← he]
  exact nest_flatMap_entries ha

end Family

theorem StoredRow.Occupied.ofEntries {r : StoredRow} (h : r.Occupied) (k : RowKey) :
    Row.ofEntries k (StoredRow.entries r) = ⟨k, StoredRow.families r⟩ := by
  rw [Row.ofEntries, StoredRow.entries_eq, Family.nest_flatMap_entries h.apart]

-- Rows that are apart and lists of entries are the same thing twice, and what is in a store is apart.
theorem Row.nest_inverse_flatten (k : RowKey) (es : List Entry) (ws : List Write) :
    (ofEntries k es = ⟨k, es.foldl Family.extend []⟩ ∧ (ofEntries k es).entries = es ∧
        Family.Apart (ofEntries k es).families) ∧
      (∀ r : Row, Family.Apart r.families ↔ ofEntries r.key r.entries = r) ∧
      ((Store.ofWrites ws).rows.find? k).map (fun r => ofEntries k (StoredRow.entries r)) =
        (Store.ofWrites ws).row? k := by
  refine ⟨⟨?_, entries_ofEntries k es, Family.apart_nest es⟩, fun r => ?_, ?_⟩
  case refine_1 => rw [ofEntries, Family.nest_eq_foldl]
  case refine_2 =>
    obtain ⟨k, fs⟩ := r
    simp [ofEntries, entries, Family.apart_iff_nest]
  case refine_3 =>
    refine Option.map_congr fun r hr => ?_
    exact (Store.occupied_ofWrites ws k r hr).ofEntries k

end WideTable
