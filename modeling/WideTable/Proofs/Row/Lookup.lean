import WideTable.Proofs.Filter.Thinning

namespace WideTable

open ByteKey

-- The parts of the one whose name is `k`, if names differ and label the parts.
theorem filter_flatMap_eq_find {α β κ : Type} [DecidableEq κ] {name : α → κ} {label : β → κ}
    {parts : α → List β} {l : List α} (hl : ∀ a ∈ l, ∀ b ∈ parts a, label b = name a)
    (hd : l.Pairwise fun a b => name a ≠ name b) (k : κ) :
    (l.flatMap parts).filter (label · = k) = (l.find? (name · = k)).elim [] parts := by
  -- The first with the name is the only one, so nothing that comes later is let through.
  induction l
  case nil => rfl
  case cons a l ih =>
    have ⟨ha, hd⟩ := List.pairwise_cons.mp hd
    have ih := ih (fun b hb => hl b (.tail _ hb)) hd
    rw [List.flatMap_cons, List.filter_append, ih, List.find?_cons]
    by_cases h : name a = k
    case pos =>
      have hparts : (parts a).filter (label · = k) = parts a :=
        List.filter_eq_self.mpr fun b hb => by simp [hl a (.head _) b hb, h]
      have hrest : l.find? (name · = k) = none :=
        List.find?_eq_none.mpr fun b hb => by simpa [h] using (ha b hb).symm
      simp [h, hparts, hrest]
    case neg =>
      have hparts : (parts a).filter (label · = k) = [] :=
        List.filter_eq_nil_iff.mpr fun b hb => by simp [hl a (.head _) b hb, h]
      simp [h, hparts]

namespace Column

variable {c : Column} {n : String}

theorem qualifier_of_mem_entries {e : Entry} (h : e ∈ c.entries n) : e.qualifier = c.qualifier := by
  have ⟨_, _, he⟩ := List.mem_map.mp h
  exact he ▸ rfl

theorem entries_mk_singleton (n : String) (c : Column) :
    (Family.mk n [c]).entries = c.entries n := by
  simp [Family.entries]

theorem WellFormed.family (h : c.WellFormed) (n : String) : (Family.mk n [c]).WellFormed :=
  ⟨by simp, by simp, by simpa using h⟩

theorem WellFormed.latest_eq_some_iff (h : c.WellFormed) {cell : Cell} :
    c.latest = some cell ↔ cell ∈ c.cells ∧ ∀ d ∈ c.cells, d.timestamp ≤ cell.timestamp := by
  have ⟨first, rest, hc⟩ := List.exists_cons_of_ne_nil h.filled
  have hl := h.latestFirst
  rw [latest, hc, List.head?_cons, Option.some_inj]
  rw [hc, List.pairwise_cons] at hl
  constructor
  case mp =>
    rintro rfl
    refine ⟨.head _, fun d hd => ?_⟩
    cases hd
    case head => exact Int64.le_refl _
    case tail hd => exact Int64.le_of_lt (hl.left d hd)
  case mpr =>
    rintro ⟨hm, hmax⟩
    cases hm
    case head => rfl
    case tail hm => exact absurd (hl.left cell hm) (Int64.not_lt.mpr (hmax first (.head _)))

-- However many versions a limit of one lets through, the latest is among them.
theorem WellFormed.firstOfRuns_one (h : c.WellFormed) (n : String) :
    ∃ d : Column, d.WellFormed ∧ d.latest = c.latest ∧
      Sieve.firstOfRuns 1 none 0 (c.entries n) = d.entries n := by
  obtain ⟨q, cells⟩ := c
  have ⟨cell, cells, hc⟩ := List.exists_cons_of_ne_nil h.filled
  subst hc
  have hs := Sieve.firstOfRuns_sublist 1 (some (n, q)) 1 ((Column.mk q cells).entries n)
  have ⟨rest, hr, he⟩ := List.sublist_map_iff.mp hs
  have hd : (Column.mk q (cell :: rest)).WellFormed :=
    ⟨List.cons_ne_nil _ _, h.latestFirst.sublist (hr.cons_cons cell)⟩
  exact ⟨_, hd, rfl, congrArg (Entry.mk n q cell :: ·) he⟩

end Column

namespace Family

variable {f : Family}

theorem WellFormed.apart (h : f.WellFormed) : Column.Apart f.columns where
  differ := h.ordered.isChain.imp fun _ _ hb => hb.ne
  filled := fun c hc => (h.columns c hc).filled

theorem WellFormed.entries_ne_nil (h : f.WellFormed) : f.entries ≠ [] := by
  have ⟨c, hc⟩ := List.exists_mem_of_ne_nil _ h.filled
  have ⟨cell, hm⟩ := List.exists_mem_of_ne_nil _ (h.columns c hc).filled
  exact List.ne_nil_of_mem (List.mem_flatMap.mpr ⟨c, hc, List.mem_map_of_mem hm⟩)

theorem WellFormed.row (h : f.WellFormed) (k : RowKey) : (Row.mk k [f]).WellFormed :=
  ⟨by simp, by simp, by simpa using h⟩

theorem WellFormed.filter_qualifier (h : f.WellFormed) (q : Qualifier) :
    f.entries.filter (·.qualifier = q) = (f.column q).elim [] (·.entries f.name) :=
  filter_flatMap_eq_find (fun _ _ _ he => Column.qualifier_of_mem_entries he)
    (h.ordered.imp fun hb => hb.ne) q

end Family

namespace Row

variable {r : Row} {f : String} {q : Qualifier} {g : Family} {c : Column}

theorem WellFormed.apart (h : r.WellFormed) : Family.Apart r.families where
  differ  := h.ordered.isChain.imp fun _ _ hb => hb.ne
  filled  := fun f hf => (h.families f hf).filled
  columns := fun f hf => (h.families f hf).apart

theorem WellFormed.ofEntries_entries (h : r.WellFormed) : ofEntries r.key r.entries = r := by
  rw [ofEntries, entries, Family.nest_flatMap_entries h.apart]

theorem WellFormed.entries_ne_nil (h : r.WellFormed) : r.entries ≠ [] := by
  have ⟨f, hf⟩ := List.exists_mem_of_ne_nil _ h.filled
  have ⟨e, he⟩ := List.exists_mem_of_ne_nil _ (h.families f hf).entries_ne_nil
  exact List.ne_nil_of_mem (List.mem_flatMap.mpr ⟨f, hf, he⟩)

theorem entries_mk_singleton (k : RowKey) (f : Family) : (Row.mk k [f]).entries = f.entries := by
  simp [entries]

theorem WellFormed.filter_family (h : r.WellFormed) (n : String) :
    r.entries.filter (·.family = n) = (r.family n).elim [] (·.entries) :=
  filter_flatMap_eq_find (fun _ _ _ he => Family.family_of_mem_entries he)
    (h.ordered.imp fun hb => hb.ne) n

theorem WellFormed.of_family (h : r.WellFormed) (hg : r.family f = some g) :
    g.WellFormed ∧ g.name = f :=
  ⟨h.families g (List.mem_of_find?_eq_some hg), by simpa using List.find?_some hg⟩

theorem WellFormed.of_column (h : r.WellFormed) (hc : (r.family f).bind (·.column q) = some c) :
    c.WellFormed ∧ c.qualifier = q := by
  have ⟨g, hg, hc⟩ := Option.bind_eq_some_iff.mp hc
  have hm := List.mem_of_find?_eq_some hc
  exact ⟨(h.of_family hg).left.columns c hm, by simpa using List.find?_some hc⟩

theorem WellFormed.filter_column (h : r.WellFormed) (f : String) (q : Qualifier) :
    (r.entries.filter (·.family = f)).filter (·.qualifier = q) =
      ((r.family f).bind (·.column q)).elim [] (·.entries f) := by
  rw [h.filter_family]
  cases hg : r.family f
  case none => rfl
  case some g =>
    have ⟨hwf, hn⟩ := h.of_family hg
    exact hn ▸ hwf.filter_qualifier q

theorem WellFormed.mem_family (h : r.WellFormed) {e : Entry} :
    e ∈ (r.family f).elim [] (·.entries) ↔ e ∈ r.entries ∧ e.family = f := by
  rw [← h.filter_family, List.mem_filter, decide_eq_true_iff]

theorem WellFormed.mem_column (h : r.WellFormed) {cell : Cell} :
    cell ∈ ((r.family f).bind (·.column q)).elim [] (·.cells) ↔ ⟨f, q, cell⟩ ∈ r.entries := by
  have he : ⟨f, q, cell⟩ ∈ ((r.family f).bind (·.column q)).elim [] (·.entries f) ↔
      ⟨f, q, cell⟩ ∈ r.entries := by
    rw [← h.filter_column]
    simp
  rw [← he]
  cases hc : (r.family f).bind (·.column q)
  case none => simp
  case some c =>
    have ⟨_, hq⟩ := h.of_column hc
    simp [Column.entries, hq]

end Row
end WideTable
