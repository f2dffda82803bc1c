import WideTable.Proofs.Row.Nesting
import WideTable.Store.Basic

namespace WideTable

open ByteKey

structure Column.WellFormed (c : Column) : Prop where
  filled      : c.cells ≠ []
  latestFirst : c.cells.Pairwise fun a b => b.timestamp < a.timestamp

structure Family.WellFormed (f : Family) : Prop where
  filled  : f.columns ≠ []
  ordered : f.columns.Pairwise fun a b => Before a.qualifier b.qualifier
  columns : ∀ c ∈ f.columns, c.WellFormed

structure Row.WellFormed (r : Row) : Prop where
  filled   : r.families ≠ []
  ordered  : r.families.Pairwise fun a b => Before a.name b.name
  families : ∀ f ∈ r.families, f.WellFormed

namespace Entry

-- By family, then by qualifier, then the latest first.
def Before (a b : Entry) : Prop :=
  ByteKey.Before a.family b.family ∨
    a.family = b.family ∧
      (ByteKey.Before a.qualifier b.qualifier ∨
        a.qualifier = b.qualifier ∧ b.cell.timestamp < a.cell.timestamp)

variable {f : String} {q : Qualifier} {c d : Cell} {a b : Entry}

theorem before_in_column : Before ⟨f, q, c⟩ ⟨f, q, d⟩ ↔ d.timestamp < c.timestamp := by
  simp [Before, ByteKey.Before.irrefl]

theorem Before.family (h : Before a b) : ByteKey.Before a.family b.family ∨ a.family = b.family :=
  h.imp_right And.left

theorem Before.qualifier (h : Before a b) (hf : a.family = b.family) :
    ByteKey.Before a.qualifier b.qualifier ∨ a.qualifier = b.qualifier := by
  cases h
  case inl h => exact absurd hf h.ne
  case inr h => exact h.right.imp_right And.left

theorem Before.irrefl (a : Entry) : ¬a.Before a := by
  rintro (h | ⟨_, h | ⟨_, h⟩⟩)
  · exact ByteKey.Before.irrefl _ h
  · exact ByteKey.Before.irrefl _ h
  · exact Int64.lt_irrefl h

theorem Before.asymm (h : a.Before b) : ¬b.Before a := by
  rcases h with hf | ⟨hf, hq | ⟨hq, ht⟩⟩ <;> rintro (hf' | ⟨hf', hq' | ⟨hq', ht'⟩⟩)
  · exact hf.asymm hf'
  · exact hf.ne hf'.symm
  · exact hf.ne hf'.symm
  · exact hf'.ne hf.symm
  · exact hq.asymm hq'
  · exact hq.ne hq'.symm
  · exact hf'.ne hf.symm
  · exact hq'.ne hq.symm
  · exact Int64.lt_asymm ht ht'

instance : Std.Irrefl Before where
  irrefl := Before.irrefl

instance : Std.Antisymm Before where
  antisymm _ _ h h' := absurd h' h.asymm

end Entry

-- Names that never descend ascend where neighbours differ.
theorem ByteKey.pairwise_before {α κ : Type} [ByteKey κ] {name : α → κ} {l : List α}
    (hd : l.IsChain fun a b => name a ≠ name b)
    (ha : l.Pairwise fun a b => Before (name a) (name b) ∨ name a = name b) :
    l.Pairwise fun a b => Before (name a) (name b) := by
  induction l
  case nil => exact .nil
  case cons a l ih =>
    have ⟨hn, hd⟩ := List.isChain_cons.mp hd
    have ⟨hp, ha⟩ := List.pairwise_cons.mp ha
    have ih := ih hd ha
    refine List.pairwise_cons.mpr ⟨?_, ih⟩
    cases l with
    | nil => simp
    | cons b l =>
      have hb : Before (name a) (name b) := (hp b (.head _)).resolve_right (hn b rfl)
      intro c hc
      cases hc
      case head => exact hb
      case tail hc => exact hb.trans ((List.pairwise_cons.mp ih).left c hc)

namespace Column

variable {n : String} {cs : List Column}

theorem Apart.ordered (h : Apart cs) (hb : (cs.flatMap (·.entries n)).Pairwise Entry.Before) :
    cs.Pairwise fun a b => Before a.qualifier b.qualifier := by
  have ⟨_, hb⟩ := List.pairwise_flatMap.mp hb
  refine pairwise_before h.differ (hb.imp_of_mem fun {a b} ha hb hab => ?_)
  -- Each column has an entry that stands for it.
  have ⟨c, _, hc⟩ := List.exists_cons_of_ne_nil (h.filled a ha)
  have ⟨d, _, hd⟩ := List.exists_cons_of_ne_nil (h.filled b hb)
  exact (hab ⟨n, a.qualifier, c⟩ (by simp [entries, hc]) ⟨n, b.qualifier, d⟩
    (by simp [entries, hd])).qualifier rfl

theorem Apart.wellFormed (h : Apart cs) (hb : (cs.flatMap (·.entries n)).Pairwise Entry.Before) :
    ∀ c ∈ cs, c.WellFormed := by
  intro c hc
  refine ⟨h.filled c hc, ?_⟩
  have hce := (List.pairwise_flatMap.mp hb).left c hc
  simpa only [entries, List.pairwise_map, Entry.before_in_column] using hce

end Column

namespace Family

variable {f : Family} {fs : List Family}

theorem Apart.exists_entry (h : Apart fs) (hf : f ∈ fs) : ∃ e ∈ f.entries, e.family = f.name := by
  have ⟨c, cs, hc⟩ := List.exists_cons_of_ne_nil (h.filled f hf)
  have ⟨d, ds, hd⟩ := List.exists_cons_of_ne_nil ((h.columns f hf).filled c (by simp [hc]))
  exact ⟨⟨f.name, c.qualifier, d⟩, by simp [entries, Column.entries, hc, hd], rfl⟩

theorem family_of_mem_entries {e : Entry} (h : e ∈ f.entries) : e.family = f.name := by
  simp only [entries, Column.entries, List.mem_flatMap, List.mem_map] at h
  obtain ⟨_, _, _, _, he⟩ := h
  exact he ▸ rfl

theorem Apart.ordered (h : Apart fs) (hb : (fs.flatMap (·.entries)).Pairwise Entry.Before) :
    fs.Pairwise fun a b => Before a.name b.name := by
  have ⟨_, hb⟩ := List.pairwise_flatMap.mp hb
  refine pairwise_before h.differ (hb.imp_of_mem fun {a b} ha hb hab => ?_)
  have ⟨e, he, hen⟩ := h.exists_entry ha
  have ⟨d, hd, hdn⟩ := h.exists_entry hb
  exact hen ▸ hdn ▸ (hab e he d hd).family

theorem Apart.wellFormed (h : Apart fs) (hb : (fs.flatMap (·.entries)).Pairwise Entry.Before) :
    ∀ f ∈ fs, f.WellFormed := by
  intro f hf
  have hfe := (List.pairwise_flatMap.mp hb).left f hf
  have hc := h.columns f hf
  exact ⟨h.filled f hf, hc.ordered hfe, hc.wellFormed hfe⟩

end Family

namespace Row

variable {es : List Entry}

theorem wellFormed_ofEntries (key : RowKey) (hn : es ≠ []) (hb : es.Pairwise Entry.Before) :
    (ofEntries key es).WellFormed := by
  have ha := Family.apart_nest es
  have he := entries_ofEntries key es
  rw [entries] at he
  have hb' : ((ofEntries key es).families.flatMap (·.entries)).Pairwise Entry.Before := by rwa [he]
  refine ⟨fun hf => hn ?_, ha.ordered hb', ha.wellFormed hb'⟩
  simpa [hf] using he.symm

end Row

namespace StoredRow

theorem pairwise_entries (r : StoredRow) : r.entries.Pairwise Entry.Before := by
  simp only [entries, List.pairwise_flatMap, List.pairwise_map, Entry.before_in_column]
  refine ⟨fun (f, columns) _ => ⟨fun (_, versions) _ => versions.latestFirst, ?columns⟩, ?families⟩
  case columns =>
    refine columns.sorted.imp fun hq x hx y hy => ?_
    have ⟨_, _, hx⟩ := List.mem_map.mp hx
    have ⟨_, _, hy⟩ := List.mem_map.mp hy
    exact hx ▸ hy ▸ .inr ⟨rfl, .inl hq⟩
  case families =>
    refine r.sorted.imp fun hf x hx y hy => ?_
    have ⟨_, _, hx⟩ := List.mem_flatMap.mp hx
    have ⟨_, _, hy⟩ := List.mem_flatMap.mp hy
    have ⟨_, _, hx⟩ := List.mem_map.mp hx
    have ⟨_, _, hy⟩ := List.mem_map.mp hy
    exact hx ▸ hy ▸ .inl hf

end StoredRow
end WideTable
