import WideTable.Proofs.Read.Bounds
import WideTable.Proofs.Read.Exhaustion
import WideTable.Proofs.Read.Reached

namespace WideTable

namespace Read

variable {table : TableName} {profile : Option String} {e : Start} {calls : List Call} {s : State}
  {r : Read s}

namespace Reached

theorem limit_eq_one (h : Reached table profile e calls r) (hs : s.base = .one) :
    r.request.limit = 1 := by
  have hsel : r.request.limit = e.selector.limit := congrArg Selector.limit (h.selector_eq hs)
  rw [h.base] at hs
  rw [hsel]
  cases e
  case row => rfl
  all_goals cases hs

theorem fits (h : Reached table profile e calls r) {st : Store} (hn : st.Countable)
    (hs : st.Occupied) {rows : List Row} (hr : st.read r.request = .ok rows) : s.Fits rows where
  row hb := by
    have hl := h.limit_eq_one hb
    exact hl ▸ Store.length_le_limit hr (hl ▸ Nat.one_ne_zero)
  family ht row hrow := by
    have ⟨c, hc, hk⟩ := h.exists_toOne ht
    cases c <;> cases hk
    case family name =>
      have hm : .exact .family (Bytes.ofText name) ∈ r.draft.filters := h.mem_filters hc (.head _)
      have hf := Store.content_of_exact hr rfl (by decide) hm hrow
      exact (Store.thinned_of_read hr hrow).left.length_families_le_one fun e he =>
        Bytes.ofText_inj.mp (hf e he)
  column ht row hrow f hfam := by
    have ⟨c, hc, hk⟩ := h.exists_toOne ht
    cases c <;> cases hk
    case column q =>
      have hm : .exact .qualifier q ∈ r.draft.filters := h.mem_filters hc (.head _)
      have hf := Store.content_of_exact hr rfl (by decide) hm hrow
      exact (Store.thinned_of_read hr hrow).left.length_columns_le_one hf hfam
  cell ht row hrow f hfam c hcol := by
    have ⟨c, hc, hk⟩ := h.exists_toOne ht
    cases c <;> cases hk
    case latestCell =>
      exact Store.length_cells_of_cellsPerColumn hn hs hr rfl (h.mem_filters hc (.head _)) hrow
        hfam hcol

end Reached

theorem cells_execute (h : Reached table profile e calls r) (ws : List Write) (reads : Nat)
    (hn : (Store.ofWrites ws).Countable) {v : s.Output}
    (hv : (r.execute .memory ⟨.ofWrites ws, reads⟩).1 = .ok v) :
    if r.request.rows.isEmptyKeys then s.shape.cells v = []
    else ∃ rows, (Adapter.memory.readRows r.request ⟨.ofWrites ws, reads⟩).1 = .ok rows ∧
      v = s.project rows ∧ s.Exhausts rows ∧ s.shape.cells v = rows.flatMap Row.cells := by
  rw [execute_memory] at hv
  split at hv <;> rename_i hk
  case isTrue =>
    cases hv
    have hf : s.Fits [] := ⟨by simp, by simp, by simp, by simp⟩
    rw [if_pos hk]
    exact (hf.exhausts h.typed).cells_project h.typed
  case isFalse =>
    rw [if_neg hk]
    cases hr : (Store.ofWrites ws).read r.request <;> rw [hr] at hv <;> cases hv
    case ok rows =>
      have he := (h.fits hn (Store.occupied_ofWrites ws) hr).exhausts h.typed
      refine ⟨rows, congrArg (Except.mapError AdapterError.pattern) hr, rfl, he, ?_⟩
      exact he.cells_project h.typed

-- The older one of two versions is left out by the filters, and not by the projection.
theorem cells_execute_latest :
    let ws : List Write := [⟨[1], "f", [7], ⟨5, [8], []⟩⟩, ⟨[1], "f", [7], ⟨6, [9], []⟩⟩]
    let filters : List Filter :=
      [.exact .family (Bytes.ofText "f"), .exact .qualifier [7], .cellsPerColumn 1]
    let latest : Read .oneCell :=
      ⟨⟨⟨"p", "i", "t"⟩, none, (Start.row [1]).selector, filters, some "f"⟩⟩
    let v : State.oneCell.Output := some ⟨6, [9], []⟩
    Reached ⟨"p", "i", "t"⟩ none (.row [1]) [.family "f", .column [7], .latestCell] latest ∧
    (Store.ofWrites ws).Countable ∧
    (latest.execute .memory ⟨.ofWrites ws, 0⟩).1 = .ok v ∧
    ∃ rows, (Adapter.memory.readRows latest.request ⟨.ofWrites ws, 0⟩).1 = .ok rows ∧
      v = State.oneCell.project rows ∧ State.oneCell.Exhausts rows ∧
      State.oneCell.shape.cells v = rows.flatMap Row.cells := by
  intro ws filters latest v
  have hr : Reached ⟨"p", "i", "t"⟩ none (.row [1]) [.family "f", .column [7], .latestCell] latest :=
    .call rfl (.call rfl (.call rfl .start rfl) rfl) rfl
  have hn : (Store.ofWrites ws).Countable := Store.countable_ofWrites (by decide)
  have hread : (Store.ofWrites ws).read latest.request =
      .ok [⟨[1], [⟨"f", [⟨[7], [⟨6, [9], []⟩]⟩]⟩]⟩] := by
    decide +kernel
  have hv : (latest.execute .memory ⟨.ofWrites ws, 0⟩).1 = .ok v := by
    rw [execute_memory, hread]
    rfl
  exact ⟨hr, hn, hv, cells_execute hr ws 0 hn hv⟩

end Read
end WideTable
