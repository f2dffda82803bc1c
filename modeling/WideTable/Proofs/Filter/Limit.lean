import WideTable.Proofs.Filter.Thinning

namespace WideTable

namespace Entry

def column (e : Entry) : String × Qualifier :=
  (e.family, e.qualifier)

variable {a b c : Entry}

-- A column does not come back after another one.
theorem Before.column_ne (hab : a.Before b) (hbc : b.Before c) (h : b.column ≠ a.column) :
    c.column ≠ a.column := by
  intro hc
  simp only [column, Prod.mk.injEq, ne_eq] at h hc
  rcases hab with hf | ⟨hf, hq | ⟨hq, _⟩⟩
  · rcases hbc.family with hf' | hf'
    · exact hf.asymm (hc.left ▸ hf')
    · exact hf.ne (hf'.trans hc.left).symm
  · rcases hbc.qualifier (hf.symm.trans hc.left.symm) with hq' | hq'
    · exact hq.asymm (hc.right ▸ hq')
    · exact hq.ne (hq'.trans hc.right).symm
  · exact h ⟨hf.symm, hq.symm⟩

-- Lists of entries in order are equal if they are so column by column.
theorem eq_of_filter_column {es fs : List Entry} (he : es.Pairwise Before)
    (hf : fs.Pairwise Before)
    (h : ∀ x, es.filter (·.column = x) = fs.filter (·.column = x)) : es = fs := by
  refine he.eq_of_mem_iff hf fun e => ?_
  have hm : e ∈ es.filter (·.column = e.column) ↔ e ∈ fs.filter (·.column = e.column) := by
    rw [h]
  simpa [List.mem_filter] using hm

end Entry

theorem Thinned.length_filter_column_le {stripping : Bool} {es fs : List Entry}
    (h : Thinned stripping es fs) (x : String × Qualifier) :
    (fs.filter (·.column = x)).length ≤ (es.filter (·.column = x)).length := by
  have ⟨kept, hk, hf⟩ := h
  have hlen := (hk.filter (·.column = x)).length_le
  rcases hf with rfl | ⟨_, rfl⟩
  · exact hlen
  · have hs : (fun e : Entry => decide (e.column = x)) ∘ Entry.strip = (decide <| ·.column = x) := rfl
    rwa [List.filter_map, hs, List.length_map]

namespace Sieve

variable {limit seen : UInt32} {last : Option Entry} {e : Entry} {es : List Entry}
  {x : String × Qualifier}

-- How many entries of the column `x` were counted, if `last` was the last one.
def counted (last : Option Entry) (seen : UInt32) (x : String × Qualifier) : Nat :=
  if last.map Entry.column = some x then seen.toNat else 0

-- What the counter is at once the next entry is counted.
def count (last : Option Entry) (seen : UInt32) (e : Entry) : UInt32 :=
  if last.map Entry.column = some e.column then seen + 1 else 1

theorem firstOfRuns_cons (limit seen : UInt32) (last : Option Entry) (e : Entry) (es : List Entry) :
    firstOfRuns limit (last.map Entry.column) seen (e :: es) =
      if count last seen e ≤ limit then
        e :: firstOfRuns limit ((some e).map Entry.column) (count last seen e) es
      else firstOfRuns limit ((some e).map Entry.column) (count last seen e) es :=
  rfl

theorem toNat_count (h : counted last seen e.column + 1 < UInt32.size) :
    (count last seen e).toNat = counted last seen e.column + 1 := by
  rw [counted] at h ⊢
  rw [count]
  split
  case isTrue hl =>
    rw [if_pos hl] at h
    exact (UInt32.toNat_add seen 1).trans (Nat.mod_eq_of_lt h)
  case isFalse => rfl

-- Nothing of a column is left after another one.
theorem filter_eq_nil_of_counted (hb : (last.toList ++ e :: es).Pairwise Entry.Before)
    (hl : last.map Entry.column = some x) (hx : e.column ≠ x) : es.filter (·.column = x) = [] := by
  have ⟨p, hp, hpx⟩ := Option.map_eq_some_iff.mp hl
  subst hp
  have ⟨hpe, hb⟩ := List.pairwise_cons.mp hb
  refine List.filter_eq_nil_iff.mpr fun c hc => ?_
  have hne := (hpe e (.head _)).column_ne ((List.pairwise_cons.mp hb).left c hc) (hpx ▸ hx)
  simpa [hpx] using hne

-- Entries of other columns only move the counter.
theorem filter_firstOfRuns_cons (limit seen : UInt32) (last : Option Entry) (e : Entry)
    (es : List Entry) (x : String × Qualifier) :
    (firstOfRuns limit (last.map Entry.column) seen (e :: es)).filter (·.column = x) =
      let rest := firstOfRuns limit ((some e).map Entry.column) (count last seen e) es
      if e.column = x ∧ count last seen e ≤ limit then e :: rest.filter (·.column = x)
      else rest.filter (·.column = x) := by
  rw [firstOfRuns_cons]
  by_cases hx : e.column = x <;> by_cases hl : count last seen e ≤ limit <;> simp [hx, hl]

theorem take_sub_cons {α : Type} (a : α) (l : List α) (n m : Nat) :
    (a :: l).take (n - m) =
      if m + 1 ≤ n then a :: l.take (n - (m + 1)) else l.take (n - (m + 1)) := by
  split
  case isTrue h =>
    have hs : n - m = n - (m + 1) + 1 := by omega
    rw [hs, List.take_succ_cons]
  case isFalse h =>
    have hs : n - m = 0 := by omega
    have hs' : n - (m + 1) = 0 := by omega
    rw [hs, hs', List.take_zero, List.take_zero]

theorem filter_firstOfRuns (limit seen : UInt32) (last : Option Entry)
    (hb : (last.toList ++ es).Pairwise Entry.Before)
    (hn : counted last seen x + (es.filter (·.column = x)).length < UInt32.size) :
    (firstOfRuns limit (last.map Entry.column) seen es).filter (·.column = x) =
      (es.filter (·.column = x)).take (limit.toNat - counted last seen x) := by
  induction es generalizing last seen
  case nil => simp [firstOfRuns]
  case cons e es ih =>
    have hb' : ((some e).toList ++ es).Pairwise Entry.Before :=
      hb.sublist (List.sublist_append_right _ _)
    have ih := ih (count last seen e) (some e) hb'
    rw [filter_firstOfRuns_cons]
    by_cases hx : e.column = x
    case pos =>
      rw [List.filter_cons_of_pos (by simpa using hx)] at hn ⊢
      rw [List.length_cons] at hn
      have hcount : (count last seen e).toNat = counted last seen x + 1 :=
        hx ▸ toNat_count (by rw [hx]; omega)
      have hnext : counted (some e) (count last seen e) x = counted last seen x + 1 :=
        (if_pos (congrArg some hx)).trans hcount
      rw [hnext] at ih
      simp only [ih (by omega), take_sub_cons, hx, true_and, UInt32.le_iff_toNat_le, hcount]
    case neg =>
      rw [List.filter_cons_of_neg (by simpa using hx)] at hn ⊢
      have hnext : counted (some e) (count last seen e) x = 0 :=
        if_neg fun h => hx (Option.some.inj h)
      rw [hnext] at ih
      simp only [ih (by omega), hx, false_and, if_false]
      rw [counted]
      split
      case isTrue hl => simp [filter_eq_nil_of_counted hb hl hx]
      case isFalse => rfl

-- The counter of a limit starts anew wherever the column changes, which is right because the entries of a
-- column are neighbours; and it must not run over, so a column may not have more versions than can be
-- counted.
theorem filter_cellsPerColumn (limit : UInt32) (key : RowKey) (hb : es.Pairwise Entry.Before)
    (hn : (es.filter (·.column = x)).length < UInt32.size) :
    (cellsPerColumn limit key es).filter (·.column = x) =
      (es.filter (·.column = x)).take limit.toNat := by
  have hc : counted none 0 x = 0 := rfl
  have hf := filter_firstOfRuns limit 0 none hb (by rwa [hc, Nat.zero_add])
  rwa [hc] at hf

end Sieve
end WideTable
