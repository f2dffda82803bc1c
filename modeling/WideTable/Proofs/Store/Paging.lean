import WideTable.Proofs.Store.Response

namespace WideTable

open ByteKey

theorem exists_getLast?_take {α : Type} {l : List α} {n : Nat} (hn : n ≠ 0) (h : n ≤ l.length) :
    ∃ a, (l.take n).getLast? = some a := by
  have hne : l.take n ≠ [] := List.ne_nil_of_length_pos (by rw [List.length_take]; omega)
  exact ⟨_, List.getLast?_eq_some_getLast hne⟩

-- After the last of the first entries in a sorted list come those that were left out.
theorem filter_before_eq_drop {α κ : Type} [ByteKey κ] {name : α → κ} {l : List α} {n : Nat} {a : α}
    (h : l.Pairwise fun a b => Before (name a) (name b)) (ha : (l.take n).getLast? = some a) :
    l.filter (fun b => Before (name a) (name b)) = l.drop n := by
  have ⟨init, hi⟩ := List.getLast?_eq_some_iff.mp ha
  rw [← List.take_append_drop n l, hi, List.append_assoc, List.pairwise_append] at h
  have ⟨_, hrest, hinit⟩ := h
  have hn : (l.take n).filter (fun b => Before (name a) (name b)) = [] := by
    refine List.filter_eq_nil_iff.mpr fun b hb => ?_
    rw [hi, List.mem_append, List.mem_singleton] at hb
    rcases hb with hb | rfl
    · simpa using (hinit b hb a (.head _)).asymm
    · simpa using Before.irrefl (name b)
  have hd : (l.drop n).filter (fun b => Before (name a) (name b)) = l.drop n :=
    List.filter_eq_self.mpr fun b hb => by simpa using (List.pairwise_cons.mp hrest).left b hb
  calc l.filter (fun b => Before (name a) (name b))
    _ = (l.take n ++ l.drop n).filter (fun b => Before (name a) (name b)) := by
      rw [List.take_append_drop]
    _ = l.drop n := by rw [List.filter_append, hn, hd, List.nil_append]

namespace RowSet

-- Where a scan ends. A list of keys is no scan.
def stop? : RowSet → Option Bound
  | all => some .unbounded
  | keys _ => none
  | range span => some span.upper

-- What is left of a scan up to `stop` after the row with the key.
def after (stop : Bound) (k : RowKey) : RowSet :=
  .range ⟨.excluded k, stop⟩

theorem admits_after {rows : RowSet} {stop : Bound} (h : rows.stop? = some stop) {k : RowKey}
    (hk : rows.admits k = true) (l : RowKey) :
    (after stop k).admits l = true ↔ rows.admits l = true ∧ Before k l := by
  have hb : Before k l ↔ Bound.admitsFrom (.excluded k) l = true := decide_eq_true_iff.symm
  rw [hb]
  cases rows <;> cases h
  case all => simp [after, admits, Span.contains, Bound.admitsUpTo]
  case range span =>
    -- What comes after a key of the scan is not before its start.
    have hlow (hl : Bound.admitsFrom (.excluded k) l = true) : span.lower.admitsFrom l = true :=
      Bound.admitsFrom_of_lt (of_decide_eq_true hl) (Bool.and_eq_true_iff.mp hk).left
    simp only [after, admits, Span.contains, Bool.and_eq_true]
    tauto

end RowSet

namespace Store

-- The rows that a filter leaves something of.
def found (s : Store) (sieve : Sieve) (rows : RowSet) : List Row :=
  (s.rows.entries.filter fun e => rows.admits e.1).filterMap sieve.row?

variable {s : Store} {sieve : Sieve} {r : Request} {stop : Bound} {n : Nat}

theorem read_unlimited (h : Filter.compileOptional r.filter = .ok sieve) (rows : RowSet) :
    s.read { r with rows, limit := 0 } = .ok (s.found sieve rows) := by
  rw [read_eq, h]
  rfl

theorem read_limited (h : Filter.compileOptional r.filter = .ok sieve) (hn : n ≠ 0) :
    s.read { r with limit := n } = .ok ((s.found sieve r.rows).take n) := by
  rw [read_eq, h]
  exact congrArg Except.ok (if_neg hn)

theorem pairwise_found (s : Store) (sieve : Sieve) (rows : RowSet) :
    (s.found sieve rows).Pairwise fun a b => Before a.key b.key :=
  (s.pairwise_key_row? sieve).sublist (List.filter_sublist.filterMap _)

theorem admits_key_of_mem_found {rows : RowSet} {row : Row} (h : row ∈ s.found sieve rows) :
    rows.admits row.key = true := by
  have ⟨e, he, hrow⟩ := List.mem_filterMap.mp h
  rw [Sieve.key_of_row? hrow]
  exact (List.mem_filter.mp he).right

theorem found_after {rows : RowSet} (h : rows.stop? = some stop) {k : RowKey}
    (hk : rows.admits k = true) :
    s.found sieve (.after stop k) = (s.found sieve rows).filter fun row => Before k row.key := by
  rw [found, found, List.filter_filterMap, List.filterMap_filter, List.filterMap_filter]
  refine List.filterMap_congr fun e _ => ?_
  have ha := RowSet.admits_after h hk e.1
  cases hrow : sieve.row? e
  case none => simp
  case some row =>
    rw [← Sieve.key_of_row? hrow] at ha ⊢
    by_cases hr : rows.admits row.key <;> simp [ha, hr, Option.filter]

-- What is read after the last row of a page is what the page left out.
theorem found_after_page (h : r.rows.stop? = some stop) {row : Row}
    (hrow : ((s.found sieve r.rows).take n).getLast? = some row) :
    s.found sieve (.after stop row.key) = (s.found sieve r.rows).drop n := by
  have hm : row ∈ s.found sieve r.rows := List.mem_of_mem_take (List.mem_of_getLast? hrow)
  rw [found_after h (admits_key_of_mem_found hm)]
  exact filter_before_eq_drop (s.pairwise_found sieve r.rows) hrow

-- The pages of a scan up to `stop`: a page that is full is not taken for the last one.
inductive Pages (s : Store) (n : Nat) (stop : Bound) : Request → List (List Row) → Prop
  | last {r : Request} {page : List Row} :
      s.read { r with limit := n } = .ok page → page.length < n → Pages s n stop r [page]
  | next {r : Request} {page : List Row} {row : Row} {pages : List (List Row)} :
      s.read { r with limit := n } = .ok page → n ≤ page.length → page.getLast? = some row →
      Pages s n stop { r with rows := .after stop row.key } pages → Pages s n stop r (page :: pages)

namespace Pages

variable {page : List Row} {pages : List (List Row)}

theorem flatten_eq (h : Pages s n stop r pages) (hf : Filter.compileOptional r.filter = .ok sieve)
    (hs : r.rows.stop? = some stop) (hn : n ≠ 0) : pages.flatten = s.found sieve r.rows := by
  induction h
  case last r page hp hl =>
    cases hp.symm.trans (read_limited hf hn)
    rw [List.length_take] at hl
    rw [List.flatten_singleton, List.take_of_length_le (by omega)]
  case next r page row pages hp _ hrow _ ih =>
    cases hp.symm.trans (read_limited hf hn)
    rw [List.flatten_cons, ih hf rfl, found_after_page hs hrow, List.take_append_drop]

theorem length_eq (h : Pages s n stop r pages) (hf : Filter.compileOptional r.filter = .ok sieve)
    (hs : r.rows.stop? = some stop) (hn : n ≠ 0) :
    pages.length = (s.found sieve r.rows).length / n + 1 := by
  induction h
  case last r page hp hl =>
    cases hp.symm.trans (read_limited hf hn)
    rw [List.length_take] at hl
    rw [List.length_singleton, Nat.div_eq_of_lt (by omega)]
  case next r page row pages hp hl hrow _ ih =>
    cases hp.symm.trans (read_limited hf hn)
    rw [List.length_take] at hl
    have hd := Nat.div_eq_sub_div (Nat.pos_of_ne_zero hn)
      (show n ≤ (s.found sieve r.rows).length by omega)
    rw [List.length_cons, ih hf rfl, found_after_page hs hrow, List.length_drop, hd]

theorem unique {others : List (List Row)} (h : Pages s n stop r pages)
    (ho : Pages s n stop r others) : others = pages := by
  induction h generalizing others
  case last hp hl =>
    cases ho with
    | last hp' _ => cases hp.symm.trans hp'; rfl
    | next hp' hl' => cases hp.symm.trans hp'; omega
  case next hp hl hrow _ ih =>
    cases ho with
    | last hp' hl' => cases hp.symm.trans hp'; omega
    | next hp' _ hrow' ho =>
      cases hp.symm.trans hp'
      cases hrow.symm.trans hrow'
      rw [ih ho]

end Pages

-- Each page that is not the last takes away from the rows that are left.
theorem exists_pages (hf : Filter.compileOptional r.filter = .ok sieve)
    (hs : r.rows.stop? = some stop) (hn : n ≠ 0) : ∃ pages, Pages s n stop r pages := by
  induction hlen : (s.found sieve r.rows).length using Nat.strong_induction_on generalizing r
  case h len ih =>
    have hpage : ((s.found sieve r.rows).take n).length = min n len := hlen ▸ List.length_take
    by_cases hl : len < n
    case pos => exact ⟨_, .last (read_limited hf hn) (by omega)⟩
    case neg =>
      have ⟨row, hrow⟩ := exists_getLast?_take hn (by omega : n ≤ (s.found sieve r.rows).length)
      have hrest := congrArg List.length (found_after_page hs hrow)
      rw [List.length_drop, hlen] at hrest
      let rest : Request := { r with rows := .after stop row.key }
      have ⟨pages, hp⟩ := ih (len - n) (by omega) (r := rest) hf rfl hrest
      exact ⟨_, .next (read_limited hf hn) (by omega) hrow hp⟩

theorem pages_of_scan (s : Store) (r : Request) {n : Nat} (hn : 1 ≤ n) {stop : Bound}
    (hs : r.rows.stop? = some stop) {sieve : Sieve}
    (hf : Filter.compileOptional r.filter = .ok sieve) :
    ∃ page whole, s.read { r with limit := n } = .ok page ∧
      s.read { r with limit := 0 } = .ok whole ∧
      (page.length < n → page = whole) ∧
      (n ≤ page.length → ∃ row rest, page.getLast? = some row ∧
        s.read { r with rows := .after stop row.key, limit := 0 } = .ok rest ∧
        page ++ rest = whole) ∧
      (whole.Pairwise fun a b => Before a.key b.key) ∧
      ∃ pages, Pages s n stop r pages ∧ (∀ others, Pages s n stop r others → others = pages) ∧
        pages.flatten = whole ∧ pages.length = whole.length / n + 1 := by
  have hn : n ≠ 0 := Nat.ne_zero_of_lt hn
  have ⟨pages, hp⟩ := exists_pages (s := s) hf hs hn
  refine ⟨_, _, read_limited hf hn, read_unlimited hf r.rows, fun hl => ?short, fun hl => ?full,
    s.pairwise_found sieve r.rows, pages, hp, fun _ => hp.unique, hp.flatten_eq hf hs hn,
    hp.length_eq hf hs hn⟩
  case short =>
    rw [List.length_take] at hl
    exact List.take_of_length_le (by omega)
  case full =>
    have ⟨row, hrow⟩ := exists_getLast?_take hn (hl.trans (List.length_take_le' n _))
    refine ⟨row, _, hrow, read_unlimited hf (.after stop row.key), ?_⟩
    rw [found_after_page hs hrow, List.take_append_drop]

-- The second of three rows is filtered out, and the last page is looked for after the end of the range.
theorem pages_of_scan_to_last_key :
    let cell (v : UInt8) : Cell := ⟨0, [v], []⟩
    let row (k v : UInt8) : Row := ⟨[k], [⟨"f", [⟨[], [cell v]⟩]⟩]⟩
    let s := ofWrites [⟨[1], "f", [], cell 7⟩, ⟨[2], "f", [], cell 1⟩, ⟨[3], "f", [], cell 8⟩]
    let r : Request :=
      { table := "t", rows := .range ⟨.unbounded, .included [3]⟩
        filter := some (.valueRange ⟨.included [7], .unbounded⟩) }
    ∃ pages, Pages s 1 (.included [3]) r pages ∧ pages.flatten = [row 1 7, row 3 8] ∧
      pages.length = 3 := by
  intro cell row s r
  have ⟨_, whole, _, hread, _, _, _, pages, hp, _, hw, hl⟩ :=
    pages_of_scan s r (Nat.le_refl 1) rfl rfl
  have hrows : s.read { r with limit := 0 } = .ok [row 1 7, row 3 8] := by decide +kernel
  cases hread.symm.trans hrows
  exact ⟨pages, hp, hw, by simpa using hl⟩

end Store
end WideTable
