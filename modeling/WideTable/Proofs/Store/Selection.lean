import WideTable.Proofs.Store.SortedMap
import WideTable.Store.Read

namespace WideTable

open ByteKey

-- The key belongs to the row set.
def RowSet.admits : RowSet → RowKey → Bool
  | all, _ => true
  | keys ks, k => k ∈ ks
  | range span, k => span.contains k

theorem Span.contains_eq_false_of_isVoid {s : Span} (h : s.isVoid = true) (v : Bytes) :
    s.contains v = false := by
  obtain ⟨lower, upper⟩ := s
  cases lower <;> cases upper <;> simp [isVoid] at h
  all_goals
    simp only [contains, Bound.admitsFrom, Bound.admitsUpTo, Bool.and_eq_false_imp,
      decide_eq_true_eq, decide_eq_false_iff_not]
    intro ha hb
  case included.included => exact List.not_lt.mpr (List.le_trans ha hb) h
  case included.excluded => exact List.not_lt.mpr (List.le_trans h ha) hb
  case excluded.included => exact List.not_lt.mpr (List.le_trans hb h) ha
  case excluded.excluded => exact List.not_lt.mpr h (List.lt_trans ha hb)

namespace Store

theorem find?_foldl_alter (ks : List RowKey) (m : SortedMap RowKey Unit) (k : RowKey) :
    (ks.foldl (fun m k => m.alter k fun _ => ()) m).find? k =
      if k ∈ ks then some () else m.find? k := by
  induction ks generalizing m
  case nil => simp
  case cons l ks ih =>
    rw [List.foldl_cons, ih, SortedMap.find?_alter]
    grind

theorem mem_orderedKeys {ks : List RowKey} {k : RowKey} : k ∈ orderedKeys ks ↔ k ∈ ks := by
  simp only [orderedKeys, List.mem_map, Prod.exists, SortedMap.mem_entries, find?_foldl_alter]
  simp

theorem pairwise_orderedKeys (ks : List RowKey) : (orderedKeys ks).Pairwise Before :=
  List.pairwise_map.mpr (SortedMap.sorted _)

theorem select_eq_filter (s : Store) (rows : RowSet) :
    s.select rows = s.rows.entries.filter fun e => rows.admits e.1 := by
  cases rows
  case all => simp [select, RowSet.admits]
  case keys ks =>
    -- Both sides are in the order of the keys, so it is enough that they have the same members.
    have hl : (s.select (.keys ks)).Pairwise fun a b => Before a.1 b.1 := by
      refine List.pairwise_filterMap.mpr ((pairwise_orderedKeys ks).imp fun h a ha b hb => ?_)
      have ⟨_, _, ha⟩ := Option.map_eq_some_iff.mp ha
      have ⟨_, _, hb⟩ := Option.map_eq_some_iff.mp hb
      exact ha ▸ hb ▸ h
    refine hl.eq_of_mem_iff (s.rows.sorted.filter _) fun (k, row) => ?_
    simp only [select, RowSet.admits, List.mem_filterMap, List.mem_filter, mem_orderedKeys,
      SortedMap.mem_entries, Option.map_eq_some_iff, decide_eq_true_eq, Prod.mk.injEq]
    grind
  case range span =>
    rw [select]
    split
    case isTrue h => exact s.rows.slice_eq_filter _
    case isFalse h =>
      have hv := Span.contains_eq_false_of_isVoid (Bool.not_eq_false _ |>.mp h)
      simp [RowSet.admits, hv]

end Store

-- What is left of a stored row, unless nothing is.
def Sieve.row? (sieve : Sieve) (e : RowKey × StoredRow) : Option Row :=
  if sieve e.1 (StoredRow.entries e.2) = [] then none
  else some (.ofEntries e.1 (sieve e.1 (StoredRow.entries e.2)))

-- The first rows, or all for zero.
def limited (n : Nat) (rows : List Row) : List Row :=
  if n = 0 then rows else rows.take n

namespace Store

theorem survivors_none (sieve : Sieve) (es : List (RowKey × StoredRow)) :
    survivors sieve none es = es.filterMap sieve.row? := by
  induction es
  case nil => rfl
  case cons e es ih =>
    rw [survivors, List.filterMap_cons, Sieve.row?]
    · split <;> simp_all
    · exact nofun

theorem survivors_some (sieve : Sieve) (n : Nat) (es : List (RowKey × StoredRow)) :
    survivors sieve (some n) es = (es.filterMap sieve.row?).take n := by
  induction es generalizing n
  case nil => cases n <;> simp [survivors]
  case cons e es ih =>
    cases n
    case zero => simp [survivors]
    case succ n =>
      rw [survivors, List.filterMap_cons, Sieve.row?]
      · split <;> simp_all
      · exact nofun

theorem read_eq (s : Store) (r : Request) :
    s.read r = (Filter.compileOptional r.filter).map fun sieve =>
      limited r.limit
        ((s.rows.entries.filter fun e => r.rows.admits e.1).filterMap sieve.row?) := by
  rw [read, select_eq_filter]
  cases Filter.compileOptional r.filter
  case error => rfl
  case ok sieve =>
    refine congrArg Except.ok ?_
    by_cases hn : r.limit = 0
    case pos => simp [hn, limited, survivors_none]
    case neg => simp [hn, limited, survivors_some]

theorem read_of_no_keys {r : Request} (hr : r.rows = .keys []) (s : Store) :
    s.read r = (Filter.compileOptional r.filter).map fun _ => [] := by
  rw [read_eq, hr]
  simp [RowSet.admits, limited]

theorem filterMap_row? (sieve : Sieve) (es : List (RowKey × StoredRow)) :
    es.filterMap sieve.row? =
      ((es.map fun e => (e.1, sieve e.1 (StoredRow.entries e.2))).filter (·.2 ≠ [])).map
        fun e => .ofEntries e.1 e.2 := by
  induction es
  case nil => rfl
  case cons e es ih =>
    rw [List.filterMap_cons, ih, Sieve.row?]
    by_cases h : sieve e.1 (StoredRow.entries e.2) = [] <;> simp [h]

theorem read_limit_succ (s : Store) (r : Request) (n : Nat) :
    s.read { r with limit := n + 1 } =
      (s.read { r with limit := 0 }).map (List.take (n + 1)) := by
  rw [read_eq, read_eq]
  cases Filter.compileOptional r.filter <;> rfl

-- Rows without survivors are gone before the limit counts.
theorem read_as_comprehension (s : Store) (r : Request) :
    (s.rows.entries.Pairwise fun a b => Before a.1 b.1) ∧
      s.read r = (Filter.compileOptional r.filter).map (fun sieve =>
        let selected := s.rows.entries.filter fun (key, _) => r.rows.admits key
        let filtered := selected.map fun (key, stored) => (key, sieve key (StoredRow.entries stored))
        let rows := (filtered.filter (·.2 ≠ [])).map fun (key, es) => Row.ofEntries key es
        if r.limit = 0 then rows else rows.take r.limit) ∧
      ∀ n, s.read { r with limit := n + 1 } =
        (s.read { r with limit := 0 }).map (List.take (n + 1)) := by
  refine ⟨s.rows.sorted, ?_, s.read_limit_succ r⟩
  simp only [read_eq, filterMap_row?]
  rfl

end Store
end WideTable
