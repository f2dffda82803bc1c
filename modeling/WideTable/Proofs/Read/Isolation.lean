import WideTable.Proofs.Filter.Chain
import WideTable.Proofs.Read.Narrowing
import WideTable.Proofs.Read.Reached
import WideTable.Proofs.Store.Scan

namespace WideTable

namespace Sieve

-- What is left of a row depends only on those of its entries that the condition holds for.
def Sees (p : Entry → Bool) (sieve : Sieve) : Prop :=
  ∀ key es, sieve key es = sieve key (es.filter p)

-- What is left of entries as a row, unless nothing is.
def left? (sieve : Sieve) (key : RowKey) (es : List Entry) : Option Row :=
  if sieve key es = [] then none else some (.ofEntries key (sieve key es))

variable {p : Entry → Bool} {sieves : List Sieve}

theorem sees_true (sieve : Sieve) : Sees (fun _ => true) sieve := by
  intro key es
  rw [List.filter_true]

theorem Sees.keepRow (h : Sees p (chain sieves)) (q : RowKey → Bool) :
    Sees p (chain (keepRow q :: sieves)) := by
  intro key es
  simp only [chain_cons, Sieve.keepRow]
  split
  case isTrue => exact h key es
  case isFalse => rfl

theorem sees_family (f : String) (sieves : List Sieve) :
    Sees (·.family = f) (chain (only .family (Bytes.ofText f) :: sieves)) := by
  intro key es
  simp only [chain_cons, only_family, List.filter_filter, Bool.and_self]

theorem sees_column (f : String) (q : Qualifier) (sieves : List Sieve) :
    Sees (fun e => e.family = f ∧ e.qualifier = q)
      (chain (only .family (Bytes.ofText f) :: only .qualifier q :: sieves)) := by
  intro key es
  have hq (es : List Entry) : only .qualifier q key es = es.filter (·.qualifier = q) := rfl
  simp only [chain_cons, only_family, hq, List.filter_filter]
  congr
  funext e
  grind

end Sieve

namespace Filter

-- Conditions on row keys leave all of a row or nothing.
theorem sees_of_keyRegexes {gs fs : List Filter} {p : Entry → Bool}
    (hg : ∀ g ∈ gs, ∃ pattern, g = .matching .rowKey pattern)
    (hf : ∀ {sieves}, compileAll fs = .ok sieves → (Sieve.chain sieves).Sees p)
    {sieves : List Sieve} (h : compileAll (gs ++ fs) = .ok sieves) :
    (Sieve.chain sieves).Sees p := by
  induction gs generalizing sieves
  case nil => exact hf h
  case cons g gs ih =>
    obtain ⟨sieve, rest, hs, hr, rfl⟩ := compileAll_cons_eq_ok.mp h
    obtain ⟨pattern, rfl⟩ := hg g (.head _)
    have hrest := ih (fun g hm => hg g (.tail _ hm)) hr
    rw [matching, compile] at hs
    cases hp : Pattern.compile (Bytes.ofText pattern) <;> rw [hp] at hs <;> cases hs
    exact hrest.keepRow _

end Filter

namespace Store

-- All entries of the row with this key, if there is one.
def entriesAt (s : Store) (k : RowKey) : List Entry :=
  (s.rows.find? k).elim [] StoredRow.entries

theorem mem_entriesAt {s : Store} {k : RowKey} {e : Entry} :
    e ∈ s.entriesAt k ↔ s.cell? ⟨k, e.family, e.qualifier, e.cell.timestamp⟩ = some e.cell := by
  refine .trans ?_ (mem_entries_iff_cell? (w := ⟨k, e.family, e.qualifier, e.cell⟩))
  rw [entriesAt]
  cases s.rows.find? k <;> simp

theorem pairwise_entriesAt (s : Store) (k : RowKey) : (s.entriesAt k).Pairwise Entry.Before := by
  rw [entriesAt]
  cases s.rows.find? k
  case none => exact .nil
  case some stored => exact StoredRow.pairwise_entries stored

theorem filter_entriesAt_congr {s t : Store} {k : RowKey} {p : Entry → Bool}
    (h : ∀ e, p e = true → s.cell? ⟨k, e.family, e.qualifier, e.cell.timestamp⟩ =
      t.cell? ⟨k, e.family, e.qualifier, e.cell.timestamp⟩) :
    (s.entriesAt k).filter p = (t.entriesAt k).filter p := by
  have hs := (s.pairwise_entriesAt k).filter p
  refine hs.eq_of_mem_iff ((t.pairwise_entriesAt k).filter p) fun e => ?_
  simp only [List.mem_filter, mem_entriesAt]
  exact and_congr_left fun hp => by rw [h e hp]

-- Keys without a row are like rows without cells.
theorem read_keys {ks : List RowKey} {r : Request} (hr : r.rows = .keys ks) (s : Store) :
    s.read r = (Filter.compileOptional r.filter).map fun sieve =>
      limited r.limit ((orderedKeys ks).filterMap fun k => sieve.left? k (s.entriesAt k)) := by
  rw [read_eq, ← select_eq_filter, hr, select]
  cases hc : Filter.compileOptional r.filter
  case error => rfl
  case ok sieve =>
    have hn (k : RowKey) : sieve k [] = [] := (Filter.thins_of_compileOptional hc k []).eq_nil
    refine congrArg (fun rows => Except.ok (limited r.limit rows)) ?_
    rw [List.filterMap_filterMap]
    refine List.filterMap_congr fun k _ => ?_
    rw [entriesAt]
    cases s.rows.find? k
    case none => simp [Sieve.left?, hn]
    case some => rfl

theorem read_congr {s t : Store} {ks : List RowKey} {r : Request} (hr : r.rows = .keys ks)
    (h : ∀ {sieve : Sieve}, Filter.compileOptional r.filter = .ok sieve →
      ∀ k ∈ ks, sieve k (s.entriesAt k) = sieve k (t.entriesAt k)) :
    s.read r = t.read r := by
  rw [read_keys hr, read_keys hr]
  cases hc : Filter.compileOptional r.filter
  case error => rfl
  case ok sieve =>
    refine congrArg (fun rows => Except.ok (limited r.limit rows)) ?_
    refine List.filterMap_congr fun k hk => ?_
    rw [Sieve.left?, Sieve.left?, h hc k (mem_orderedKeys.mp hk)]

end Store

namespace Read

-- The family and the column that the calls after the selection of rows begin with.
def scope : List Call → Entry → Bool
  | .family f :: .column q :: _ => fun e => e.family = f ∧ e.qualifier = q
  | .family f :: _ => fun e => e.family = f
  | _ => fun _ => true

theorem sees_scope {calls : List Call} {family? : Option String} {sieves : List Sieve}
    (h : Filter.compileAll (calls.flatMap (·.filters family?)) = .ok sieves) :
    (Sieve.chain sieves).Sees (scope calls) := by
  fun_cases scope calls
  case case1 f q post =>
    obtain ⟨_, _, hf, hr, rfl⟩ := Filter.compileAll_cons_eq_ok.mp h
    obtain ⟨_, _, hq, _, rfl⟩ := Filter.compileAll_cons_eq_ok.mp hr
    rw [Filter.eq_only_of_compile hf, Filter.eq_only_of_compile hq]
    exact Sieve.sees_column f q _
  case case2 f post _ =>
    obtain ⟨_, _, hf, _, rfl⟩ := Filter.compileAll_cons_eq_ok.mp h
    rw [Filter.eq_only_of_compile hf]
    exact Sieve.sees_family f _
  case case3 => exact Sieve.sees_true _

namespace Reached

variable {table : TableName} {profile : Option String} {e : Start} {calls : List Call} {s : State}
  {r : Read s}

theorem sees (h : Reached table profile e calls r) {sieve : Sieve}
    (hc : Filter.compileOptional r.request.filter = .ok sieve) :
    sieve.Sees (scope (narrowing calls)) := by
  obtain ⟨sieves, hs, rfl⟩ := Filter.compileOptional_collapse?_eq_ok.mp hc
  rw [h.filters_eq, ← List.takeWhile_append_dropWhile (p := (·.kind = .selectRows)) (l := calls),
    List.flatMap_append] at hs
  refine Filter.sees_of_keyRegexes (fun g hg => ?_) sees_scope hs
  have ⟨c, hc, hg⟩ := List.mem_flatMap.mp hg
  exact Call.isKeyRegex_of_selectRows (by simpa using List.mem_takeWhile_imp hc) hg

theorem scope_of_family (h : Reached table profile e calls r) {f : String} {x : Entry}
    (hf : .family f ∈ calls) (hx : scope (narrowing calls) x = true) : x.family = f := by
  have ⟨post, hn⟩ := h.narrowing_family hf
  rw [hn, scope.eq_def] at hx
  grind

theorem scope_of_column (h : Reached table profile e calls r) {q : Qualifier} {x : Entry}
    (hq : .column q ∈ calls) (hx : scope (narrowing calls) x = true) : x.qualifier = q := by
  have ⟨f, post, hn⟩ := h.narrowing_column hq
  rw [hn] at hx
  simpa [scope] using (of_decide_eq_true hx).right

end Reached

theorem execute_isolated {table : TableName} {profile : Option String} {e : Start}
    {calls : List Call} {s : State} {r : Read s} (he : e ≠ .rows)
    (h : Reached table profile e calls r) :
    r.request.rows = .keys (e.keys ++ calls.flatMap Call.keys) ∧
      ∀ (ws vs : List Write) (i j : Nat),
        (∀ x : Coordinate, x.key ∈ e.keys ++ calls.flatMap Call.keys →
          (∀ f, .family f ∈ calls → x.family = f) → (∀ q, .column q ∈ calls → x.qualifier = q) →
          (Store.ofWrites ws).cell? x = (Store.ofWrites vs).cell? x) →
        (r.execute .memory ⟨.ofWrites ws, i⟩).1 = (r.execute .memory ⟨.ofWrites vs, j⟩).1 := by
  have hr := h.rows_eq he
  refine ⟨hr, fun ws vs i j ha => ?_⟩
  have hread : (Store.ofWrites ws).read r.request = (Store.ofWrites vs).read r.request := by
    refine Store.read_congr hr fun hc k hk => ?_
    have hs := h.sees hc k
    rw [hs, hs (Store.entriesAt _ k)]
    refine congrArg _ (Store.filter_entriesAt_congr fun x hx => ha _ hk ?_ ?_)
    · exact fun f hf => h.scope_of_family hf hx
    · exact fun q hq => h.scope_of_column hq hx
  simp only [execute_memory, hread]

-- Other rows, families and columns are there in only one of the stores, some of them before what is
-- read, and the limits count none of them.
theorem execute_isolated_among_others :
    let calls : List Call :=
      [.addKeys [[4]], .limitRows 1, .family "f", .column [7], .cells, .limitCells 1, .flatten]
    let w : Write := ⟨[4], "f", [7], ⟨5, [8], []⟩⟩
    let ws : List Write := [⟨[1], "f", [7], ⟨6, [9], []⟩⟩, ⟨[4], "a", [7], ⟨6, [9], []⟩⟩,
      ⟨[4], "f", [6], ⟨6, [9], []⟩⟩, w]
    let filters : List Filter :=
      [.exact .family (Bytes.ofText "f"), .exact .qualifier [7], .cellsPerColumn 1]
    let s : State :=
      .flatten (.narrow .cell .many (.narrow .column .one (.narrow .family .one (.rows .many))))
    let r : Read s :=
      ⟨⟨⟨"p", "i", "t"⟩, none, ⟨.keys [[2], [4]], 1⟩, filters, some "f"⟩⟩
    Reached ⟨"p", "i", "t"⟩ none (.rowsWithKeys [[2]]) calls r ∧
    Store.ofWrites ws ≠ Store.ofWrites [w] ∧
    (r.execute .memory ⟨.ofWrites ws, 0⟩).1 = (r.execute .memory ⟨.ofWrites [w], 0⟩).1 := by
  intro calls w ws filters s r
  have hr : Reached ⟨"p", "i", "t"⟩ none (.rowsWithKeys [[2]]) calls r :=
    .call rfl (.call rfl (.call rfl (.call rfl (.call rfl (.call rfl (.call rfl
      .start rfl) rfl) rfl) rfl) rfl) rfl) rfl
  refine ⟨hr, ?differ, (execute_isolated (by decide) hr).right ws [w] 0 0 fun x hk hf hq => ?agree⟩
  case differ =>
    intro he
    have hc := congrArg (Store.cell? · ⟨[1], "f", [7], 6⟩) he
    simp only [Store.cell?_ofWrites] at hc
    cases hc
  case agree =>
    obtain ⟨k, f, q, t⟩ := x
    cases hf "f" (by decide)
    cases hq [7] (by decide)
    have hk : k = [2] ∨ k = [4] := by simpa [calls, Start.keys, Call.keys] using hk
    simp only [Store.cell?_ofWrites]
    rcases hk with rfl | rfl <;> rfl

end Read
end WideTable
