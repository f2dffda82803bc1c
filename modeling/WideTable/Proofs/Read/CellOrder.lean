import WideTable.Proofs.Read.Conditions

namespace WideTable

open Entry

theorem Store.regular_entries {s : Store} (hn : s.Countable) (hs : s.Occupied) {key : RowKey}
    {stored : StoredRow} (h : s.rows.find? key = some stored) : Regular stored.entries where
  ordered := stored.pairwise_entries
  countable := hn.length_filter_lt hs h

namespace Filter

-- What is asked of a whole column, or of its row.
def IsOnColumns : Filter → Prop
  | regex field _ => field ≠ .value
  | qualifierRange .. => True
  | _ => False

theorem eq_filter_of_isOnColumns {f : Filter} (hf : f.IsOnColumns) {sieve : Sieve}
    (h : f.compile = .ok sieve) (key : RowKey) :
    ∃ p : Entry → Bool, (∀ a b : Entry, a.column = b.column → p a = p b) ∧
      ∀ es, sieve key es = es.filter p := by
  cases f
  case regex field pattern =>
    cases hp : Pattern.compile pattern <;> rw [compile, hp] at h <;> cases h
    refine ⟨_, fun a b hc => ?_, Sieve.matching_eq_filter _ field key⟩
    obtain ⟨hfamily, hqualifier⟩ := Prod.mk.inj hc
    cases field
    case rowKey => rfl
    case family => simp only [Field.content, hfamily]
    case qualifier => simp only [Field.content, hqualifier]
    case value => contradiction
  case qualifierRange family span =>
    cases h
    refine ⟨_, fun a b hc => ?_, fun es => rfl⟩
    obtain ⟨hfamily, hqualifier⟩ := Prod.mk.inj hc
    rw [hfamily, hqualifier]
  all_goals cases hf

end Filter

namespace Read

variable {m : MemoryStore} {pre block block' post : List Call}

theorem readAs_of_perm (h : block.Perm block')
    (hb : ∀ c ∈ block, c.kind = .filterCells ∧ ∀ n, c ≠ .limitCells n) :
    ReadAs m (pre ++ block ++ post) (pre ++ block' ++ post) := by
  by_cases hne : block = []
  case pos =>
    subst hne
    cases h.nil_eq
    exact (SameResults.refl m _).left
  case neg =>
    refine readAs_of_keeps (.inr rfl) hne hb (fun c hc => hb c (h.mem_iff.mpr hc)) ?_ ?_
    · exact fun hf => ⟨fun c hc => hf c (h.mem_iff.mpr hc), fun e => h.all_eq⟩
    · exact fun _ hc c hm => hc c (h.mem_iff.mpr hm)

-- What a block of calls is given is regular if all columns that are stored can be counted.
theorem readAs_of_regular (hn : m.store.Countable) (hs : m.store.Occupied) (hne : block ≠ [])
    (hb : ∀ c ∈ block, c.kind = .filterCells)
    (hb' : ∀ c ∈ block', c.kind = .filterCells ∧ c.fault? = none)
    (h : ∀ family?, ∃ first second,
      Filter.inTurn (block.flatMap (·.filters family?)) = .ok first ∧
      Filter.inTurn (block'.flatMap (·.filters family?)) = .ok second ∧
      ∀ key es, Regular es → first key es = second key es) :
    ReadAs m (pre ++ block ++ post) (pre ++ block' ++ post) := by
  have hgiven {fs : List Filter} (sieve : Sieve) (hf : Filter.inTurn fs = .ok sieve) (key : RowKey)
      (stored : StoredRow) (hm : m.store.rows.find? key = some stored) :
      Regular (sieve key stored.entries) := by
    obtain ⟨stripping, ht⟩ := Filter.thins_of_inTurn hf
    exact (Store.regular_entries hn hs hm).thinned (ht key _)
  refine readAs_of_sameOn (P := fun _ => Regular) (.inr rfl) hne hb (fun c hc => (hb' c hc).left)
    (fun _ => hgiven) fun _ => ⟨fun c hc => (hb' c hc).right, fun family? => ?_⟩
  obtain ⟨first, second, hfirst, hsecond, heq⟩ := h family?
  exact Filter.sameOn_of_eq hfirst hsecond heq

theorem sameResults_of_regular (hn : m.store.Countable) (hs : m.store.Occupied)
    (hne : block ≠ []) (hne' : block' ≠ [])
    (hb : ∀ c ∈ block, c.kind = .filterCells ∧ c.fault? = none)
    (hb' : ∀ c ∈ block', c.kind = .filterCells ∧ c.fault? = none)
    (h : ∀ family?, ∃ first second,
      Filter.inTurn (block.flatMap (·.filters family?)) = .ok first ∧
      Filter.inTurn (block'.flatMap (·.filters family?)) = .ok second ∧
      ∀ key es, Regular es → first key es = second key es) :
    SameResults m (pre ++ block ++ post) (pre ++ block' ++ post) := by
  refine ⟨readAs_of_regular hn hs hne (fun c hc => (hb c hc).left) hb' h,
    readAs_of_regular hn hs hne' (fun c hc => (hb' c hc).left) hb fun family? => ?_⟩
  obtain ⟨first, second, hfirst, hsecond, heq⟩ := h family?
  exact ⟨second, first, hsecond, hfirst, fun key es he => (heq key es he).symm⟩

theorem sameResults_limit_start (hn : m.store.Countable) (hs : m.store.Occupied) (n : UInt32)
    (start : Int64) :
    SameResults m (pre ++ [Call.limitCells n, Call.startTimestamp start] ++ post)
      (pre ++ [Call.startTimestamp start, Call.limitCells n] ++ post) := by
  refine sameResults_of_regular hn hs (List.cons_ne_nil _ _) (List.cons_ne_nil _ _)
    (by simp [Call.kind, Call.fault?]) (by simp [Call.kind, Call.fault?]) fun family? => ?_
  by_cases h : n = 0
  case pos =>
    subst h
    exact ⟨.chain [.timestampRange (some start) none], _, rfl, rfl, fun _ _ _ => rfl⟩
  case neg =>
    have hf : (Call.limitCells n).filters family? = [.cellsPerColumn n] := if_neg h
    refine ⟨.chain [.cellsPerColumn n, .timestampRange (some start) none],
      .chain [.timestampRange (some start) none, .cellsPerColumn n], ?_, ?_, fun key es he => ?_⟩
    · rw [List.flatMap_cons, hf]
      rfl
    · rw [List.flatMap_cons, List.flatMap_singleton, hf]
      rfl
    · simp only [Sieve.chain, List.foldl_cons, List.foldl_nil, Sieve.timestampRange_start]
      exact (Sieve.cellsPerColumn_filter he (upward_start start) n key).symm

theorem sameResults_limit_limit (hn : m.store.Countable) (hs : m.store.Occupied) {a b : UInt32}
    (ha : a ≠ 0) (hb : b ≠ 0) :
    SameResults m (pre ++ [Call.limitCells a, Call.limitCells b] ++ post)
      (pre ++ [Call.limitCells (min a b)] ++ post) := by
  refine sameResults_of_regular hn hs (List.cons_ne_nil _ _) (List.cons_ne_nil _ _)
    (by simp [Call.kind, Call.fault?]) (by simp [Call.kind, Call.fault?]) fun family? => ?_
  have hf {n : UInt32} (h : n ≠ 0) : (Call.limitCells n).filters family? = [.cellsPerColumn n] :=
    if_neg h
  have hmin : min a b ≠ 0 := by
    have he : min a b = if a ≤ b then a else b := rfl
    rw [he]
    split <;> assumption
  refine ⟨.chain [.cellsPerColumn a, .cellsPerColumn b], .chain [.cellsPerColumn (min a b)], ?_, ?_,
    fun key es he => Sieve.cellsPerColumn_cellsPerColumn he a b key⟩
  · rw [List.flatMap_cons, List.flatMap_singleton, hf ha, hf hb]
    rfl
  · rw [List.flatMap_singleton, hf hmin]
    rfl

-- A limit per column does not commute with a bound that the latest versions may not meet.
theorem cell_filters_commute (ws : List Write) (reads : Nat) (hn : (Store.ofWrites ws).Countable) :
    let Same (calls others : List Call) := SameResults ⟨.ofWrites ws, reads⟩ calls others
    (∀ pre block block' post, block.Perm block' →
      (∀ c ∈ block, c.kind = .filterCells ∧ ∀ n, c ≠ .limitCells n) →
      Same (pre ++ block ++ post) (pre ++ block' ++ post)) ∧
    (∀ pre post n start, Same (pre ++ [Call.limitCells n, Call.startTimestamp start] ++ post)
      (pre ++ [Call.startTimestamp start, Call.limitCells n] ++ post)) ∧
    (∀ pre post a b, a ≠ 0 → b ≠ 0 → Same (pre ++ [Call.limitCells a, Call.limitCells b] ++ post)
      (pre ++ [Call.limitCells (min a b)] ++ post)) ∧
    (∀ {p : State} (r : Read (.narrow .cell .many p)), r.call (.limitCells 0) rfl = .ok r) ∧
    ∀ key stored, (Store.ofWrites ws).rows.find? key = some stored →
      ∀ (tree g : Filter) (survivors keep : Sieve) (n : UInt32),
        tree.compile = .ok survivors → g.IsOnColumns → g.compile = .ok keep →
        keep key (Sieve.cellsPerColumn n key (survivors key stored.entries)) =
          Sieve.cellsPerColumn n key (keep key (survivors key stored.entries)) := by
  have hs := Store.occupied_ofWrites ws
  refine ⟨fun pre block block' post h hb => ⟨readAs_of_perm h hb, readAs_of_perm h.symm ?permuted⟩,
    fun _ _ => sameResults_limit_start hn hs, fun _ _ _ _ => sameResults_limit_limit hn hs,
    fun r => rfl, fun key stored hm tree g survivors keep n htree hg hkeep => ?columns⟩
  case permuted => exact fun c hc => hb c (h.mem_iff.mpr hc)
  case columns =>
    obtain ⟨p, hp, hfilter⟩ := Filter.eq_filter_of_isOnColumns hg hkeep key
    have he : Regular (survivors key stored.entries) :=
      (Store.regular_entries hn hs hm).thinned (Filter.thins_of_compile tree htree key _)
    rw [hfilter, hfilter, Sieve.cellsPerColumn_filter he (upward_of_column hp)]

-- The latest version that is old enough, found before or after the ones that are too old.
theorem cell_filters_commute_of_three_versions :
    let ws : List Write := [⟨[1], "f", [7], ⟨4, [8], []⟩⟩, ⟨[1], "f", [7], ⟨5, [8], []⟩⟩,
      ⟨[1], "f", [7], ⟨6, [9], []⟩⟩, ⟨[1], "g", [7], ⟨3, [8], []⟩⟩]
    let m : MemoryStore := ⟨.ofWrites ws, 0⟩
    let s : State := .narrow .cell .many (.narrow .column .many (.narrow .family .many (.rows .many)))
    let pre : List Call := [.families, .columns, .cells, .endTimestamp 6]
    let limitLast : List Call := [.startTimestamp 4, .limitCells 1]
    let value : Call := .valueRange { startClosed := some [8] }
    (Store.ofWrites ws).Countable ∧
    (∃ t : Read s, Reached ⟨"p", "i", "t"⟩ none .rows (pre ++ limitLast ++ []) t ∧
      (t.execute .memory m).1 = .ok (s.project [⟨[1], [⟨"f", [⟨[7], [⟨5, [8], []⟩]⟩]⟩]⟩])) ∧
    SameResults m (pre ++ [.endTimestamp 5, value] ++ []) (pre ++ [value, .endTimestamp 5] ++ []) ∧
    ∃ stored, (Store.ofWrites ws).rows.find? [1] = some stored ∧
      let keep := Sieve.qualifierRange (some "g") ⟨.unbounded, .included [7]⟩
      keep [1] (Sieve.cellsPerColumn 1 [1] stored.entries) =
        Sieve.cellsPerColumn 1 [1] (keep [1] stored.entries) := by
  intro ws m s pre limitLast value
  have hn : (Store.ofWrites ws).Countable := Store.countable_ofWrites (by decide)
  have ⟨hperm, hlimit, _, _, hcolumns⟩ := cell_filters_commute ws 0 hn
  refine ⟨hn, ?limit, ?values, ?columns⟩
  case limit =>
    let limitFirst : List Call := [.limitCells 1, .startTimestamp 4]
    let r : Read s := ⟨⟨⟨"p", "i", "t"⟩, none, {}, [.timestampRange none (some 6), .cellsPerColumn 1,
      .timestampRange (some 4) none], none⟩⟩
    have hr : Reached ⟨"p", "i", "t"⟩ none .rows (pre ++ limitFirst ++ []) r :=
      reached_iff.mpr ⟨rfl, rfl⟩
    have hread : m.store.read r.request = .ok [⟨[1], [⟨"f", [⟨[7], [⟨5, [8], []⟩]⟩]⟩]⟩] := by
      decide +kernel
    have ⟨t, ht, he⟩ := (hlimit pre [] 1 4).left _ _ _ _ r hr ⟨_, rfl⟩
    refine ⟨t, ht, ?_⟩
    rw [he, execute_memory, hread]
    rfl
  case values => exact hperm pre _ _ [] (.swap ..) (by simp [Call.kind, value])
  case columns =>
    have hstored : ((Store.ofWrites ws).rows.find? [1]).isSome := by decide +kernel
    have ⟨stored, hstored⟩ := Option.isSome_iff_exists.mp hstored
    exact ⟨stored, hstored, hcolumns _ _ hstored .passAll (.qualifierRange ..) _ _ 1 rfl trivial rfl⟩

-- With a bound from above it matters what is done first.
example :
    let es : List Entry := [⟨"f", [7], ⟨6, [], []⟩⟩, ⟨"f", [7], ⟨5, [], []⟩⟩]
    let keep := Sieve.timestampRange none (some 6)
    keep [] (Sieve.cellsPerColumn 1 [] es) = [] ∧
      Sieve.cellsPerColumn 1 [] (keep [] es) = [⟨"f", [7], ⟨5, [], []⟩⟩] := by
  decide

end Read
end WideTable
