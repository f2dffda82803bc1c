import WideTable.Proofs.Read.Conditions

namespace WideTable

namespace RangeSpec

variable {a b : Edge}

-- An edge at the start and one at the end are never in conflict.
theorem exists_toSpan_pair (ha : a.IsStart) (hb : ¬b.IsStart) (v w : Bytes) :
    ∃ span, (ofEdges [(a, v), (b, w)]).toSpan = .ok span := by
  cases a <;> cases b <;> first | contradiction | exact absurd trivial hb | exact ⟨_, rfl⟩

theorem admits_pair_iff (ha : a.IsStart) (hb : ¬b.IsStart) {v w q : Bytes} :
    (ofEdges [(a, v), (b, w)]).Admits q ↔ a.Admits v q ∧ b.Admits w q := by
  cases a <;> cases b <;>
    first
    | contradiction
    | exact absurd trivial hb
    | simp [ofEdges, set, Admits, Edge.forall_iff, value?]

end RangeSpec

namespace Filter

-- A range of qualifiers in all families.
def unscoped : Filter → Filter
  | qualifierRange _ span => qualifierRange none span
  | f => f

end Filter

namespace Call

variable {c : Call} {block : List Call}

theorem map_unscoped_filters (c : Call) (family? : Option String) :
    (c.filters family?).map Filter.unscoped = c.filters none := by
  cases c
  case familiesNamed names => cases names <;> rfl
  case columnsNamed qualifiers => cases qualifiers <;> rfl
  case qualifierRange spec =>
    rw [filters, filters, Filter.qualifiersIn, Filter.qualifiersIn]
    cases spec.toSpan <;> rfl
  case valueRange spec =>
    rw [filters, filters, Filter.valuesIn]
    cases spec.toSpan <;> rfl
  case limitCells n =>
    rw [filters, filters]
    split <;> rfl
  case timestampRange start stop =>
    rw [filters, filters]
    cases h : Filter.writtenBetween start stop
    case error => rfl
    case ok f => rw [Filter.writtenBetween_eq_ok h]; rfl
  all_goals rfl

-- Only bounds of qualifiers name the family, if nothing is wrong with them.
theorem filters_eq_of_not_bound (h : ¬(c.kind = .boundColumns ∧ c.fault? = none))
    (f g : Option String) : c.filters f = c.filters g := by
  cases c
  case qualifierEdge => exact absurd ⟨rfl, rfl⟩ h
  case qualifierRange spec =>
    rw [filters, filters, Filter.qualifiersIn, Filter.qualifiersIn]
    cases hs : spec.toSpan
    case error => rfl
    case ok => exact absurd ⟨rfl, by rw [fault?, hs]; rfl⟩ h
  all_goals rfl

theorem exists_inTurn_of_boundColumns (h : c.kind = .boundColumns) (family? : Option String) :
    ∃ sieve, Filter.inTurn (c.filters family?) = .ok sieve := by
  cases c
  case qualifierEdge => exact ⟨_, rfl⟩
  case qualifierRange spec =>
    rw [filters, Filter.qualifiersIn]
    cases spec.toSpan <;> exact ⟨_, rfl⟩
  all_goals cases h

theorem isCondition_of_boundColumns (h : c.kind = .boundColumns) : c.IsCondition :=
  ⟨.inl h, fun n hn => by cases hn; cases h⟩

theorem isCondition_of_timestamps {a b : Int64} (h : block.Perm [.startTimestamp a, .endTimestamp b]) :
    ∀ c ∈ block, (c.kind = .filterCells ∧ ∀ n, c ≠ .limitCells n) ∧ c.fault? = none ∧
      ∀ family?, ∃ sieve, Filter.inTurn (c.filters family?) = .ok sieve := by
  intro c hc
  have hc := h.mem_iff.mp hc
  simp only [List.mem_cons, List.not_mem_nil, or_false] at hc
  rcases hc with rfl | rfl <;> exact ⟨⟨rfl, nofun⟩, rfl, fun _ => ⟨_, rfl⟩⟩

-- Both edges are refused where no timestamp is between them.
theorem fault?_timestampRange (a b : Int64) :
    (timestampRange (some a) (some b)).fault? = if a < b then none else some .timestampOrder := by
  rw [fault?, Filter.writtenBetween]
  by_cases h : a < b
  case pos =>
    rw [if_pos h, if_neg (Int64.not_le.mpr h)]
    rfl
  case neg =>
    rw [if_neg h, if_pos (Int64.not_lt.mp h)]
    rfl

-- To entries of one family its name makes no difference.
theorem sameOn_filters_none (c : Call) (family? : Option String) :
    Filter.SameOn (fun es => ∀ e ∈ es, family?.all (· = e.family)) (c.filters family?)
      (c.filters none) := by
  by_cases h : c.kind = .boundColumns ∧ c.fault? = none
  case neg =>
    rw [filters_eq_of_not_bound h family? none]
    exact fun s hs => ⟨s, hs, fun _ _ _ => rfl⟩
  case pos =>
    obtain ⟨hk, hf⟩ := h
    intro s hs
    obtain ⟨t, ht⟩ := exists_inTurn_of_boundColumns hk none
    have hc := isCondition_of_boundColumns hk
    refine ⟨t, ht, fun key es hes => ?_⟩
    rw [eq_filter_keeps hc hf hs key hes, eq_filter_keeps hc hf ht key fun _ _ => rfl]

theorem sameOn_flatMap_filters_none (calls : List Call) (family? : Option String) :
    Filter.SameOn (fun es => ∀ e ∈ es, family?.all (· = e.family))
      (calls.flatMap (·.filters family?)) (calls.flatMap (·.filters none)) := by
  induction calls
  case nil => exact fun s hs => ⟨s, hs, fun _ _ _ => rfl⟩
  case cons c calls ih =>
    have hP {stripping : Bool} {es rest : List Entry} (ht : Thinned stripping es rest)
        (hes : ∀ e ∈ es, family?.all (· = e.family)) : ∀ e ∈ rest, family?.all (· = e.family) :=
      ht.forall_mem (p := fun e => family?.all (· = e.family)) (fun _ he => he) hes
    exact (sameOn_filters_none c family?).append hP ih

end Call

namespace Read

variable {table : TableName} {profile : Option String} {e : Start} {calls : List Call} {s : State}
  {r : Read s} {m : MemoryStore} {pre block block' post : List Call}

theorem Reached.map_unscoped_filters (h : Reached table profile e calls r) :
    r.draft.filters.map Filter.unscoped = calls.flatMap (·.filters none) := by
  rw [h.filters_eq, List.map_flatMap]
  exact List.flatMap_congr fun c _ => c.map_unscoped_filters _

-- A family is asked for by name before any bound of qualifiers is given.
theorem Reached.exists_before_bounds (h : Reached table profile e calls r) {f : String}
    (hf : r.draft.family = some f) :
    ∃ xs ys, calls = xs ++ ys ∧ .family f ∈ xs ∧ ∀ c ∈ xs, c.kind ≠ .boundColumns := by
  obtain ⟨rows, post, _, t, _, rfl, hrows, hn⟩ := h.exists_before (h.family_eq_some_iff.mp hf)
  have hn : State.Next _ .oneFamily t := hn
  cases hn
  refine ⟨rows ++ [.family f], post, by simp, by simp, fun c hc => ?_⟩
  rcases List.mem_append.mp hc with hc | hc
  case inl =>
    rw [hrows.selectRows_of_rows rfl c hc]
    nofun
  case inr =>
    cases List.mem_singleton.mp hc
    nofun

theorem Reached.execute_unscoped (h : Reached table profile e calls r)
    (hc : ∃ sieve, Filter.compileOptional r.request.filter = .ok sieve) :
    ((Read.mk (s := s) { r.draft with filters := r.draft.filters.map Filter.unscoped }).execute
      .memory m).1 = (r.execute .memory m).1 := by
  obtain ⟨sieve, hc⟩ := hc
  rw [compileOptional_filter] at hc
  have hunscoped := h.map_unscoped_filters
  cases hf : r.draft.family
  case none =>
    rw [h.filters_eq, hf] at hc
    exact execute_eq_of_sieves (h.filters_eq ▸ hf ▸ hc) (hunscoped ▸ hc) fun _ _ _ => rfl
  case some f =>
    obtain ⟨xs, ys, rfl, hm, hxs⟩ := h.exists_before_bounds hf
    obtain ⟨u, q, hq⟩ := h.exists_prefix
    have hqf : q.draft.family = some f := hq.family_eq_some_iff.mpr hm
    have hx (g : Option String) : xs.flatMap (·.filters g) = q.draft.filters := by
      rw [hq.filters_eq]
      exact List.flatMap_congr fun c hc => c.filters_eq_of_not_bound (fun hb => hxs c hc hb.left) _ _
    have hfilters : r.draft.filters = q.draft.filters ++ ys.flatMap (·.filters r.draft.family) := by
      rw [h.filters_eq, List.flatMap_append, hx]
    obtain ⟨first, second, hfirst, hsecond, rfl⟩ := Filter.inTurn_append_eq_ok.mp (hfilters ▸ hc)
    obtain ⟨second', hsecond', hsame⟩ := Call.sameOn_flatMap_filters_none ys _ second hsecond
    rw [List.flatMap_append, hx] at hunscoped
    have hg : Filter.inTurn (r.draft.filters.map Filter.unscoped) = .ok (first.andThen second') :=
      hunscoped ▸ Filter.inTurn_append_eq_ok.mpr ⟨first, second', hfirst, hsecond', rfl⟩
    refine execute_eq_of_sieves hc hg fun key stored _ => hsame key _ ?_
    rw [hf, ← hqf]
    exact hq.family_of_mem hfirst

theorem sameResults_pair {a b : Edge} (ha : a.IsStart) (hb : ¬b.IsStart) (v w : Bytes)
    {bounds : List Call} (hbounds : ∀ c ∈ bounds, c.kind = .boundColumns)
    (hp : block.Perm (.qualifierEdge a v :: .qualifierEdge b w :: bounds)) :
    SameResults m (pre ++ block ++ post)
      (pre ++ .qualifierRange (.ofEdges [(a, v), (b, w)]) :: bounds ++ post) := by
  have hk : ∀ c ∈ block, c.kind = .boundColumns := by
    simp only [hp.mem_iff, List.forall_mem_cons]
    exact ⟨rfl, rfl, hbounds⟩
  have hk' : ∀ c ∈ Call.qualifierRange (.ofEdges [(a, v), (b, w)]) :: bounds,
      c.kind = .boundColumns := List.forall_mem_cons.mpr ⟨rfl, hbounds⟩
  have hlimit {c : Call} (h : c.kind = .boundColumns) (n : UInt32) : c ≠ .limitCells n :=
    (Call.isCondition_of_boundColumns h).right n
  have hspec : (Call.qualifierRange (.ofEdges [(a, v), (b, w)])).fault? = none :=
    cause?_eq_none_iff.mpr (RangeSpec.exists_toSpan_pair ha hb v w)
  refine sameResults_of_keeps (.inl rfl) (fun h => by simp [h] at hp) (List.cons_ne_nil _ _)
    (fun c hc => ⟨hk c hc, hlimit (hk c hc)⟩) (fun c hc => ⟨hk' c hc, hlimit (hk' c hc)⟩) ?_ ?_
    (fun _ c hc => Call.exists_inTurn_of_boundColumns (hk c hc) _)
    (fun _ c hc => Call.exists_inTurn_of_boundColumns (hk' c hc) _)
  · have hedge (e : Edge) (q : Qualifier) : (Call.qualifierEdge e q).fault? = none := rfl
    simp only [hp.mem_iff, List.forall_mem_cons, hspec, hedge, true_and]
  · intro e
    rw [hp.all_eq]
    simp [Call.keeps, RangeSpec.admits_pair_iff ha hb, Bool.and_assoc]

theorem sameResults_timestamps {a b : Int64}
    (hf : (Call.timestampRange (some a) (some b)).fault? = none)
    (hp : block.Perm [.startTimestamp a, .endTimestamp b]) :
    SameResults m (pre ++ [Call.timestampRange (some a) (some b)] ++ post)
      (pre ++ block ++ post) := by
  have hblock := Call.isCondition_of_timestamps hp
  obtain ⟨f, hw⟩ := cause?_eq_none_iff.mp hf
  refine sameResults_of_keeps (.inr rfl) (List.cons_ne_nil _ _) (fun h => by simp [h] at hp)
    (by simp [Call.kind]) (fun c hc => (hblock c hc).left)
    (iff_of_true (by simpa using hf) fun c hc => (hblock c hc).right.left) (fun e => ?_)
    (fun family? c hc => ?_) fun family? c hc => (hblock c hc).right.right family?
  · rw [hp.all_eq]
    simp [Call.keeps]
  · cases List.mem_singleton.mp hc
    rw [Call.filters, hw, Filter.writtenBetween_eq_ok hw]
    exact ⟨_, rfl⟩

theorem Reached.nothing_of_timestamps {p : State} {r : Read (.narrow .cell .many p)} {a b : Int64}
    (h : Reached table profile e calls r)
    (hc : ∃ sieve, Filter.compileOptional r.request.filter = .ok sieve)
    (hf : (Call.timestampRange (some a) (some b)).fault? ≠ none)
    (hp : block.Perm [.startTimestamp a, .endTimestamp b]) :
    ∃ (t : Read (.narrow .cell .many p)) (sieve : Sieve),
      Reached table profile e (calls ++ block) t ∧
      Filter.compileOptional t.request.filter = .ok sieve ∧ (∀ key es, sieve key es = []) ∧
      (t.execute .memory m).1 = .ok (State.project _ []) := by
  have hblock := Call.isCondition_of_timestamps hp
  have hkind := fun c hc => (hblock c hc).left
  obtain ⟨before, hc⟩ := hc
  let t : Read (.narrow .cell .many p) := ⟨{ r.draft with
    filters := r.draft.filters ++ block.flatMap (·.filters r.draft.family) }⟩
  have ht : Reached table profile e (calls ++ block) t :=
    (h.append_iff (.inr rfl) rfl fun c hc => (hkind c hc).left).mpr
      ⟨fun c hc => (hblock c hc).right.left, rfl⟩
  obtain ⟨after, hafter, hkeeps⟩ := h.append_keeps (.inr rfl) rfl hc hkind
    (fun c hc => (hblock c hc).right.right _) ht
  have hnothing : ∀ key es, after key es = [] := by
    intro key es
    rw [hkeeps, List.filter_eq_nil_iff]
    intro x _
    rw [Call.fault?_timestampRange] at hf
    simp only [hp.all_eq, List.all_cons, List.all_nil, Call.keeps]
    grind
  exact ⟨t, after, ht, hafter, hnothing, execute_of_nothing hafter hnothing⟩

theorem half_bounds_agree (m : MemoryStore) :
    (∀ table profile e calls (p : State) (r : Read (.narrow .column .many p)) before bounds,
      Reached table profile e calls r → Filter.compileOptional r.request.filter = .ok before →
      (∀ c ∈ bounds, c.kind = .boundColumns) →
      ((∃ t : Read (.narrow .column .many p), Reached table profile e (calls ++ bounds) t) ↔
        ∀ c ∈ bounds, c.fault? = none) ∧
      ∀ t : Read (.narrow .column .many p), Reached table profile e (calls ++ bounds) t →
        ∃ after, Filter.compileOptional t.request.filter = .ok after ∧
          ∀ key es, after key es = (before key es).filter fun x => bounds.all (·.keeps x)) ∧
    (∀ pre block bounds post (a b : Edge) v w, a.IsStart → ¬b.IsStart →
      (∀ c ∈ bounds, c.kind = .boundColumns) →
      block.Perm (.qualifierEdge a v :: .qualifierEdge b w :: bounds) →
      SameResults m (pre ++ block ++ post)
        (pre ++ .qualifierRange (.ofEdges [(a, v), (b, w)]) :: bounds ++ post)) ∧
    (∀ table profile e calls s (r : Read s), Reached table profile e calls r →
      (∃ sieve, Filter.compileOptional r.request.filter = .ok sieve) →
      let unscoped : Read s :=
        ⟨{ r.draft with filters := r.draft.filters.map Filter.unscoped }⟩
      (unscoped.execute .memory m).1 = (r.execute .memory m).1) ∧
    ∀ a b block, block.Perm [.startTimestamp a, .endTimestamp b] →
      let range := Call.timestampRange (some a) (some b)
      (range.fault? = none → ∀ pre post,
        SameResults m (pre ++ [range] ++ post) (pre ++ block ++ post)) ∧
      (range.fault? ≠ none → ∀ table profile e calls (p : State) (r : Read (.narrow .cell .many p)),
        Reached table profile e calls r →
        (∃ sieve, Filter.compileOptional r.request.filter = .ok sieve) →
        ∃ (t : Read (.narrow .cell .many p)) (sieve : Sieve),
          Reached table profile e (calls ++ block) t ∧
          Filter.compileOptional t.request.filter = .ok sieve ∧ (∀ key es, sieve key es = []) ∧
          (t.execute .memory m).1 = .ok (State.project _ [])) := by
  refine ⟨fun table profile e calls p r before bounds h hc hb => ⟨⟨?faults, ?accepted⟩, ?kept⟩,
    fun _ _ _ _ _ _ v w ha hb => sameResults_pair ha hb v w,
    fun _ _ _ _ _ _ h hc => h.execute_unscoped hc, fun a b block hp =>
      ⟨fun hf _ _ => sameResults_timestamps hf hp, fun hf _ _ _ _ _ _ h hc =>
        h.nothing_of_timestamps hc hf hp⟩⟩
  case faults =>
    rintro ⟨t, ht⟩
    exact ((h.append_iff (.inl rfl) rfl hb).mp ht).left
  case accepted => exact fun hf => ⟨⟨_⟩, (h.append_iff (.inl rfl) rfl hb).mpr ⟨hf, rfl⟩⟩
  case kept =>
    exact fun t => h.append_keeps (.inl rfl) rfl hc
      (fun c hm => ⟨hb c hm, (Call.isCondition_of_boundColumns (hb c hm)).right⟩)
      fun c hm => Call.exists_inTurn_of_boundColumns (hb c hm) _

-- A name that is a pattern for another one, and a time that comes before itself.
theorem half_bounds_agree_in_one_family :
    let ws : List Write := [⟨[1], "f.", [4], ⟨3, [], []⟩⟩, ⟨[1], "f.", [6], ⟨3, [], []⟩⟩,
      ⟨[1], "fx", [6], ⟨3, [], []⟩⟩]
    let m : MemoryStore := ⟨.ofWrites ws, 0⟩
    let columns : State := .narrow .column .many (.narrow .family .one (.rows .many))
    let pre : List Call := [.family "f.", .columns]
    let start : Call := .qualifierEdge .startOpen [4]
    let stop : Call := .qualifierEdge .endClosed [6]
    let whole : List Call := [.qualifierRange (.ofEdges [(.startOpen, [4]), (.endClosed, [6])])]
    let onCells : List Call := [.family "f.", .columns, .cells]
    let crossed : List Call := [.endTimestamp 3, .startTimestamp 3]
    let found : List Row := [⟨[1], [⟨"f.", [⟨[6], [⟨3, [], []⟩]⟩]⟩]⟩]
    let r : Read columns := ⟨⟨⟨"p", "i", "t"⟩, none, {}, [.exact .family (Bytes.ofText "f."),
      .qualifierRange (some "f.") ⟨.unbounded, .included [6]⟩,
      .qualifierRange (some "f.") ⟨.excluded [4], .unbounded⟩], some "f."⟩⟩
    let unscoped : Read columns := ⟨{ r.draft with filters := r.draft.filters.map Filter.unscoped }⟩
    (∃ t : Read columns, Reached ⟨"p", "i", "t"⟩ none .rows (pre ++ [stop, start]) t) ∧
    (∃ t : Read columns, Reached ⟨"p", "i", "t"⟩ none .rows (pre ++ whole ++ []) t ∧
      (t.execute .memory m).1 = .ok (columns.project found)) ∧
    (unscoped.execute .memory m).1 = .ok (columns.project found) ∧
    ∃ t : Read (.narrow .cell .many columns),
      Reached ⟨"p", "i", "t"⟩ none .rows (onCells ++ crossed) t ∧
      (t.execute .memory m).1 = .ok (State.project _ []) := by
  intro ws m columns pre start stop whole onCells crossed found r unscoped
  obtain ⟨hbounds, hpair, hunscoped, htimestamps⟩ := half_bounds_agree m
  have hread : m.store.read r.request = .ok found := by decide +kernel
  have hfound : (r.execute .memory m).1 = .ok (columns.project found) := by
    rw [execute_memory, hread]
    rfl
  have hc : ∃ sieve, Filter.compileOptional r.request.filter = .ok sieve :=
    cause?_eq_none_iff.mp (by decide +kernel)
  let named : Filter := .exact .family (Bytes.ofText "f.")
  have hname : ∃ sieve, Filter.compileOptional (some named) = .ok sieve :=
    cause?_eq_none_iff.mp (by decide +kernel)
  have hr : Reached ⟨"p", "i", "t"⟩ none .rows (pre ++ [stop, start] ++ []) r :=
    reached_iff.mpr ⟨rfl, rfl⟩
  refine ⟨?halves, ?whole, (hunscoped _ _ _ _ _ r hr hc).trans hfound, ?timestamps⟩
  case halves =>
    obtain ⟨sieve, hname⟩ := hname
    let q : Read columns := ⟨⟨⟨"p", "i", "t"⟩, none, {}, [named], some "f."⟩⟩
    have hq : Reached ⟨"p", "i", "t"⟩ none .rows pre q := reached_iff.mpr ⟨rfl, rfl⟩
    obtain ⟨haccepted, _⟩ := hbounds _ _ _ _ _ q sieve [stop, start] hq hname
      (by simp [stop, start, Call.kind])
    exact haccepted.mpr (by simp [stop, start, Call.fault?])
  case whole =>
    have hsame := hpair pre [stop, start] [] [] .startOpen .endClosed [4] [6] trivial id
      (List.forall_mem_nil _) (.swap ..)
    obtain ⟨t, ht, he⟩ := hsame.left _ _ _ _ r hr hc
    exact ⟨t, ht, he.trans hfound⟩
  case timestamps =>
    obtain ⟨_, hnothing⟩ := htimestamps 3 3 crossed (.swap ..)
    let q : Read (.narrow .cell .many columns) :=
      ⟨⟨⟨"p", "i", "t"⟩, none, {}, [named], some "f."⟩⟩
    have hq : Reached ⟨"p", "i", "t"⟩ none .rows onCells q := reached_iff.mpr ⟨rfl, rfl⟩
    obtain ⟨t, _, ht, _, _, he⟩ := hnothing (Option.some_ne_none _) _ _ _ _ _ q hq hname
    exact ⟨t, ht, he⟩

end Read
end WideTable
