import WideTable.Proofs.Except
import WideTable.Proofs.Filter.Exchange
import WideTable.Proofs.Read.Bounds
import WideTable.Proofs.Read.FilterOrder
import WideTable.Proofs.Store.Reshaping

namespace WideTable

namespace Draft

variable {d d' : Draft} {c : Call} {xs ys : List Call}

def performAll (d : Draft) (calls : List Call) : Except ReadError Draft :=
  calls.foldlM perform d

theorem performAll_append_eq_ok :
    d.performAll (xs ++ ys) = .ok d' ↔ ∃ u, d.performAll xs = .ok u ∧ u.performAll ys = .ok d' := by
  rw [performAll, List.foldlM_append, Except.bind_eq_ok_iff]
  rfl

theorem performAll_cons_eq_ok :
    d.performAll (c :: xs) = .ok d' ↔ ∃ u, d.perform c = .ok u ∧ u.performAll xs = .ok d' := by
  rw [performAll, List.foldlM_cons, Except.bind_eq_ok_iff]
  rfl

-- The filters that are there make no difference to a call, which adds its own to any.
theorem perform_of_filters (h : d.perform c = .ok d') (fs : List Filter) :
    ({ d with filters := fs } : Draft).perform c =
      .ok { d' with filters := fs ++ c.filters d.family } := by
  cases c
  case addKeys | addKeyRange | addRowRange =>
    obtain ⟨selector, hs, rfl⟩ := select_eq_ok h
    simp only [perform, select, hs, Call.filters, List.append_nil]
    rfl
  case qualifierRange | timestampRange | valueRange =>
    obtain ⟨g, hg, rfl⟩ := pushRange_eq_ok h
    simp only [perform, hg, Call.filters]
    rfl
  case limitCells n =>
    cases h
    by_cases hn : n = 0 <;> simp [hn, perform, Call.filters, push]
  all_goals
    cases h
    simp [perform, Call.filters, push]

theorem performAll_of_filters (h : d.performAll xs = .ok d') :
    ∃ tail, d'.filters = d.filters ++ tail ∧
      ∀ fs, ({ d with filters := fs } : Draft).performAll xs =
        .ok { d' with filters := fs ++ tail } := by
  induction xs generalizing d
  case nil =>
    cases h
    exact ⟨[], by simp, fun fs => by simp [performAll]⟩
  case cons c xs ih =>
    have ⟨u, hu, hxs⟩ := performAll_cons_eq_ok.mp h
    have ⟨tail, ht, hfs⟩ := ih hxs
    have ⟨_, hf, _⟩ := perform_eq_ok hu
    refine ⟨c.filters d.family ++ tail, by rw [ht, hf, List.append_assoc], fun fs => ?_⟩
    rw [← List.append_assoc]
    exact performAll_cons_eq_ok.mpr ⟨_, perform_of_filters hu fs, hfs _⟩

end Draft

namespace Call

-- What is wrong with the range that a call gives, if it gives one.
def fault? : Call → Option RangeError
  | qualifierRange spec | valueRange spec => cause? spec.toSpan
  | timestampRange start stop => cause? (Filter.writtenBetween start stop)
  | _ => none

-- Calls that can be repeated without leaving their tier, below the rows.
def Kind.Repeats (k : Kind) : Prop :=
  k = .boundColumns ∨ k = .filterCells

variable {c : Call} {d d' : Draft}

theorem perform_of_repeats (hk : c.kind.Repeats) (d : Draft) :
    d.perform c =
      match c.fault? with
      | some cause => .error (.range cause)
      | none => .ok { d with filters := d.filters ++ c.filters d.family } := by
  cases c
  case qualifierRange spec =>
    rw [Draft.perform, fault?, filters, Filter.qualifiersIn]
    cases spec.toSpan <;> rfl
  case valueRange spec =>
    rw [Draft.perform, fault?, filters, Filter.valuesIn]
    cases spec.toSpan <;> rfl
  case timestampRange start stop =>
    rw [Draft.perform, fault?, filters]
    cases Filter.writtenBetween start stop <;> rfl
  case limitCells n =>
    by_cases hn : n = 0 <;> simp [hn, Draft.perform, filters, fault?, Draft.push]
  case qualifierEdge | startTimestamp | endTimestamp | valueRegex => rfl
  all_goals rcases hk with h | h <;> cases h

theorem perform_eq_ok_iff (hk : c.kind.Repeats) :
    d.perform c = .ok d' ↔
      c.fault? = none ∧ d' = { d with filters := d.filters ++ c.filters d.family } := by
  rw [perform_of_repeats hk]
  cases c.fault? <;> simp [eq_comm]

theorem performAll_eq_ok_iff {block : List Call} (hk : ∀ c ∈ block, c.kind.Repeats) :
    d.performAll block = .ok d' ↔
      (∀ c ∈ block, c.fault? = none) ∧
        d' = { d with filters := d.filters ++ block.flatMap (·.filters d.family) } := by
  induction block generalizing d
  case nil => simp [Draft.performAll, eq_comm]
  case cons c block ih =>
    obtain ⟨hc, hblock⟩ := List.forall_mem_cons.mp hk
    simp only [Draft.performAll_cons_eq_ok, perform_eq_ok_iff hc, ih hblock, List.forall_mem_cons,
      List.flatMap_cons]
    constructor
    case mp =>
      rintro ⟨u, ⟨hf, rfl⟩, hfs, rfl⟩
      exact ⟨⟨hf, hfs⟩, by simp⟩
    case mpr =>
      rintro ⟨⟨hf, hfs⟩, rfl⟩
      exact ⟨_, ⟨hf, rfl⟩, hfs, by simp⟩

end Call

namespace State

variable {s t : State} {k : Call.Kind} {block : List Call}

theorem eq_of_repeats (hk : k.Repeats) (h : s.nextOfKind? k = some t) : t = s := by
  have hn := Next.of_eq_some h
  rcases hk with rfl | rfl <;> cases hn <;> rfl

-- A block of calls leads nowhere else.
theorem run?_of_repeats (hk : k.Repeats) (hb : ∀ c ∈ block, c.kind = k) (hne : block ≠ [])
    (h : s.run? block = some t) : t = s ∧ s.nextOfKind? k = some s := by
  obtain ⟨c, cs, rfl⟩ := List.exists_cons_of_ne_nil hne
  rw [run?_cons] at h
  obtain ⟨u, hu, hcs⟩ := Option.bind_eq_some_iff.mp h
  rw [next?, hb c (.head _)] at hu
  cases eq_of_repeats hk hu
  have hrest : s.run? cs = some s :=
    run?_eq_self fun d hd => by rw [next?, hb d (.tail _ hd), hu]
  exact ⟨Option.some.inj (hcs.symm.trans hrest), hu⟩

end State

namespace Store

variable {s : Store} {fs gs : List Filter} {first second : Sieve}

-- Filters that leave the same of all stored rows give the same answer.
theorem read_eq_of_sieves (hf : Filter.inTurn fs = .ok first) (hg : Filter.inTurn gs = .ok second)
    (h : ∀ key stored, s.rows.find? key = some stored →
      first key (StoredRow.entries stored) = second key (StoredRow.entries stored))
    (r : Request) :
    s.read { r with filter := Filter.collapse? fs } =
      s.read { r with filter := Filter.collapse? gs } := by
  rw [read_collapse?, read_collapse?, hf, hg]
  refine congrArg (Except.ok ∘ limited r.limit) (List.filterMap_congr fun (key, stored) hm => ?_)
  have hm := SortedMap.mem_entries.mp (List.mem_of_mem_filter hm)
  simp only [Sieve.row?, h key stored hm]

end Store

namespace Read

variable {table : TableName} {profile : Option String} {e : Start} {calls block : List Call}
  {s : State} {r : Read s} {m : MemoryStore}

-- Calls lead to a read where they are possible one after the other and none of them fails.
theorem reached_iff :
    Reached table profile e calls r ↔
      e.state.run? calls = some s ∧
        (Read.start table profile e).draft.performAll calls = .ok r.draft := by
  constructor
  case mp =>
    intro h
    refine ⟨h.run?_eq, ?_⟩
    induction h
    case start => rfl
    case call hr ih =>
      refine Draft.performAll_append_eq_ok.mpr ⟨_, ih, ?_⟩
      exact Draft.performAll_cons_eq_ok.mpr ⟨_, perform_of_call hr, rfl⟩
  case mpr =>
    rintro ⟨hs, hd⟩
    induction calls using List.reverseRecOn generalizing s
    case nil =>
      cases hs
      obtain ⟨draft⟩ := r
      cases hd
      exact .start
    case append_singleton calls c ih =>
      have ⟨u, hu, hc⟩ := State.run?_concat_eq_some.mp hs
      have ⟨d, hcalls, hlast⟩ := Draft.performAll_append_eq_ok.mp hd
      have ⟨d', hp, hd'⟩ := Draft.performAll_cons_eq_ok.mp hlast
      cases hd'
      refine .call hc (ih (r := ⟨d⟩) hu hcalls) ?_
      rw [call, hp]
      rfl

theorem Reached.exists_prefix {xs ys : List Call} (h : Reached table profile e (xs ++ ys) r) :
    ∃ (u : State) (q : Read u), Reached table profile e xs q := by
  obtain ⟨hs, hd⟩ := reached_iff.mp h
  rw [State.run?_append] at hs
  obtain ⟨u, hu, _⟩ := Option.bind_eq_some_iff.mp hs
  obtain ⟨d, hxs, _⟩ := Draft.performAll_append_eq_ok.mp hd
  exact ⟨u, ⟨d⟩, reached_iff.mpr ⟨hu, hxs⟩⟩

-- A block of calls can be added at its tier as long as nothing is wrong with one of them.
theorem Reached.append_iff {k : Call.Kind} (hk : k.Repeats) (hs : s.nextOfKind? k = some s)
    {r t : Read s} (h : Reached table profile e calls r) (hb : ∀ c ∈ block, c.kind = k) :
    Reached table profile e (calls ++ block) t ↔ (∀ c ∈ block, c.fault? = none) ∧
      t.draft = { r.draft with
        filters := r.draft.filters ++ block.flatMap (·.filters r.draft.family) } := by
  obtain ⟨hcalls, hd⟩ := reached_iff.mp h
  have hrun : e.state.run? (calls ++ block) = some s := by
    rw [State.run?_append, hcalls, Option.bind_some]
    exact State.run?_eq_self fun c hc => by rw [State.next?, hb c hc, hs]
  have hrepeats : ∀ c ∈ block, c.kind.Repeats := fun c hc => hb c hc ▸ hk
  rw [reached_iff, Draft.performAll_append_eq_ok, ← Call.performAll_eq_ok_iff hrepeats]
  simp [hrun, hd]

theorem compileOptional_filter (r : Read s) :
    Filter.compileOptional r.request.filter = Filter.inTurn r.draft.filters :=
  Filter.compileOptional_collapse? r.draft.filters

-- The result of a read whose filters compile hangs only on what they leave of the stored rows.
theorem execute_eq_of_sieves {gs : List Filter} {first second : Sieve}
    (hf : Filter.inTurn r.draft.filters = .ok first) (hg : Filter.inTurn gs = .ok second)
    (h : ∀ key stored, m.store.rows.find? key = some stored →
      first key (StoredRow.entries stored) = second key (StoredRow.entries stored)) :
    ((Read.mk (s := s) { r.draft with filters := gs }).execute .memory m).1 =
      (r.execute .memory m).1 := by
  have hread : m.store.read r.request = m.store.read { r.request with filter := Filter.collapse? gs } :=
    Store.read_eq_of_sieves hf hg h r.request
  have ⟨rows, hok⟩ : ∃ rows, m.store.read r.request = .ok rows :=
    ⟨_, by rw [Store.read_eq, compileOptional_filter, hf]; rfl⟩
  have hok' : m.store.read (Read.mk (s := s) { r.draft with filters := gs }).request = .ok rows :=
    hread.symm.trans hok
  rw [execute_memory, execute_memory, hok, hok']
  rfl

-- Where the filters leave nothing, no row is found.
theorem execute_of_nothing {sieve : Sieve} (hc : Filter.compileOptional r.request.filter = .ok sieve)
    (h : ∀ key es, sieve key es = []) : (r.execute .memory m).1 = .ok (s.project []) := by
  have hrow : sieve.row? = fun _ => none := funext fun _ => if_pos (h _ _)
  have hread : m.store.read r.request = .ok [] := by
    simp [Store.read_eq, hc, hrow, Except.map, limited]
  rw [execute_memory, hread]
  split <;> rfl

-- All that the one calls lead to, the other ones do as well, with the same result. The patterns of the
-- calls compile.
def ReadAs (m : MemoryStore) (calls others : List Call) : Prop :=
  ∀ (table : TableName) (profile : Option String) (e : Start) (s : State) (r : Read s),
    Reached table profile e calls r →
    (∃ sieve, Filter.compileOptional r.request.filter = .ok sieve) →
    ∃ t : Read s, Reached table profile e others t ∧
      (t.execute .memory m).1 = (r.execute .memory m).1

def SameResults (m : MemoryStore) (calls others : List Call) : Prop :=
  ReadAs m calls others ∧ ReadAs m others calls

theorem SameResults.refl (m : MemoryStore) (calls : List Call) : SameResults m calls calls :=
  ⟨fun _ _ _ _ _ h _ => ⟨_, h, rfl⟩, fun _ _ _ _ _ h _ => ⟨_, h, rfl⟩⟩

-- If a block of calls is given entries as `P` has them, another block may stand in its place whose
-- filters do the same to these.
theorem readAs_of_sameOn {k : Call.Kind} {pre block' post : List Call}
    {P : Option String → List Entry → Prop} (hk : k.Repeats) (hne : block ≠ [])
    (hb : ∀ c ∈ block, c.kind = k) (hb' : ∀ c ∈ block', c.kind = k)
    (hP : ∀ {table : TableName} {profile : Option String} {e : Start} {s : State} {r : Read s},
      Reached table profile e pre r → ∀ sieve, Filter.inTurn r.draft.filters = .ok sieve →
      ∀ key stored, m.store.rows.find? key = some stored →
        P r.draft.family (sieve key (StoredRow.entries stored)))
    (hs : (∀ c ∈ block, c.fault? = none) →
      (∀ c ∈ block', c.fault? = none) ∧ ∀ family?, Filter.SameOn (P family?)
        (block.flatMap (·.filters family?)) (block'.flatMap (·.filters family?))) :
    ReadAs m (pre ++ block ++ post) (pre ++ block' ++ post) := by
  rintro table profile e s r h ⟨sieve, hc⟩
  obtain ⟨hrun, hd⟩ := reached_iff.mp h
  -- Where the calls lead to.
  rw [State.run?_append, State.run?_append, Option.bind_assoc] at hrun
  obtain ⟨u, hpre, hrun⟩ := Option.bind_eq_some_iff.mp hrun
  obtain ⟨v, hblock, hpost⟩ := Option.bind_eq_some_iff.mp hrun
  obtain ⟨rfl, hself⟩ := State.run?_of_repeats hk hb hne hblock
  have hblock' : v.run? block' = some v :=
    State.run?_eq_self fun c hc => by rw [State.next?, hb' c hc, hself]
  -- What they put together.
  obtain ⟨d₁, hd, hdpost⟩ := Draft.performAll_append_eq_ok.mp hd
  obtain ⟨d, hdpre, hdblock⟩ := Draft.performAll_append_eq_ok.mp hd
  obtain ⟨hfaults, rfl⟩ := (Call.performAll_eq_ok_iff fun c hc => hb c hc ▸ hk).mp hdblock
  obtain ⟨hfaults', hs⟩ := hs hfaults
  obtain ⟨tail, htail, hdpost⟩ := Draft.performAll_of_filters hdpost
  have hdblock' : d.performAll block' =
      .ok { d with filters := d.filters ++ block'.flatMap (·.filters d.family) } :=
    (Call.performAll_eq_ok_iff fun c hc => hb' c hc ▸ hk).mpr ⟨hfaults', rfl⟩
  refine ⟨⟨{ r.draft with filters := d.filters ++ block'.flatMap (·.filters d.family) ++ tail }⟩,
    reached_iff.mpr ⟨?run, ?draft⟩, ?result⟩
  case run =>
    rw [State.run?_append, State.run?_append, hpre, Option.bind_some, hblock', Option.bind_some, hpost]
  case draft =>
    refine Draft.performAll_append_eq_ok.mpr ⟨_, ?_, hdpost _⟩
    exact Draft.performAll_append_eq_ok.mpr ⟨d, hdpre, hdblock'⟩
  case result =>
    rw [compileOptional_filter] at hc
    obtain ⟨_, last, hbegin, hlast, rfl⟩ := Filter.inTurn_append_eq_ok.mp (htail ▸ hc)
    obtain ⟨first, middle, hfirst, hmiddle, rfl⟩ := Filter.inTurn_append_eq_ok.mp hbegin
    obtain ⟨middle', hmiddle', hsame⟩ := hs d.family middle hmiddle
    have hread : Reached table profile e pre (⟨d⟩ : Read v) := reached_iff.mpr ⟨hpre, hdpre⟩
    have hg := Filter.inTurn_append_eq_ok.mpr ⟨first, middle', hfirst, hmiddle', rfl⟩
    refine execute_eq_of_sieves hc (Filter.inTurn_append_eq_ok.mpr ⟨_, last, hg, hlast, rfl⟩) ?_
    exact fun key stored hm => congrArg (last key) (hsame key _ (hP hread first hfirst key stored hm))

end Read
end WideTable
