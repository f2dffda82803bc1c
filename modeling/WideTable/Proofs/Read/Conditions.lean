import WideTable.Proofs.Range.Edges
import WideTable.Proofs.Read.Exchange

namespace WideTable

theorem Draft.contains_edgeSpan {v w : Bytes} {e : Edge} :
    (edgeSpan v e).contains w = true ↔ e.Admits v w := by
  cases e <;>
    simp [edgeSpan, Span.contains, Bound.admitsFrom, Bound.admitsUpTo, Edge.Admits,
      Bytes.eq_or_precedes_iff_le]
  case startOpen | endOpen => exact Bytes.precedes_iff_lt.symm

namespace Call

-- What is asked of a cell.
def keeps : Call → Entry → Bool
  | qualifierEdge edge v, e => edge.Admits v e.qualifier
  | qualifierRange spec, e => spec.Admits e.qualifier
  | timestampRange start stop, e =>
    start.all (· ≤ e.cell.timestamp) && stop.all (e.cell.timestamp < ·)
  | startTimestamp start, e => start ≤ e.cell.timestamp
  | endTimestamp stop, e => e.cell.timestamp < stop
  | valueRegex pattern, e =>
    (Pattern.compile (Bytes.ofText pattern)).toOption.all (·.occursIn e.cell.value)
  | valueRange spec, e => spec.Admits e.cell.value
  | _, _ => true

-- Limits look at more than one cell.
def IsCondition (c : Call) : Prop :=
  c.kind.Repeats ∧ ∀ n, c ≠ .limitCells n

variable {c : Call} {family? : Option String} {sieve : Sieve} {key : RowKey} {es : List Entry}
  {block : List Call}

theorem eq_filter_keeps (hc : c.IsCondition) (hf : c.fault? = none)
    (h : Filter.inTurn (c.filters family?) = .ok sieve) (key : RowKey)
    (hes : ∀ e ∈ es, family?.all (· = e.family)) : sieve key es = es.filter c.keeps := by
  cases c
  case qualifierEdge edge v =>
    rw [filters, Filter.inTurn_singleton] at h
    cases h
    refine List.filter_congr fun e he => ?_
    rw [hes e he, Bool.true_and, Bool.eq_iff_iff, Draft.contains_edgeSpan, keeps, decide_eq_true_iff]
  case qualifierRange spec =>
    obtain ⟨span, hs⟩ := cause?_eq_none_iff.mp hf
    rw [filters, Filter.qualifiersIn, hs] at h
    cases (Filter.inTurn_singleton _).symm.trans h
    refine List.filter_congr fun e he => ?_
    rw [hes e he, Bool.true_and, Bool.eq_iff_iff, RangeSpec.contains_iff_admits hs, keeps,
      decide_eq_true_iff]
  case timestampRange start stop =>
    obtain ⟨f, hs⟩ := cause?_eq_none_iff.mp hf
    rw [filters, hs, Filter.writtenBetween_eq_ok hs] at h
    cases (Filter.inTurn_singleton _).symm.trans h
    rfl
  case startTimestamp | endTimestamp =>
    cases (Filter.inTurn_singleton _).symm.trans h
    refine List.filter_congr fun e _ => ?_
    simp [keeps]
  case valueRegex pattern =>
    rw [filters, Filter.inTurn_singleton, Filter.matching, Filter.compile] at h
    cases hp : Pattern.compile (Bytes.ofText pattern) <;> rw [hp] at h <;> cases h
    rw [Sieve.matching_eq_filter]
    refine List.filter_congr fun e _ => ?_
    simp [keeps, hp, Except.toOption, Field.content]
  case valueRange spec =>
    obtain ⟨span, hs⟩ := cause?_eq_none_iff.mp hf
    rw [filters, Filter.valuesIn, hs] at h
    cases (Filter.inTurn_singleton _).symm.trans h
    refine List.filter_congr fun e _ => ?_
    rw [Bool.eq_iff_iff, RangeSpec.contains_iff_admits hs, keeps, decide_eq_true_iff]
  case limitCells n => exact absurd rfl (hc.right n)
  all_goals rcases hc.left with h | h <;> cases h

theorem eq_filter_all_keeps (hc : ∀ c ∈ block, c.IsCondition) (hf : ∀ c ∈ block, c.fault? = none)
    (h : Filter.inTurn (block.flatMap (·.filters family?)) = .ok sieve) (key : RowKey)
    (hes : ∀ e ∈ es, family?.all (· = e.family)) :
    sieve key es = es.filter fun e => block.all (·.keeps e) := by
  induction block generalizing es sieve
  case nil =>
    cases h
    simp [Sieve.chain]
  case cons c block ih =>
    obtain ⟨hc, hblock⟩ := List.forall_mem_cons.mp hc
    obtain ⟨hf, hfs⟩ := List.forall_mem_cons.mp hf
    rw [List.flatMap_cons] at h
    obtain ⟨first, second, hfirst, hsecond, rfl⟩ := Filter.inTurn_append_eq_ok.mp h
    have hkept := eq_filter_keeps hc hf hfirst key hes
    rw [Sieve.andThen, hkept, ih hblock hfs hsecond fun e he => hes e (List.mem_of_mem_filter he),
      List.filter_filter]
    refine List.filter_congr fun e _ => ?_
    rw [List.all_cons, Bool.and_comm]

theorem exists_inTurn_flatMap_iff :
    (∃ sieve, Filter.inTurn (block.flatMap (·.filters family?)) = .ok sieve) ↔
      ∀ c ∈ block, ∃ sieve, Filter.inTurn (c.filters family?) = .ok sieve := by
  induction block
  case nil => exact iff_of_true ⟨_, rfl⟩ nofun
  case cons c block ih =>
    rw [List.flatMap_cons, List.forall_mem_cons, ← ih]
    constructor
    case mp =>
      rintro ⟨_, h⟩
      obtain ⟨first, second, hfirst, hsecond, _⟩ := Filter.inTurn_append_eq_ok.mp h
      exact ⟨⟨first, hfirst⟩, second, hsecond⟩
    case mpr =>
      rintro ⟨⟨first, hfirst⟩, second, hsecond⟩
      exact ⟨_, Filter.inTurn_append_eq_ok.mpr ⟨first, second, hfirst, hsecond, rfl⟩⟩

end Call

namespace Read

variable {table : TableName} {profile : Option String} {e : Start} {calls : List Call} {s : State}
  {r : Read s} {sieve : Sieve} {m : MemoryStore} {k : Call.Kind} {pre block block' post : List Call}

-- Once a family was asked for by name, nothing of another one is left.
theorem Reached.family_of_mem (h : Reached table profile e calls r)
    (hs : Filter.inTurn r.draft.filters = .ok sieve) {key : RowKey} {es : List Entry} :
    ∀ x ∈ sieve key es, r.draft.family.all (· = x.family) := by
  cases hf : r.draft.family
  case none => exact fun _ _ => rfl
  case some f =>
    have hm : .exact .family (Bytes.ofText f) ∈ r.draft.filters :=
      h.mem_filters (h.family_eq_some_iff.mp hf) (.head _)
    have hfamily := Filter.forall_mem_of_inTurn hs hm (p := fun x => x.family = f) (fun _ hx => hx)
      fun keep hkeep key es x hx => by
        rw [Filter.eq_only_of_compile hkeep, Sieve.only_family] at hx
        exact of_decide_eq_true (List.mem_filter.mp hx).right
    exact fun x hx => by simp [hfamily key es x hx]

-- Two blocks are as good as each other if they ask the same of each cell.
theorem readAs_of_keeps (hk : k.Repeats) (hne : block ≠ [])
    (hb : ∀ c ∈ block, c.kind = k ∧ ∀ n, c ≠ .limitCells n)
    (hb' : ∀ c ∈ block', c.kind = k ∧ ∀ n, c ≠ .limitCells n)
    (hsound : (∀ c ∈ block, c.fault? = none) →
      (∀ c ∈ block', c.fault? = none) ∧ ∀ e, block.all (·.keeps e) = block'.all (·.keeps e))
    (hcompile : ∀ family?, (∀ c ∈ block, ∃ sieve, Filter.inTurn (c.filters family?) = .ok sieve) →
      ∀ c ∈ block', ∃ sieve, Filter.inTurn (c.filters family?) = .ok sieve) :
    ReadAs m (pre ++ block ++ post) (pre ++ block' ++ post) := by
  have hcondition : ∀ c ∈ block, c.IsCondition := fun c hc => ⟨(hb c hc).left ▸ hk, (hb c hc).right⟩
  have hcondition' : ∀ c ∈ block', c.IsCondition :=
    fun c hc => ⟨(hb' c hc).left ▸ hk, (hb' c hc).right⟩
  refine readAs_of_sameOn (P := fun family? es => ∀ e ∈ es, family?.all (· = e.family)) hk hne
    (fun c hc => (hb c hc).left) (fun c hc => (hb' c hc).left) (fun h _ hs _ _ _ => h.family_of_mem hs)
    fun hf => ?_
  have ⟨hf', hkeeps⟩ := hsound hf
  refine ⟨hf', fun family? first hfirst => ?_⟩
  obtain ⟨second, hsecond⟩ := Call.exists_inTurn_flatMap_iff.mpr
    (hcompile family? (Call.exists_inTurn_flatMap_iff.mp ⟨first, hfirst⟩))
  refine ⟨second, hsecond, fun key es hes => ?_⟩
  rw [Call.eq_filter_all_keeps hcondition hf hfirst key hes,
    Call.eq_filter_all_keeps hcondition' hf' hsecond key hes]
  exact List.filter_congr fun e _ => hkeeps e

-- The block keeps what meets its conditions, of all that was left without it.
theorem Reached.append_keeps {k : Call.Kind} (hk : k.Repeats) (hs : s.nextOfKind? k = some s)
    {r t : Read s} {before : Sieve} (h : Reached table profile e calls r)
    (hc : Filter.compileOptional r.request.filter = .ok before)
    (hb : ∀ c ∈ block, c.kind = k ∧ ∀ n, c ≠ .limitCells n)
    (hblock : ∀ c ∈ block, ∃ sieve, Filter.inTurn (c.filters r.draft.family) = .ok sieve)
    (ht : Reached table profile e (calls ++ block) t) :
    ∃ after, Filter.compileOptional t.request.filter = .ok after ∧
      ∀ key es, after key es = (before key es).filter fun x => block.all (·.keeps x) := by
  obtain ⟨hf, hd⟩ := (h.append_iff hk hs fun c hm => (hb c hm).left).mp ht
  rw [compileOptional_filter] at hc
  have ⟨last, hlast⟩ := Call.exists_inTurn_flatMap_iff.mpr hblock
  refine ⟨before.andThen last, ?_, fun key es => ?_⟩
  · rw [compileOptional_filter, hd]
    exact Filter.inTurn_append_eq_ok.mpr ⟨before, last, hc, hlast, rfl⟩
  · exact Call.eq_filter_all_keeps (fun c hm => ⟨(hb c hm).left ▸ hk, (hb c hm).right⟩) hf hlast key
      (h.family_of_mem hc)

theorem sameResults_of_keeps {k : Call.Kind} (hk : k.Repeats) (hne : block ≠ []) (hne' : block' ≠ [])
    (hb : ∀ c ∈ block, c.kind = k ∧ ∀ n, c ≠ .limitCells n)
    (hb' : ∀ c ∈ block', c.kind = k ∧ ∀ n, c ≠ .limitCells n)
    (hf : (∀ c ∈ block, c.fault? = none) ↔ ∀ c ∈ block', c.fault? = none)
    (hkeeps : ∀ e, block.all (·.keeps e) = block'.all (·.keeps e))
    (hc : ∀ family?, ∀ c ∈ block, ∃ sieve, Filter.inTurn (c.filters family?) = .ok sieve)
    (hc' : ∀ family?, ∀ c ∈ block', ∃ sieve, Filter.inTurn (c.filters family?) = .ok sieve) :
    SameResults m (pre ++ block ++ post) (pre ++ block' ++ post) :=
  ⟨readAs_of_keeps hk hne hb hb' (fun h => ⟨hf.mp h, hkeeps⟩) fun family? _ => hc' family?,
    readAs_of_keeps hk hne' hb' hb (fun h => ⟨hf.mpr h, fun e => (hkeeps e).symm⟩)
      fun family? _ => hc family?⟩

end Read
end WideTable
