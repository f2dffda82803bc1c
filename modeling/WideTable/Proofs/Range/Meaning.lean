import WideTable.Proofs.Store.Search

namespace WideTable

namespace RangeSpec

variable {edges : List (Edge × Bytes)} {e : Edge}

-- Some value was given for the edge.
def Given (edges : List (Edge × Bytes)) (e : Edge) : Prop :=
  ∃ v, (e, v) ∈ edges

theorem isSome_value?_ofEdges : ((ofEdges edges).value? e).isSome ↔ Given edges e := by
  rw [value?_ofEdges, lastValue_isSome_iff, Given]

theorem ofEdges_eq_empty_iff : ofEdges edges = {} ↔ ∀ e, ¬Given edges e := by
  have hnone (e : Edge) : (ofEdges edges).value? e = none ↔ ¬Given edges e := by
    rw [← isSome_value?_ofEdges, Option.not_isSome_iff_eq_none]
  constructor
  case mp =>
    intro h e
    rw [← hnone, h]
    cases e <;> rfl
  case mpr =>
    intro h
    refine ext_value? fun e => ?_
    rw [(hnone e).mpr (h e)]
    cases e <;> rfl

instance : Decidable (Given edges e) :=
  decidable_of_iff _ isSome_value?_ofEdges

-- Both kinds of an edge are given.
def StartConflict (edges : List (Edge × Bytes)) : Prop :=
  Given edges .startClosed ∧ Given edges .startOpen

def EndConflict (edges : List (Edge × Bytes)) : Prop :=
  Given edges .endClosed ∧ Given edges .endOpen

instance : Decidable (StartConflict edges) :=
  inferInstanceAs (Decidable (_ ∧ _))

instance : Decidable (EndConflict edges) :=
  inferInstanceAs (Decidable (_ ∧ _))

theorem fault?_ofEdges (edges : List (Edge × Bytes)) :
    (ofEdges edges).fault? =
      if StartConflict edges then some .startConflict
      else if EndConflict edges then some .endConflict
      else if ofEdges edges = {} then some .noBound
      else none := by
  have hs : StartConflict edges ↔
      (ofEdges edges).startClosed.isSome ∧ (ofEdges edges).startOpen.isSome :=
    and_congr isSome_value?_ofEdges.symm isSome_value?_ofEdges.symm
  have he : EndConflict edges ↔
      (ofEdges edges).endClosed.isSome ∧ (ofEdges edges).endOpen.isSome :=
    and_congr isSome_value?_ofEdges.symm isSome_value?_ofEdges.symm
  simp only [fault?, hs, he]

theorem not_startConflict_of_eq_empty (h : ofEdges edges = {}) : ¬StartConflict edges :=
  fun hs => ofEdges_eq_empty_iff.mp h _ hs.left

theorem not_endConflict_of_eq_empty (h : ofEdges edges = {}) : ¬EndConflict edges :=
  fun he => ofEdges_eq_empty_iff.mp h _ he.left

theorem admits_ofEdges_iff {w : Bytes} :
    (ofEdges edges).Admits w ↔ ∀ e v, lastValue edges e = some v → e.Admits v w := by
  simp only [Admits, value?_ofEdges, Option.mem_def]

theorem ofEdges_congr {others : List (Edge × Bytes)}
    (h : ∀ e, lastValue others e = lastValue edges e) : ofEdges others = ofEdges edges :=
  ext_value? fun e => by rw [value?_ofEdges, value?_ofEdges, h]

theorem ofEdges_swap {a b : Edge} (h : a ≠ b) (v w : Bytes) (pre post : List (Edge × Bytes)) :
    ofEdges (pre ++ (a, v) :: (b, w) :: post) = ofEdges (pre ++ (b, w) :: (a, v) :: post) := by
  simp only [ofEdges, List.foldl_append, List.foldl_cons, set_comm _ v w h]

variable {spec : RangeSpec} {span : Span} {cause : RangeError}

-- What is wrong with a specification is wrong with all that is made of it.
theorem refused_of_toSpan (h : spec.toSpan = .error cause) :
    (∀ family?, Filter.qualifiersIn family? spec = .error cause) ∧
      Filter.range .value spec = .error cause ∧
      ∀ sel, (Selector.addRowRange spec).run sel = .error (.range cause) sel := by
  refine ⟨fun family? => congrArg (Except.map _) h, congrArg (Except.map _) h, fun sel => ?_⟩
  rw [Selector.run_addRowRange, h]

theorem kept_of_toSpan (h : spec.toSpan = .ok span) :
    (∀ family?, ∃ f sieve, Filter.qualifiersIn family? spec = .ok f ∧ f.compile = .ok sieve ∧
      ∀ key es, sieve key es =
        es.filter fun x => family?.all (· = x.family) && span.contains x.qualifier) ∧
    (∃ f sieve, Filter.range .value spec = .ok f ∧ f.compile = .ok sieve ∧
      ∀ key es, sieve key es = es.filter fun x => span.contains x.cell.value) ∧
    ∀ sel : Selector, (∀ keys, sel.rows ≠ .keys keys) →
      ∃ t range, (Selector.addRowRange spec).run sel = .ok () t ∧
        t.rows = .range range ∧ (∀ key, range.contains key = span.contains key) ∧
        ∀ s : Store, s.select t.rows = s.rows.entries.filter fun x => span.contains x.1 := by
  refine ⟨fun family? => ⟨_, _, congrArg (Except.map _) h, rfl, fun _ _ => rfl⟩,
    ⟨_, _, congrArg (Except.map _) h, rfl, fun _ _ => rfl⟩, fun sel hsel => ?_⟩
  refine ⟨{ sel with rows := .range span }, span, ?_, rfl, fun _ => rfl,
    fun s => s.select_eq_filter _⟩
  rw [Selector.run_addRowRange, h]
  exact Selector.run_setSpan_of_ne_keys hsel span

theorem ofEdges_meaning (edges : List (Edge × Bytes)) :
    let spec := ofEdges edges
    ((∃ span, spec.toSpan = .ok span) ↔
      (∃ e, Given edges e) ∧ ¬StartConflict edges ∧ ¬EndConflict edges) ∧
    (spec.toSpan = .error .startConflict ↔ StartConflict edges) ∧
    (spec.toSpan = .error .endConflict ↔ ¬StartConflict edges ∧ EndConflict edges) ∧
    (spec.toSpan = .error .noBound ↔ ∀ e, ¬Given edges e) ∧
    (∀ cause, spec.toSpan = .error cause →
      (∀ family?, Filter.qualifiersIn family? spec = .error cause) ∧
      Filter.range .value spec = .error cause ∧
      ∀ sel, (Selector.addRowRange spec).run sel = .error (.range cause) sel) ∧
    (∀ others, (∀ e, lastValue others e = lastValue edges e) → ofEdges others = spec) ∧
    (∀ pre post a b v w, a ≠ b → edges = pre ++ (a, v) :: (b, w) :: post →
      ofEdges (pre ++ (b, w) :: (a, v) :: post) = spec) ∧
    ∀ span, spec.toSpan = .ok span → ∃ keeps : Bytes → Bool,
      (∀ w, keeps w = true ↔ ∀ e v, lastValue edges e = some v → e.Admits v w) ∧
      (∀ family?, ∃ f sieve, Filter.qualifiersIn family? spec = .ok f ∧ f.compile = .ok sieve ∧
        ∀ key es, sieve key es =
          es.filter fun x => family?.all (· = x.family) && keeps x.qualifier) ∧
      (∃ f sieve, Filter.range .value spec = .ok f ∧ f.compile = .ok sieve ∧
        ∀ key es, sieve key es = es.filter fun x => keeps x.cell.value) ∧
      ∀ sel : Selector, (∀ keys, sel.rows ≠ .keys keys) →
        ∃ t range, (Selector.addRowRange spec).run sel = .ok () t ∧
          t.rows = .range range ∧ (∀ key, range.contains key = keeps key) ∧
          ∀ s : Store, s.select t.rows = s.rows.entries.filter fun x => keeps x.1 := by
  intro spec
  have hf := fault?_ofEdges edges
  refine ⟨?accepted, ?startConflict, ?endConflict, ?noBound, fun _ => refused_of_toSpan,
    fun _ => ofEdges_congr, ?swap, fun span h => ⟨span.contains, ?kept, kept_of_toSpan h⟩⟩
  case accepted =>
    rw [exists_toSpan_eq_ok_iff, hf]
    have hempty : ofEdges edges = {} ↔ ∀ e, ¬Given edges e := ofEdges_eq_empty_iff
    grind
  case startConflict =>
    rw [toSpan_eq_error_iff, hf]
    grind
  case endConflict =>
    rw [toSpan_eq_error_iff, hf]
    grind
  case noBound =>
    rw [toSpan_eq_error_iff, hf, ← ofEdges_eq_empty_iff]
    grind [not_startConflict_of_eq_empty, not_endConflict_of_eq_empty]
  case swap =>
    rintro pre post a b v w hab rfl
    exact (ofEdges_swap hab v w pre post).symm
  case kept =>
    intro w
    rw [contains_iff_admits h, admits_ofEdges_iff]

-- The first of two starts does not count. What is left has the end but nothing that begins with it.
theorem ofEdges_meaning_of_two_starts :
    let edges : List (Edge × Bytes) := [(.startOpen, [200]), (.endClosed, [7]), (.startOpen, [])]
    let spec := ofEdges edges
    let s := Store.ofWrites [⟨[], "f", [], ⟨0, [], []⟩⟩, ⟨[6, 255], "f", [], ⟨0, [], []⟩⟩,
      ⟨[7], "f", [], ⟨0, [], []⟩⟩, ⟨[7, 0], "f", [], ⟨0, [], []⟩⟩]
    spec = ofEdges [(.endClosed, [7]), (.startOpen, [])] ∧
    spec = ofEdges [(.endClosed, [7]), (.startOpen, [200]), (.startOpen, [])] ∧
    (∃ t, (Selector.addRowRange spec).run {} = .ok () t ∧
      (s.select t.rows).map (·.1) = [[6, 255], [7]]) ∧
    let both := ofEdges [(.endOpen, [1]), (.startClosed, []), (.endClosed, []), (.startOpen, [])]
    Filter.range .value both = .error .startConflict := by
  intro edges spec s
  have ⟨_, _, _, _, _, hlast, hswap, hkept⟩ := ofEdges_meaning edges
  have ⟨keeps, hkeeps, _, _, hrows⟩ := hkept ⟨.excluded [], .included [7]⟩ rfl
  refine ⟨(hlast _ ?last).symm, (hswap [] _ _ _ _ _ (by decide) rfl).symm, ?selected, ?refused⟩
  case last =>
    intro e
    cases e <;> rfl
  case selected =>
    have ⟨t, _, ht, _, _, hs⟩ := hrows {} nofun
    refine ⟨t, ht, ?_⟩
    have hk (w : Bytes) : keeps w = decide (spec.Admits w) := by
      rw [Bool.eq_iff_iff, hkeeps, decide_eq_true_iff, admits_ofEdges_iff]
    simp only [hs, hk]
    decide +kernel
  case refused =>
    have ⟨_, hconflict, _, _, hrefused, _⟩ := ofEdges_meaning
      [(.endOpen, [1]), (.startClosed, []), (.endClosed, []), (.startOpen, [])]
    exact (hrefused _ (hconflict.mpr (by decide))).right.left

end RangeSpec
end WideTable
