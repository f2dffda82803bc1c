import Mathlib
import WideTable.Read.Basic

namespace WideTable

namespace Call

-- The keys that a call adds to the selection.
def keys : Call → List RowKey
  | addKeys ks => ks
  | _ => []

-- What a call does to the selection of rows.
def select : Call → Selector.Change
  | addKeys ks => Selector.addKeys ks
  | addKeyRange start stop => Selector.addKeyRange start stop
  | addRowRange spec => Selector.addRowRange spec
  | limitRows n => modify (·.limitRows n)
  | _ => pure ()

-- The family that a call asks for by name.
def name? : Call → Option String
  | family name => some name
  | _ => none

-- What a call adds to the filters of a read of this family, or of any.
def filters (family? : Option String) : Call → List Filter
  | keyRegex pattern => [.matching .rowKey pattern]
  | family name => [.exact .family (Bytes.ofText name)]
  | familyRegex pattern => [.matching .family pattern]
  | familiesNamed names => [.exactAny .family (names.map Bytes.ofText)]
  | column qualifier => [.exact .qualifier qualifier]
  | columnRegex pattern => [.matching .qualifier pattern]
  | columnsNamed qualifiers => [.exactAny .qualifier qualifiers]
  | qualifierEdge edge qualifier => [.qualifierRange family? (Draft.edgeSpan qualifier edge)]
  | qualifierRange spec => (Filter.qualifiersIn family? spec).toOption.toList
  | latestCell => [.cellsPerColumn 1]
  | limitCells n => if n = 0 then [] else [.cellsPerColumn n]
  | timestampRange start stop => (Filter.writtenBetween start stop).toOption.toList
  | startTimestamp start => [.timestampRange (some start) none]
  | endTimestamp stop => [.timestampRange none (some stop)]
  | valueRegex pattern => [.matching .value pattern]
  | valueRange spec => (Filter.valuesIn spec).toOption.toList
  | addKeys _ | addKeyRange .. | addRowRange _ | limitRows _ | families | columns | cells => []
  | flatten => []

variable {c : Call}

-- Rows are selected before any family is asked for.
theorem filters_of_selectRows (h : c.kind = .selectRows) (f g : Option String) :
    c.filters f = c.filters g := by
  cases c <;> first | rfl | cases h

theorem isKeyRegex_of_selectRows (h : c.kind = .selectRows) {f : Option String} {g : Filter}
    (hg : g ∈ c.filters f) : ∃ pattern, g = .matching .rowKey pattern := by
  cases c
  case keyRegex => exact ⟨_, List.mem_singleton.mp hg⟩
  all_goals cases h <;> cases hg

theorem name?_of_ne_oneFamily (h : c.kind ≠ .oneFamily) : c.name? = none := by
  cases c <;> first | rfl | contradiction

theorem select_of_ne_selectRows (h : c.kind ≠ .selectRows) (s : Selector) :
    c.select.run s = .ok () s := by
  cases c <;> first | rfl | contradiction

-- Once there are keys, the only way on are more keys.
theorem rows_of_select {s t : Selector} {ks : List RowKey} (h : c.select.run s = .ok () t)
    (hs : s.rows = .keys ks) : t.rows = .keys (ks ++ c.keys) := by
  have hspan (span : Span) : (Selector.setSpan span).run s ≠ .ok () t := by
    rw [Selector.run_setSpan, hs]
    nofun
  cases c
  case addKeys =>
    rw [select, Selector.run_addKeys, hs] at h
    cases h
    rfl
  case addKeyRange start stop =>
    cases start <;> cases stop
    case none.none => cases h
    all_goals exact absurd h (hspan _)
  case addRowRange spec =>
    rw [select, Selector.run_addRowRange] at h
    cases hsp : spec.toSpan <;> rw [hsp] at h
    case error => cases h
    case ok => exact absurd h (hspan _)
  all_goals
    cases h
    exact hs.trans (congrArg _ (List.append_nil ks).symm)

end Call

-- The keys that a read starts with.
def Start.keys : Start → List RowKey
  | row key => [key]
  | rows => []
  | rowsWithKeys keys => keys

namespace Draft

variable {d d' : Draft} {c : Call}

theorem select_eq_ok {change : Selector.Change} (h : d.select change = .ok d') :
    ∃ selector, change.run d.selector = .ok () selector ∧ d' = { d with selector } := by
  rw [select] at h
  cases hc : change.run d.selector <;> rw [hc] at h <;> cases h
  exact ⟨_, rfl, rfl⟩

theorem pushRange_eq_ok {f : Except RangeError Filter} (h : d.pushRange f = .ok d') :
    ∃ g, f = .ok g ∧ d' = d.push g := by
  cases f <;> cases h
  exact ⟨_, rfl, rfl⟩

-- All that a call does to a draft, if it does not fail.
theorem perform_eq_ok (h : d.perform c = .ok d') :
    c.select.run d.selector = .ok () d'.selector ∧
      d'.filters = d.filters ++ c.filters d.family ∧
      d'.family = c.name?.or d.family := by
  cases c
  case addKeys | addKeyRange | addRowRange =>
    obtain ⟨selector, hs, rfl⟩ := select_eq_ok h
    exact ⟨hs, (List.append_nil _).symm, rfl⟩
  case qualifierRange | timestampRange | valueRange =>
    obtain ⟨g, hg, rfl⟩ := pushRange_eq_ok h
    refine ⟨rfl, ?_, rfl⟩
    rw [Call.filters, hg]
    rfl
  case limitCells n =>
    cases h
    by_cases hn : n = 0 <;> simp [hn, Call.select, Call.filters, Call.name?, push]
  all_goals
    cases h
    simp [Call.select, Call.filters, Call.name?, push]

-- What a draft is of stays as it is.
theorem table_of_perform (h : d.perform c = .ok d') :
    d'.table = d.table ∧ d'.profile = d.profile := by
  cases c
  case addKeys | addKeyRange | addRowRange =>
    obtain ⟨_, _, rfl⟩ := select_eq_ok h
    exact ⟨rfl, rfl⟩
  case qualifierRange | timestampRange | valueRange =>
    obtain ⟨_, _, rfl⟩ := pushRange_eq_ok h
    exact ⟨rfl, rfl⟩
  case limitCells n =>
    cases h
    by_cases hn : n = 0 <;> simp [hn, push]
  all_goals
    cases h
    exact ⟨rfl, rfl⟩

end Draft

-- The calls that narrow to one part at the tier.
def Tier.toOne : Tier → Call.Kind
  | family => .oneFamily
  | column => .oneColumn
  | cell => .latestCell

namespace State

variable {s t : State} {k : Call.Kind}

-- Whether a read was of one row or of many when it started.
def base : State → Cardinality
  | rows c => c
  | narrow _ _ parent => parent.base
  | flatten parent => parent.base

-- A read was narrowed to one part at the tier.
def narrowsTo (tier : Tier) : State → Prop
  | rows _ => False
  | narrow t c parent => (t = tier ∧ c = .one) ∨ parent.narrowsTo tier
  | flatten parent => parent.narrowsTo tier

-- Rows, then families, then columns, then cells, and lists of them with levels dropped.
inductive Typed : State → Prop
  | rows (c : Cardinality) : Typed (rows c)
  | family (c d : Cardinality) : Typed (narrow .family c (rows d))
  | column (b c d : Cardinality) : Typed (narrow .column b (narrow .family c (rows d)))
  | cell (a b c d : Cardinality) :
      Typed (narrow .cell a (narrow .column b (narrow .family c (rows d))))
  | flatten {s : State} : Typed s → s.shape.isNested = true → Typed (flatten s)

-- All that a call of some kind can do to a state.
inductive Next : State → Call.Kind → State → Prop
  | selectRows : Next (rows .many) .selectRows (rows .many)
  | oneFamily {c : Cardinality} : Next (rows c) .oneFamily (narrow .family .one (rows c))
  | manyFamilies {c : Cardinality} : Next (rows c) .manyFamilies (narrow .family .many (rows c))
  | oneColumn {p : State} :
      Next (narrow .family .one p) .oneColumn (narrow .column .one (narrow .family .one p))
  | manyColumns {c : Cardinality} {p : State} :
      Next (narrow .family c p) .manyColumns (narrow .column .many (narrow .family c p))
  | boundColumns {p : State} : Next (narrow .column .many p) .boundColumns (narrow .column .many p)
  | latestCell {c : Cardinality} {p : State} :
      Next (narrow .column c p) .latestCell (narrow .cell .one (narrow .column c p))
  | allCells {c : Cardinality} {p : State} :
      Next (narrow .column c p) .allCells (narrow .cell .many (narrow .column c p))
  | filterCells {p : State} : Next (narrow .cell .many p) .filterCells (narrow .cell .many p)
  | flatten {s : State} : s.shape.isNested = true → Next s .flatten (flatten s)

theorem Next.of_eq_some (h : s.nextOfKind? k = some t) : Next s k t := by
  revert h
  fun_cases nextOfKind? s k
  case case1 hn => intro h; cases h; exact .flatten hn
  all_goals intro h; cases h <;> constructor

namespace Next

theorem typed (h : Next s k t) (hs : s.Typed) : t.Typed := by
  cases h
  case flatten hn => exact hs.flatten hn
  all_goals cases hs; constructor

theorem base (h : Next s k t) : t.base = s.base := by
  cases h <;> rfl

theorem narrowsTo (h : Next s k t) {tier : Tier} (ht : t.narrowsTo tier) :
    s.narrowsTo tier ∨ k = tier.toOne := by
  cases h
  case oneFamily | oneColumn | latestCell =>
    rcases ht with ⟨rfl, -⟩ | hp
    · exact .inr rfl
    · exact .inl hp
  case manyFamilies | manyColumns | allCells => exact .inl (ht.resolve_left nofun)
  all_goals exact .inl ht

end Next
end State

end WideTable
