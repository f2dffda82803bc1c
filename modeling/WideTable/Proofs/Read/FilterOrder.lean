import WideTable.Proofs.Read.Order

namespace WideTable

namespace Filter

def IsRegexOn (field : Field) : Filter → Prop
  | regex f _ => f = field
  | _ => False

def IsRangeIn (family? : Option String) : Filter → Prop
  | qualifierRange f _ => f = family?
  | _ => False

-- What is asked of single cells. A limit leaves some of each column.
def IsOnCells : Filter → Prop
  | cellsPerColumn n => n ≠ 0
  | timestampRange .. | valueRange _ => True
  | regex field _ => field = .value
  | _ => False

-- The filters of a read: on row keys, then at most one on families and at most one on columns, then
-- ranges of columns in the family, if one was asked for by name, and at last those on cells.
def Ordered (family? : Option String) (fs : List Filter) : Prop :=
  ∃ (keys : List Filter) (family column : Option Filter) (ranges cells : List Filter),
    fs = keys ++ family.toList ++ column.toList ++ ranges ++ cells ∧
    (∀ f ∈ keys, f.IsRegexOn .rowKey) ∧
    (∀ f ∈ family, f = blockAll ∨ f.IsRegexOn .family) ∧
    (∀ f ∈ column, f = blockAll ∨ f.IsRegexOn .qualifier) ∧
    (∀ f ∈ ranges, f.IsRangeIn family?) ∧
    (cells = [cellsPerColumn 1] ∨ ∀ f ∈ cells, f.IsOnCells)

theorem exactAny_eq_or (field : Field) (ls : List Bytes) :
    exactAny field ls = blockAll ∨ (exactAny field ls).IsRegexOn field := by
  cases ls
  case nil => exact .inl rfl
  case cons => exact .inr rfl

variable {spec : RangeSpec} {family? : Option String} {f : Filter} {start stop : Option Int64}

theorem qualifiersIn_eq_ok (h : qualifiersIn family? spec = .ok f) :
    ∃ span, f = qualifierRange family? span := by
  rw [qualifiersIn] at h
  cases hs : spec.toSpan <;> rw [hs] at h <;> cases h
  exact ⟨_, rfl⟩

theorem valuesIn_eq_ok (h : valuesIn spec = .ok f) : ∃ span, f = valueRange span := by
  rw [valuesIn] at h
  cases hs : spec.toSpan <;> rw [hs] at h <;> cases h
  exact ⟨_, rfl⟩

theorem writtenBetween_eq_ok (h : writtenBetween start stop = .ok f) :
    f = timestampRange start stop := by
  cases start <;> cases stop
  case none.none => cases h
  case some.some s e =>
    rw [writtenBetween] at h
    split at h <;> cases h
    rfl
  all_goals
    cases h
    rfl

end Filter

theorem mem_toOption_toList {ε α : Type} {x : Except ε α} {a : α} :
    a ∈ x.toOption.toList ↔ x = .ok a := by
  cases x <;> simp [Except.toOption, eq_comm]

namespace Call

variable {c : Call} {family? : Option String} {f : Filter}

theorem isRangeIn_of_boundColumns (h : c.kind = .boundColumns) (hf : f ∈ c.filters family?) :
    f.IsRangeIn family? := by
  cases c
  case qualifierEdge edge qualifier =>
    cases List.mem_singleton.mp hf
    rfl
  case qualifierRange spec =>
    have ⟨span, hs⟩ := Filter.qualifiersIn_eq_ok (mem_toOption_toList.mp hf)
    exact hs ▸ rfl
  all_goals cases h

theorem isOnCells_of_filterCells (h : c.kind = .filterCells) (hf : f ∈ c.filters family?) :
    f.IsOnCells := by
  cases c
  case limitCells n =>
    rw [filters] at hf
    split at hf
    case isTrue => cases hf
    case isFalse hn =>
      cases List.mem_singleton.mp hf
      exact hn
  case timestampRange start stop =>
    rw [Filter.writtenBetween_eq_ok (mem_toOption_toList.mp hf)]
    trivial
  case startTimestamp | endTimestamp =>
    cases List.mem_singleton.mp hf
    trivial
  case valueRegex =>
    cases List.mem_singleton.mp hf
    rfl
  case valueRange spec =>
    obtain ⟨span, hs⟩ := Filter.valuesIn_eq_ok (mem_toOption_toList.mp hf)
    rw [hs]
    trivial
  all_goals cases h

end Call

namespace Descent

variable {f q v : Call} {bounds conditions : List Call} {d : Descent}

theorem ToFamilies.filters (h : ToFamilies f) (family? : Option String) :
    ∃ on? : Option Filter, f.filters family? = on?.toList ∧
      ∀ g ∈ on?, g = .blockAll ∨ g.IsRegexOn .family := by
  cases f
  case families => exact ⟨none, rfl, nofun⟩
  case family | familyRegex => exact ⟨some _, rfl, by rintro _ ⟨⟩; exact .inr rfl⟩
  case familiesNamed names =>
    exact ⟨some _, rfl, by rintro _ ⟨⟩; exact Filter.exactAny_eq_or _ _⟩
  all_goals rcases h with h | h <;> cases h

theorem ToColumns.filters (h : ToColumns f q bounds) (family? : Option String) :
    ∃ (on? : Option Filter) (ranges : List Filter),
      (q :: bounds).flatMap (·.filters family?) = on?.toList ++ ranges ∧
      (∀ g ∈ on?, g = .blockAll ∨ g.IsRegexOn .qualifier) ∧
      ∀ g ∈ ranges, g.IsRangeIn family? := by
  have hbounds : ∀ g ∈ bounds.flatMap (·.filters family?), g.IsRangeIn family? := by
    intro g hg
    have ⟨c, hc, hg⟩ := List.mem_flatMap.mp hg
    rcases h with ⟨_, _, rfl⟩ | ⟨_, hb⟩
    case inl => cases hc
    case inr => exact Call.isRangeIn_of_boundColumns (hb c hc) hg
  have hq : q.kind = .oneColumn ∨ q.kind = .manyColumns := h.imp And.left And.left
  cases q
  case columns => exact ⟨none, _, rfl, nofun, hbounds⟩
  case column | columnRegex => exact ⟨some _, _, rfl, by rintro _ ⟨⟩; exact .inr rfl, hbounds⟩
  case columnsNamed qualifiers =>
    exact ⟨some _, _, rfl, by rintro _ ⟨⟩; exact Filter.exactAny_eq_or _ _, hbounds⟩
  all_goals rcases hq with h | h <;> cases h

theorem ToCells.filters (h : ToCells v conditions) (family? : Option String) :
    (v :: conditions).flatMap (·.filters family?) = [.cellsPerColumn 1] ∨
      ∀ g ∈ (v :: conditions).flatMap (·.filters family?), g.IsOnCells := by
  rcases h with ⟨hv, rfl⟩ | ⟨hv, hc⟩
  case inl =>
    cases v <;> cases hv
    exact .inl rfl
  case inr =>
    cases v <;> cases hv
    refine .inr fun g hg => ?_
    have ⟨c, hm, hg⟩ := List.mem_flatMap.mp hg
    rcases List.mem_cons.mp hm with rfl | hm
    case inl => cases hg
    case inr => exact Call.isOnCells_of_filterCells (hc c hm) hg

theorem Possible.ordered_filters (h : d.Possible) {family? : Option String} {keys : List Filter}
    (hkeys : ∀ g ∈ keys, g.IsRegexOn .rowKey) :
    Filter.Ordered family? (keys ++ d.calls.flatMap (·.filters family?)) := by
  cases d
  case rows =>
    refine ⟨keys, none, none, [], [], ?_, hkeys, nofun, nofun, nofun, .inr nofun⟩
    simp [calls]
  case family f =>
    obtain ⟨on?, hf, hon⟩ := ToFamilies.filters h family?
    refine ⟨keys, on?, none, [], [], ?_, hkeys, hon, nofun, nofun, .inr nofun⟩
    simp [calls, hf]
  case column f q bounds =>
    obtain ⟨on?, hf, hon⟩ := h.left.filters family?
    obtain ⟨at?, ranges, hq, hat, hranges⟩ := h.right.filters family?
    refine ⟨keys, on?, at?, ranges, [], ?_, hkeys, hon, hat, hranges, .inr nofun⟩
    rw [calls, List.flatMap_cons, hf, hq]
    simp
  case cell f q bounds v conditions =>
    obtain ⟨on?, hf, hon⟩ := h.left.filters family?
    obtain ⟨at?, ranges, hq, hat, hranges⟩ := h.right.left.filters family?
    refine ⟨keys, on?, at?, ranges, _, ?_, hkeys, hon, hat, hranges, h.right.right.filters family?⟩
    rw [calls_cell, List.flatMap_cons, List.flatMap_append, hf, hq]
    simp

end Descent

theorem Stages.Possible.ordered_filters {b : Cardinality} {p : Stages} (h : p.Possible b)
    (family? : Option String) : Filter.Ordered family? (p.calls.flatMap (·.filters family?)) := by
  have hflat : (List.replicate p.flattens Call.flatten).flatMap (·.filters family?) = [] := by
    simp [Call.filters]
  rw [calls, List.flatMap_append, List.flatMap_append, hflat, List.append_nil]
  refine h.descent.ordered_filters fun f hf => ?_
  obtain ⟨c, hc, hf⟩ := List.mem_flatMap.mp hf
  obtain ⟨pattern, hp⟩ := Call.isKeyRegex_of_selectRows (h.rows c hc).left hf
  exact hp ▸ rfl

namespace Read

variable {table : TableName} {profile : Option String} {e : Start} {calls : List Call} {s : State}
  {r : Read s}

theorem Reached.family_eq_some_iff (h : Reached table profile e calls r) {f : String} :
    r.draft.family = some f ↔ .family f ∈ calls := by
  induction h
  case start => simp [Read.start]
  case call calls s t r u c hc h hr ih =>
    have ⟨_, _, hn⟩ := Draft.perform_eq_ok (perform_of_call hr)
    rw [hn, List.mem_append, List.mem_singleton]
    by_cases hk : c.kind = .oneFamily
    case neg =>
      have hne : .family f ≠ c := by
        rintro rfl
        exact hk rfl
      rw [Call.name?_of_ne_oneFamily hk, Option.none_or, ih]
      simp [hne]
    case pos =>
      -- No family was asked for before, as that is done once only.
      have hns := State.Next.of_eq_some hc
      rw [hk] at hns
      cases hns
      have hm : .family f ∉ calls := fun hm => by cases h.selectRows_of_rows rfl _ hm
      cases c <;> cases hk
      simp [Call.name?, hm, eq_comm]

theorem calls_in_stages (e : Start) (calls : List Call) :
    ((e.state.run? calls).isSome ↔ ∃ p : Stages, p.Possible e.state.base ∧ p.calls = calls) ∧
    (∀ p : Stages, p.Possible e.state.base → p.calls = calls →
      e.state.run? calls = some (p.state e.state.base)) ∧
    ∀ {table : TableName} {profile : Option String} {s : State} {r : Read s},
      Reached table profile e calls r →
      e.state.run? calls = some s ∧
      r.draft.filters = calls.flatMap (·.filters r.draft.family) ∧
      (∀ f, r.draft.family = some f ↔ .family f ∈ calls) ∧
      Filter.Ordered r.draft.family r.draft.filters := by
  have hb : e.state = .rows e.state.base := by cases e <;> rfl
  have hrun (p : Stages) (hp : p.Possible e.state.base) (hc : p.calls = calls) :
      e.state.run? calls = some (p.state e.state.base) := by
    rw [hb, ← hc]
    exact hp.run?
  refine ⟨⟨fun h => ?possible, fun ⟨p, hp, hc⟩ => ?accepted⟩, hrun, fun {_ _ s r} hr => ?filters⟩
  case possible =>
    have ⟨t, ht⟩ := Option.isSome_iff_exists.mp h
    have ⟨p, hp, hc, _⟩ := Stages.exists_of_run? (hb ▸ ht)
    exact ⟨p, hp, hc⟩
  case accepted =>
    rw [hrun p hp hc]
    rfl
  case filters =>
    obtain ⟨p, hp, rfl, _⟩ := Stages.exists_of_run? (hb ▸ hr.run?_eq)
    refine ⟨hr.run?_eq, hr.filters_eq, fun _ => hr.family_eq_some_iff, ?_⟩
    rw [hr.filters_eq]
    exact hp.ordered_filters _

-- A limit of no cells adds no filter, and ranges of columns stay in the family that was asked for.
theorem calls_in_stages_of_range :
    let calls : List Call := [.addKeys [[4]], .limitRows 2, .keyRegex "a.*", .family "f", .columns,
      .qualifierEdge .startClosed [7], .cells, .limitCells 0, .limitCells 2, .startTimestamp 3,
      .flatten, .flatten, .flatten]
    let filters : List Filter := [.matching .rowKey "a.*", .exact .family (Bytes.ofText "f"),
      .qualifierRange (some "f") ⟨.included [7], .unbounded⟩, .cellsPerColumn 2,
      .timestampRange (some 3) none]
    let s : State := State.flatten^[3]
      (.narrow .cell .many (.narrow .column .many (.narrow .family .one (.rows .many))))
    let r : Read s :=
      ⟨⟨⟨"p", "i", "t"⟩, none, ⟨.keys [[2], [4]], 2⟩, filters, some "f"⟩⟩
    Reached ⟨"p", "i", "t"⟩ none (.rowsWithKeys [[2]]) calls r ∧
    (∃ p : Stages, p.Possible .many ∧ p.calls = calls) ∧
    Filter.Ordered (some "f") filters := by
  intro calls filters s r
  have hr : Reached ⟨"p", "i", "t"⟩ none (.rowsWithKeys [[2]]) calls r :=
    .call rfl (.call rfl (.call rfl (.call rfl (.call rfl (.call rfl (.call rfl (.call rfl (.call rfl
      (.call rfl (.call rfl (.call rfl (.call rfl .start
        rfl) rfl) rfl) rfl) rfl) rfl) rfl) rfl) rfl) rfl) rfl) rfl) rfl
  have ⟨haccepted, _, hfilters⟩ := calls_in_stages (.rowsWithKeys [[2]]) calls
  exact ⟨hr, haccepted.mp rfl, (hfilters hr).right.right.right⟩

-- Many families have no one column, and a single row is no list to flatten.
example : (Start.row [1]).state.run? [.families, .column [7]] = none := rfl

example : (Start.row [1]).state.run? [.family "f", .flatten] = none := rfl

end Read
end WideTable
