import WideTable.Proofs.Filter.Exact
import WideTable.Proofs.Read.Bounds
import WideTable.Proofs.Read.FilterOrder
import WideTable.Proofs.Regex.Whole

namespace WideTable

theorem Filter.compile_matching {pattern : String} {r : Regex}
    (h : Pattern.compile (Bytes.ofText pattern) = .ok r) (field : Field) :
    (matching field pattern).compile = .ok (Sieve.matching r field) := by
  rw [matching, compile, h]
  rfl

namespace Call

variable {c : Call}

-- The pattern that is given with a call, and the field that has to match it.
def regex? : Call → Option (Field × String)
  | keyRegex pattern => some (.rowKey, pattern)
  | familyRegex pattern => some (.family, pattern)
  | columnRegex pattern => some (.qualifier, pattern)
  | valueRegex pattern => some (.value, pattern)
  | _ => none

theorem matching_mem_filters {field : Field} {pattern : String}
    (h : c.regex? = some (field, pattern)) (family? : Option String) :
    .matching field pattern ∈ c.filters family? := by
  cases c <;> cases h <;> exact List.mem_singleton_self _

theorem not_strips_of_mem_filters {family? : Option String} {f : Filter}
    (h : f ∈ c.filters family?) : f.strips = false := by
  have hexact (field : Field) (ls : List Bytes) : (Filter.exactAny field ls).strips = false := by
    cases ls <;> rfl
  cases c
  case familiesNamed | columnsNamed =>
    cases List.mem_singleton.mp h
    exact hexact _ _
  case qualifierRange spec =>
    have ⟨span, hs⟩ := Filter.qualifiersIn_eq_ok (mem_toOption_toList.mp h)
    exact hs ▸ rfl
  case valueRange spec =>
    have ⟨span, hs⟩ := Filter.valuesIn_eq_ok (mem_toOption_toList.mp h)
    exact hs ▸ rfl
  case timestampRange =>
    exact Filter.writtenBetween_eq_ok (mem_toOption_toList.mp h) ▸ rfl
  case limitCells =>
    rw [filters] at h
    split at h
    case isTrue => cases h
    case isFalse =>
      cases List.mem_singleton.mp h
      rfl
  case keyRegex | family | familyRegex | column | columnRegex | qualifierEdge | latestCell |
      startTimestamp | endTimestamp | valueRegex =>
    cases List.mem_singleton.mp h
    rfl
  all_goals cases h

end Call

namespace Read

variable {table : TableName} {profile : Option String} {e : Start} {calls : List Call} {s : State}
  {read : Read s} {c : Call} {field : Field} {pattern : String} {r : Regex}

-- No entry is returned that the pattern of some call was not found in.
theorem Reached.occursIn_content (h : Reached table profile e calls read) (hc : c ∈ calls)
    (hp : c.regex? = some (field, pattern)) (hr : Pattern.compile (Bytes.ofText pattern) = .ok r)
    {st : Store} {rows : List Row} (hrows : st.read read.request = .ok rows) {row : Row}
    (hrow : row ∈ rows) {entry : Entry} (he : entry ∈ row.entries) :
    r.occursIn (field.content row.key entry) = true := by
  have hmem : Filter.matching field pattern ∈ read.draft.filters := by
    rw [h.filters_eq]
    exact List.mem_flatMap.mpr ⟨c, hc, Call.matching_mem_filters hp _⟩
  have hn : read.draft.filters.any Filter.strips = false := by
    rw [h.filters_eq, List.any_eq_false]
    intro f hf
    obtain ⟨_, _, hf⟩ := List.mem_flatMap.mp hf
    exact Bool.not_eq_true _ ▸ Call.not_strips_of_mem_filters hf
  obtain ⟨sieve, _, before, hsieve, _, _, ha⟩ := Store.exists_between hrows rfl hmem hrow
  cases (Filter.compile_matching hr field).symm.trans hsieve
  rw [hn] at ha
  have hb := ha.sublist.subset he
  rw [Sieve.matching_eq_filter] at hb
  exact (List.mem_filter.mp hb).right

-- The matches of the pattern on its own decide, for all of a value from its first to its last byte.
theorem spans_whole_values {pattern : String} {inner r : Regex}
    (hi : Pattern.regex? .bytewise pattern.toList = some inner)
    (hr : Pattern.compile (Bytes.ofText pattern) = .ok r) :
    r = inner.anchored ∧
    (∀ w, r.occursIn w = true ↔ inner.Spans w 0 w.length) ∧
    (∀ field, ∃ sieve, (Filter.matching field pattern).compile = .ok sieve ∧
      ∀ key es, sieve key es = es.filter fun e => r.occursIn (field.content key e)) ∧
    ∀ {table : TableName} {profile : Option String} {e : Start} {calls : List Call} {s : State}
      {read : Read s}, Reached table profile e calls read →
      ∀ c ∈ calls, ∀ field, c.regex? = some (field, pattern) →
      ∀ (m : MemoryStore) (rows : List Row),
        (Adapter.memory.readRows read.request m).1 = .ok rows →
        ∀ row ∈ rows, ∀ entry ∈ row.entries,
          let value := field.content row.key entry
          inner.Spans value 0 value.length := by
  have ⟨ha, hproper⟩ := Pattern.eq_anchored_of_compile hi hr
  have hspans (w : Bytes) : r.occursIn w = true ↔ inner.Spans w 0 w.length :=
    ha ▸ Regex.occursIn_anchored hproper
  refine ⟨ha, hspans, fun field => ?sieve, ?answer⟩
  case sieve =>
    exact ⟨_, Filter.compile_matching hr field, Sieve.matching_eq_filter r field⟩
  case answer =>
    intro table profile e calls s read h c hc field hf m rows hrows row hrow entry he
    have hread : m.store.read read.request = .ok rows := by
      have ha : (Adapter.memory.readRows read.request m).1 =
          (m.store.read read.request).mapError .pattern := rfl
      rw [ha] at hrows
      cases hst : m.store.read read.request <;> rw [hst] at hrows <;> cases hrows
      rfl
    exact (hspans _).mp (h.occursIn_content hc hf hr hread hrow he)

-- A choice, the second branch of which turns flags on and has anchors of its own that hold at lines.
theorem spans_whole_values_of_choice :
    ∃ inner r, Pattern.regex? .bytewise "a|(?im)^b.$".toList = some inner ∧
      Pattern.compile (Bytes.ofText "a|(?im)^b.$") = .ok r ∧ r = inner.anchored ∧
      ∀ w, r.occursIn w = true ↔ inner.Spans w 0 w.length := by
  have hi : (Pattern.regex? .bytewise "a|(?im)^b.$".toList).isSome := by decide +kernel
  have hr : (Pattern.compile (Bytes.ofText "a|(?im)^b.$")).toOption.isSome := by decide +kernel
  have ⟨inner, hi⟩ := Option.isSome_iff_exists.mp hi
  cases hc : Pattern.compile (Bytes.ofText "a|(?im)^b.$") <;> rw [hc] at hr
  case error => cases hr
  case ok r =>
    have ⟨ha, hs, _⟩ := spans_whole_values hi hc
    exact ⟨inner, r, hi, rfl, ha, hs⟩

end Read
end WideTable
