import WideTable.Proofs.Read.FilterOrder
import WideTable.Proofs.Store.Refusal

namespace WideTable

theorem find?_filterMap_cons {α β : Type} (f : α → Option β) (p : β → Bool) (a : α) (l : List α) :
    ((a :: l).filterMap f).find? p = ((f a).filter p).or ((l.filterMap f).find? p) := by
  rw [List.filterMap_cons]
  cases f a
  case none => rfl
  case some b => cases h : p b <;> simp [Option.filter, h]

namespace Call

-- The pattern that is given with a call.
def pattern? : Call → Option String
  | keyRegex pattern | familyRegex pattern => some pattern
  | columnRegex pattern | valueRegex pattern => some pattern
  | _ => none

-- The names that a call asks for.
def literals : Call → List Bytes
  | family name => [Bytes.ofText name]
  | familiesNamed names => names.map Bytes.ofText
  | column qualifier => [qualifier]
  | columnsNamed qualifiers => qualifiers
  | _ => []

-- The pattern that is compiled for a call.
def text? (c : Call) : Option String :=
  c.pattern?.or (Pattern.ofLiterals? c.literals)

theorem cause?_compileAll_filters (c : Call) (family? : Option String) :
    cause? (Filter.compileAll (c.filters family?)) =
      (c.text?.filter Pattern.isRefused).map .refused := by
  cases c
  case keyRegex | familyRegex | columnRegex | valueRegex =>
    exact (Filter.cause?_compileAll_singleton _).trans (Filter.cause?_compile_matching _ _)
  case family | column =>
    exact (Filter.cause?_compileAll_singleton _).trans (Filter.cause?_compile_exactAny _ [_])
  case familiesNamed | columnsNamed =>
    exact (Filter.cause?_compileAll_singleton _).trans (Filter.cause?_compile_exactAny _ _)
  case qualifierRange spec =>
    rw [filters, Filter.qualifiersIn]
    cases spec.toSpan <;> rfl
  case valueRange spec =>
    rw [filters, Filter.valuesIn]
    cases spec.toSpan <;> rfl
  case timestampRange start stop =>
    rw [filters]
    cases h : Filter.writtenBetween start stop
    case error => rfl
    case ok f =>
      rw [Filter.writtenBetween_eq_ok h]
      rfl
  case limitCells n =>
    rw [filters]
    split <;> rfl
  all_goals rfl

-- The first pattern that is refused decides.
theorem cause?_compileAll_flatMap (calls : List Call) (family? : Option String) :
    cause? (Filter.compileAll (calls.flatMap (·.filters family?))) =
      ((calls.filterMap text?).find? Pattern.isRefused).map .refused := by
  induction calls
  case nil => rfl
  case cons c calls ih =>
    rw [List.flatMap_cons, Filter.cause?_compileAll_append, cause?_compileAll_filters, ih,
      find?_filterMap_cons, Option.map_or]

theorem filter_text? {c : Call} (h : ∀ p ∈ c.text?, Pattern.Fits p) :
    c.text?.filter Pattern.isRefused = c.pattern?.filter Pattern.isMalformed := by
  rw [text?] at h ⊢
  cases hp : c.pattern? <;> rw [hp] at h
  case some p =>
    have hm := (h p rfl).isRefused_eq
    simp [Option.filter, hm]
  case none =>
    rw [Option.none_or] at h ⊢
    cases hl : Pattern.ofLiterals? c.literals
    case none => rfl
    case some p =>
      have hm := (h p hl).isRefused_eq.trans (Pattern.isMalformed_ofLiterals? hl)
      simp [Option.filter, hm]

-- Where size does not matter, the first pattern that is refused is the first malformed one of those
-- that were given.
theorem find?_isRefused {calls : List Call} (h : ∀ c ∈ calls, ∀ p ∈ c.text?, Pattern.Fits p) :
    (calls.filterMap text?).find? Pattern.isRefused =
      (calls.filterMap pattern?).find? Pattern.isMalformed := by
  induction calls
  case nil => rfl
  case cons c calls ih =>
    rw [find?_filterMap_cons, find?_filterMap_cons, filter_text? (h c (.head _)),
      ih fun d hd => h d (.tail _ hd)]

end Call

theorem RowSet.isEmptyKeys_iff {rows : RowSet} : rows.isEmptyKeys = true ↔ rows = .keys [] := by
  cases rows
  case keys keys => cases keys <;> simp [isEmptyKeys]
  all_goals simp [isEmptyKeys]

namespace Read

variable {table : TableName} {profile : Option String} {e : Start} {calls : List Call} {s : State}
  {r : Read s}

theorem Reached.cause?_compile (h : Reached table profile e calls r) :
    cause? (Filter.compileOptional r.request.filter) =
      ((calls.filterMap Call.text?).find? Pattern.isRefused).map .refused := by
  have hf : r.request.filter = Filter.collapse? r.draft.filters := rfl
  rw [hf, Filter.compileOptional_collapse?, cause?_map, h.filters_eq,
    Call.cause?_compileAll_flatMap]

theorem Reached.table_eq (h : Reached table profile e calls r) : r.draft.table = table := by
  induction h
  case start => rfl
  case call hr ih => exact (Draft.table_of_perform (perform_of_call hr)).left.trans ih

theorem Reached.cause?_execute (h : Reached table profile e calls r) (m : MemoryStore) :
    cause? (r.execute .memory m).1 =
      if r.request.rows.isEmptyKeys then none
      else ((calls.filterMap Call.text?).find? Pattern.isRefused).map fun p =>
        .execution r.request (.pattern (.refused p)) := by
  rw [execute_memory]
  split
  case isTrue => rfl
  case isFalse =>
    have hc := (Store.cause?_read m.store r.request).trans h.cause?_compile
    cases hread : m.store.read r.request <;> rw [hread] at hc <;>
      cases hp : (calls.filterMap Call.text?).find? Pattern.isRefused <;> rw [hp] at hc <;> cases hc
    case ok.none | error.some => rfl

theorem Reached.execute_eq_error_iff (h : Reached table profile e calls r) (m : MemoryStore)
    {failure : ReadError} :
    (r.execute .memory m).1 = .error failure ↔ r.request.rows ≠ .keys [] ∧
      ∃ p, (calls.filterMap Call.text?).find? Pattern.isRefused = some p ∧
        failure = .execution r.request (.pattern (.refused p)) := by
  rw [← cause?_eq_some_iff, h.cause?_execute, ne_eq, ← RowSet.isEmptyKeys_iff]
  generalize (calls.filterMap Call.text?).find? Pattern.isRefused = p?
  cases r.request.rows.isEmptyKeys <;> simp [eq_comm]

-- Where size does not matter.
theorem Reached.execute_eq_error_iff_of_fits (h : Reached table profile e calls r)
    (m : MemoryStore) (hfits : ∀ p ∈ calls.filterMap Call.text?, Pattern.Fits p)
    {failure : ReadError} :
    (r.execute .memory m).1 = .error failure ↔ r.request.rows ≠ .keys [] ∧
      ∃ p, (calls.filterMap Call.pattern?).find? Pattern.isMalformed = some p ∧
        failure = .execution r.request (.pattern (.refused p)) := by
  rw [h.execute_eq_error_iff, Call.find?_isRefused]
  exact fun c hc p hp => hfits p (List.mem_filterMap.mpr ⟨c, hc, hp⟩)

theorem execute_refused {table : TableName} {profile : Option String} {e : Start}
    {calls : List Call} {s : State} {r : Read s} (h : Reached table profile e calls r)
    (m : MemoryStore) :
    let result := (r.execute .memory m).1
    let given := calls.filterMap Call.pattern?
    let compiled := calls.filterMap Call.text?
    r.request.table = table.fullName ∧
    (∀ failure, result = .error failure ↔ r.request.rows ≠ .keys [] ∧
      ∃ p, compiled.find? Pattern.isRefused = some p ∧
        failure = .execution r.request (.pattern (.refused p))) ∧
    ((∀ p ∈ compiled, Pattern.Fits p) →
      ((∃ failure, result = .error failure) ↔
        r.request.rows ≠ .keys [] ∧ ∃ p ∈ given, Pattern.wholeRegex? p = none) ∧
      ∀ failure, result = .error failure → ∃ p, given.find? Pattern.isMalformed = some p ∧
        failure = .execution r.request (.pattern (.refused p))) := by
  intro result given compiled
  refine ⟨congrArg TableName.fullName h.table_eq, fun _ => h.execute_eq_error_iff m,
    fun hfits => ?_⟩
  have hfail {failure : ReadError} : result = .error failure ↔ r.request.rows ≠ .keys [] ∧
      ∃ p, given.find? Pattern.isMalformed = some p ∧
        failure = .execution r.request (.pattern (.refused p)) :=
    h.execute_eq_error_iff_of_fits m hfits
  refine ⟨?fails, fun failure hf => (hfail.mp hf).right⟩
  rw [← Pattern.exists_find?_isMalformed_iff]
  constructor
  case mp =>
    rintro ⟨failure, hf⟩
    have ⟨hrows, p, hp, _⟩ := hfail.mp hf
    exact ⟨hrows, p, hp⟩
  case mpr =>
    rintro ⟨hrows, p, hp⟩
    exact ⟨_, hfail.mpr ⟨hrows, p, hp, rfl⟩⟩

-- Names that look like patterns are none, and of the two values that are given as patterns and are
-- none the first is the one refused.
theorem execute_refused_for_first :
    let calls : List Call := [.keyRegex "a.", .family "(", .column [0x28], .cells, .valueRegex "(",
      .valueRegex "["]
    let filters : List Filter := [.matching .rowKey "a.", .exact .family (Bytes.ofText "("),
      .exact .qualifier [0x28], .matching .value "(", .matching .value "["]
    let s : State := .narrow .cell .many (.narrow .column .one (.narrow .family .one (.rows .many)))
    let r : Read s := ⟨⟨⟨"p", "i", "t"⟩, none, {}, filters, some "("⟩⟩
    Reached ⟨"p", "i", "t"⟩ none .rows calls r ∧
    (r.execute .memory {}).1 = .error (.execution r.request (.pattern (.refused "("))) := by
  intro calls filters s r
  have hr : Reached ⟨"p", "i", "t"⟩ none .rows calls r :=
    .call rfl (.call rfl (.call rfl (.call rfl (.call rfl (.call rfl .start rfl) rfl) rfl) rfl) rfl)
      rfl
  have ⟨_, hfail, _⟩ := execute_refused hr {}
  exact ⟨hr, (hfail _).mpr ⟨nofun, "(", by decide +kernel, rfl⟩⟩

end Read
end WideTable
