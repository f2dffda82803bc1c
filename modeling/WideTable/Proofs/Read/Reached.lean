import WideTable.Proofs.Read.Calls

namespace WideTable

namespace Read

variable {table : TableName} {profile : Option String} {e : Start} {calls : List Call} {s t : State}
  {r : Read s} {u : Read t} {c : Call}

-- What a start and the calls after it lead to, where each call is possible and none fails.
inductive Reached (table : TableName) (profile : Option String) (e : Start) :
    List Call → {s : State} → Read s → Prop
  | start : Reached table profile e [] (.start table profile e)
  | call {calls : List Call} {s t : State} {r : Read s} {u : Read t} {c : Call}
      (hc : s.next? c = some t) :
      Reached table profile e calls r → r.call c hc = .ok u → Reached table profile e (calls ++ [c]) u

theorem perform_of_call {hc : s.next? c = some t} (h : r.call c hc = .ok u) :
    r.draft.perform c = .ok u.draft := by
  rw [call] at h
  cases hp : r.draft.perform c <;> rw [hp] at h <;> cases h
  rfl

-- The calls after those that select rows.
def narrowing (calls : List Call) : List Call :=
  calls.dropWhile (·.kind = .selectRows)

theorem narrowing_append {rows post : List Call} (hr : ∀ d ∈ rows, d.kind = .selectRows)
    (hc : c.kind ≠ .selectRows) : narrowing (rows ++ c :: post) = c :: post := by
  rw [narrowing, List.dropWhile_append_of_pos (by simpa using hr), List.dropWhile_cons_of_neg]
  simpa using hc

namespace Reached

theorem typed (h : Reached table profile e calls r) : s.Typed := by
  induction h
  case start => cases e <;> constructor
  case call hc _ _ ih => exact (State.Next.of_eq_some hc).typed ih

theorem base (h : Reached table profile e calls r) : s.base = e.state.base := by
  induction h
  case start => rfl
  case call hc _ _ ih => exact (State.Next.of_eq_some hc).base.trans ih

theorem exists_toOne (h : Reached table profile e calls r) {tier : Tier} (hs : s.narrowsTo tier) :
    ∃ c ∈ calls, c.kind = tier.toOne := by
  induction h
  case start => cases e <;> cases hs
  case call c hc _ _ ih =>
    cases (State.Next.of_eq_some hc).narrowsTo hs
    case inl hs =>
      have ⟨d, hd, hk⟩ := ih hs
      exact ⟨d, List.mem_append_left _ hd, hk⟩
    case inr hk => exact ⟨c, by simp, hk⟩

theorem selectRows_of_rows (h : Reached table profile e calls r) {b : Cardinality}
    (hs : s = .rows b) : ∀ d ∈ calls, d.kind = .selectRows := by
  induction h
  case start => simp
  case call c hc h _ ih =>
    have hn := State.Next.of_eq_some hc
    generalize hk : c.kind = k at hn
    subst hs
    cases hn
    simpa [or_imp, forall_and, hk] using ih rfl

theorem eq_concat_family (h : Reached table profile e calls r) {p : State}
    (hs : s = .narrow .family .one p) :
    ∃ rows f, calls = rows ++ [.family f] ∧ ∀ d ∈ rows, d.kind = .selectRows := by
  cases h
  case start => cases e <;> cases hs
  case call calls s r c h hc _ =>
    have hn := State.Next.of_eq_some hc
    generalize hk : c.kind = k at hn
    subst hs
    cases hn
    cases c <;> cases hk
    exact ⟨calls, _, rfl, h.selectRows_of_rows rfl⟩

-- The read that a call was made on.
theorem exists_before (h : Reached table profile e calls r) (hc : c ∈ calls) :
    ∃ (pre post : List Call) (s' t' : State) (r' : Read s'), calls = pre ++ c :: post ∧
      Reached table profile e pre r' ∧ State.Next s' c.kind t' := by
  induction h
  case start => cases hc
  case call calls s t r u d hd h _ ih =>
    rcases List.mem_append.mp hc with hc | hc
    case inl =>
      have ⟨pre, post, s', t', r', he, hr, hn⟩ := ih hc
      exact ⟨pre, post ++ [d], s', t', r', by simp [he], hr, hn⟩
    case inr =>
      cases List.mem_singleton.mp hc
      exact ⟨calls, [], s, t, r, rfl, h, .of_eq_some hd⟩

-- A family is asked for by name right after the rows were selected.
theorem narrowing_family (h : Reached table profile e calls r) {f : String}
    (hf : .family f ∈ calls) : ∃ post, narrowing calls = .family f :: post := by
  have ⟨rows, post, _, t', _, he, hr, hn⟩ := h.exists_before hf
  have hn : State.Next _ .oneFamily t' := hn
  cases hn
  exact ⟨post, he ▸ narrowing_append (hr.selectRows_of_rows rfl) nofun⟩

-- And a column right after its family.
theorem narrowing_column (h : Reached table profile e calls r) {q : Qualifier}
    (hq : .column q ∈ calls) : ∃ f post, narrowing calls = .family f :: .column q :: post := by
  have ⟨pre, post, _, t', _, he, hr, hn⟩ := h.exists_before hq
  have hn : State.Next _ .oneColumn t' := hn
  cases hn
  have ⟨rows, f, hp, hs⟩ := hr.eq_concat_family rfl
  refine ⟨f, post, ?_⟩
  rw [he, hp, List.append_assoc]
  exact narrowing_append hs nofun

theorem filters_eq (h : Reached table profile e calls r) :
    r.draft.filters = calls.flatMap (·.filters r.draft.family) := by
  induction h
  case start => rfl
  case call calls s t r u c hc h hr ih =>
    have ⟨_, hf, hn⟩ := Draft.perform_eq_ok (perform_of_call hr)
    rw [hf, ih, List.flatMap_append, List.flatMap_singleton]
    by_cases hk : c.kind = .oneFamily
    case neg => rw [hn, Call.name?_of_ne_oneFamily hk, Option.none_or]
    case pos =>
      -- The calls so far select rows, for which the family makes no difference.
      have hns := State.Next.of_eq_some hc
      rw [hk] at hns
      cases hns
      have hsel := h.selectRows_of_rows rfl
      cases c <;> cases hk
      refine congrArg (· ++ _) (List.flatMap_congr fun d hd => ?_)
      exact Call.filters_of_selectRows (hsel d hd) _ _

theorem mem_filters (h : Reached table profile e calls r) (hc : c ∈ calls) {f : Filter}
    (hf : f ∈ c.filters r.draft.family) : f ∈ r.draft.filters :=
  h.filters_eq ▸ List.mem_flatMap.mpr ⟨c, hc, hf⟩

-- Rows of a read of one row are never selected anew.
theorem selector_eq (h : Reached table profile e calls r) (hs : s.base = .one) :
    r.draft.selector = e.selector := by
  induction h
  case start => rfl
  case call c hc h hr ih =>
    have hn := State.Next.of_eq_some hc
    have hk : c.kind ≠ .selectRows := by
      intro hk
      rw [hk] at hn
      cases hn
      cases hs
    have ⟨hsel, _, _⟩ := Draft.perform_eq_ok (perform_of_call hr)
    rw [Call.select_of_ne_selectRows hk] at hsel
    rw [← ih (hn.base ▸ hs), (EStateM.Result.ok.inj hsel).right]

-- A read that starts with keys has keys only, in the order of the calls.
theorem rows_eq (h : Reached table profile e calls r) (he : e ≠ .rows) :
    r.request.rows = .keys (e.keys ++ calls.flatMap Call.keys) := by
  induction h
  case start =>
    cases e
    case rows => contradiction
    case row key => rfl
    case rowsWithKeys keys => exact congrArg _ (List.append_nil keys).symm
  case call hr ih =>
    have ⟨hs, _, _⟩ := Draft.perform_eq_ok (perform_of_call hr)
    rw [List.flatMap_append, List.flatMap_singleton, ← List.append_assoc]
    exact Call.rows_of_select hs ih

end Reached

-- A read from memory, without what it counts.
theorem execute_memory (r : Read s) (m : MemoryStore) :
    (r.execute .memory m).1 =
      if r.request.rows.isEmptyKeys then .ok (s.project [])
      else match m.store.read r.request with
        | .ok rows => .ok (s.project rows)
        | .error cause => .error (.execution r.request (.pattern cause)) := by
  have hread : Adapter.memory.readRows r.request m =
      ((m.store.read r.request).mapError .pattern, { m with reads := m.reads + 1 }) := rfl
  rw [execute, hread]
  split
  case isTrue => rfl
  case isFalse => cases m.store.read r.request <;> rfl

end Read
end WideTable
