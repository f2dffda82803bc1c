import WideTable.Proofs.Read.Refusal
import WideTable.Proofs.Store.Selection

namespace WideTable

-- The lists of keys that a read starts with. The key of a single row is no list.
def Start.keyLists : Start → List (List RowKey)
  | rowsWithKeys keys => [keys]
  | _ => []

-- The lists of keys that a call adds to a read.
def Call.keyLists : Call → List (List RowKey)
  | addKeys keys => [keys]
  | _ => []

-- The rows are those with the keys in these lists. Without lists they are not selected by key.
def RowSet.OfLists (lists : List (List RowKey)) : RowSet → Prop
  | keys ks => lists ≠ [] ∧ ks = lists.flatten
  | _ => lists = []

theorem RowSet.OfLists.isEmptyKeys_iff {lists : List (List RowKey)} {rows : RowSet}
    (h : rows.OfLists lists) : rows.isEmptyKeys = true ↔ lists ≠ [] ∧ ∀ ks ∈ lists, ks = [] := by
  rw [RowSet.isEmptyKeys_iff]
  cases rows
  case keys ks =>
    obtain ⟨hl, rfl⟩ := h
    rw [keys.injEq, List.flatten_eq_nil_iff, and_iff_right hl]
  all_goals
    cases h
    simp

theorem Selector.ofLists_setSpan {s t : Selector} {span : Span} {lists : List (List RowKey)}
    (h : (setSpan span).run s = .ok () t) (hs : s.rows.OfLists lists) : t.rows.OfLists lists := by
  rw [run_setSpan] at h
  cases hr : s.rows <;> rw [hr] at h hs <;> cases h <;> exact hs

theorem Selector.ofLists_addKeys {s t : Selector} {ks : List RowKey} {lists : List (List RowKey)}
    (h : (addKeys ks).run s = .ok () t) (hs : s.rows.OfLists lists) :
    t.rows.OfLists (lists ++ [ks]) := by
  rw [run_addKeys] at h
  cases hr : s.rows <;> rw [hr] at h hs <;> cases h
  case all =>
    cases hs
    simp [RowSet.OfLists]
  case keys =>
    obtain ⟨_, rfl⟩ := hs
    simp [RowSet.OfLists]

theorem Call.ofLists_select {c : Call} {s t : Selector} {lists : List (List RowKey)}
    (h : c.select.run s = .ok () t) (hs : s.rows.OfLists lists) :
    t.rows.OfLists (lists ++ c.keyLists) := by
  have hnone (hc : c.keyLists = []) (ht : t.rows.OfLists lists) :
      t.rows.OfLists (lists ++ c.keyLists) := by
    rwa [hc, List.append_nil]
  cases c
  case addKeys ks => exact Selector.ofLists_addKeys h hs
  case addKeyRange start stop =>
    refine hnone rfl ?_
    cases start <;> cases stop
    case none.none => cases h
    all_goals exact Selector.ofLists_setSpan h hs
  case addRowRange spec =>
    refine hnone rfl ?_
    rw [select, Selector.run_addRowRange] at h
    cases hsp : spec.toSpan <;> rw [hsp] at h
    case error => cases h
    case ok => exact Selector.ofLists_setSpan h hs
  all_goals
    cases h
    exact hnone rfl hs

namespace Read

variable {table : TableName} {profile : Option String} {e : Start} {calls : List Call} {s : State}
  {r : Read s}

-- The lists of keys given to a read.
def keyLists (e : Start) (calls : List Call) : List (List RowKey) :=
  e.keyLists ++ calls.flatMap Call.keyLists

namespace Reached

-- Only reads of many rows can be given lists of keys.
theorem keyLists_eq_nil (h : Reached table profile e calls r) (he : e.state.base = .one) :
    keyLists e calls = [] := by
  have hcalls : calls.flatMap Call.keyLists = [] := by
    refine List.flatMap_eq_nil_iff.mpr fun c hc => ?_
    have ⟨_, _, _, _, _, _, hr, hn⟩ := h.exists_before hc
    cases c
    case addKeys =>
      have hbase := hr.base
      generalize hk : (Call.addKeys _).kind = k at hn
      cases hn <;> cases hk
      exact absurd (hbase.trans he) nofun
    all_goals rfl
  rw [keyLists, hcalls, List.append_nil]
  cases e
  case row => rfl
  all_goals cases he

theorem ofLists (h : Reached table profile e calls r) (he : e.state.base = .many) :
    r.request.rows.OfLists (keyLists e calls) := by
  induction h
  case start =>
    cases e
    case row => cases he
    case rows => rfl
    case rowsWithKeys ks => exact ⟨nofun, (List.append_nil ks).symm⟩
  case call hr ih =>
    have ⟨hs, _, _⟩ := Draft.perform_eq_ok (perform_of_call hr)
    have hl := Call.ofLists_select hs ih
    rwa [keyLists, List.append_assoc, ← List.flatMap_singleton Call.keyLists,
      ← List.flatMap_append] at hl

theorem isEmptyKeys_iff (h : Reached table profile e calls r) :
    r.request.rows.isEmptyKeys = true ↔
      keyLists e calls ≠ [] ∧ ∀ ks ∈ keyLists e calls, ks = [] := by
  cases he : e.state.base
  case many => exact (h.ofLists he).isEmptyKeys_iff
  case one =>
    have hne : e ≠ .rows := by
      rintro rfl
      cases he
    rw [h.keyLists_eq_nil he, h.rows_eq hne]
    cases e
    case row => simp [Start.keys, RowSet.isEmptyKeys]
    all_goals cases he

end Reached
end Read

-- The value of a shape with nothing in it.
def Shape.nothing : (s : Shape) → s.Value
  | optional _ => none
  | list _ => []

theorem Shape.narrowValue_nothing (c : Cardinality) (s : Shape) :
    s.narrowValue c s.nothing = (s.narrow c).nothing := by
  cases s <;> cases c <;> rfl

theorem Shape.flattenValue_nothing (s : Shape) : s.flattenValue s.nothing = s.flatten.nothing := by
  cases s <;> rfl

theorem State.project_nil (s : State) : s.project [] = s.shape.nothing := by
  induction s
  case rows c => cases c <;> rfl
  case narrow c p ih => exact (congrArg _ ih).trans (Shape.narrowValue_nothing c p.shape)
  case flatten p ih => exact (congrArg _ ih).trans (Shape.flattenValue_nothing p.shape)

-- The same adapter, which also remembers what it was asked for, in order.
def Adapter.recording {σ : Type} (a : Adapter σ) : Adapter (σ × List Request) where
  readRows r st := ((a.readRows r st.1).1, (a.readRows r st.1).2, st.2 ++ [r])

-- A read that is executed, and how a client with the configuration came to it.
structure Execution (config : Config) where
  tableId : String
  table   : TableName
  start   : Start
  calls   : List Call
  state   : State
  read    : Read state
  named   : TableName.ofId config.projectId config.instanceId tableId = .ok table
  reached : Read.Reached table config.profile start calls read

namespace Execution

variable {config : Config} {σ : Type}

-- Lists of keys were given to the read, and there is no key in any of them.
def GivenNoKeys (x : Execution config) : Prop :=
  Read.keyLists x.start x.calls ≠ [] ∧ ∀ ks ∈ Read.keyLists x.start x.calls, ks = []

instance (x : Execution config) : Decidable x.GivenNoKeys :=
  inferInstanceAs (Decidable (_ ∧ _))

def run (a : Adapter σ) (x : Execution config) (st : σ) : Except ReadError Answer × σ :=
  ((x.read.execute a st).1.map (⟨x.state.shape, ·⟩), (x.read.execute a st).2)

-- What becomes of an answer to the request of the read.
def answer (x : Execution config) : Except AdapterError (List Row) → Except ReadError Answer
  | .ok rows => .ok ⟨x.state.shape, x.state.project rows⟩
  | .error cause => .error (.execution x.read.request cause)

theorem run_eq (a : Adapter σ) (x : Execution config) (st : σ) :
    x.run a st =
      if x.GivenNoKeys then (x.answer (.ok []), st)
      else (x.answer (a.readRows x.read.request st).1, (a.readRows x.read.request st).2) := by
  have hk : x.read.request.rows.isEmptyKeys = true ↔ x.GivenNoKeys := x.reached.isEmptyKeys_iff
  rw [run, Read.execute]
  simp only [hk]
  split
  case isTrue => rfl
  case isFalse => rcases a.readRows x.read.request st with ⟨_ | _, _⟩ <;> rfl

theorem run_recording (a : Adapter σ) (x : Execution config) (st : σ) (asked : List Request) :
    x.run a.recording (st, asked) =
      ((x.run a st).1, (x.run a st).2,
        asked ++ if x.GivenNoKeys then [] else [x.read.request]) := by
  rw [run_eq, run_eq]
  split
  case isTrue => simp
  case isFalse => rfl

-- What is counted has no bearing on the result.
theorem run_memory (x : Execution config) (m : MemoryStore) :
    x.run .memory m =
      ((x.run .memory ⟨m.store, 0⟩).1,
        { m with reads := m.reads + if x.GivenNoKeys then 0 else 1 }) := by
  rw [run_eq, run_eq]
  split <;> rfl

theorem run_memory_eq_iff (x : Execution config) {m : MemoryStore} :
    (x.run .memory m).2 = m ↔ x.GivenNoKeys := by
  obtain ⟨s, n⟩ := m
  rw [run_memory]
  by_cases hx : x.GivenNoKeys <;> simp [hx]

theorem run_of_givenNoKeys (a : Adapter σ) (x : Execution config) (st : σ) (hx : x.GivenNoKeys) :
    x.run a st = (.ok ⟨x.state.shape, x.state.shape.nothing⟩, st) := by
  rw [run_eq, if_pos hx, answer, State.project_nil]

-- The store itself finds no rows either, unless a pattern keeps it from looking for them.
theorem readRows_of_givenNoKeys (x : Execution config) (hx : x.GivenNoKeys)
    (hp : ∀ c ∈ x.calls, ∀ p ∈ c.text?, ∃ r, Pattern.compile (Bytes.ofText p) = .ok r)
    (m : MemoryStore) : (Adapter.memory.readRows x.read.request m).1 = .ok [] := by
  have hrows := RowSet.isEmptyKeys_iff.mp (x.reached.isEmptyKeys_iff.mpr hx)
  have hfind : (x.calls.filterMap Call.text?).find? Pattern.isRefused = none := by
    refine List.find?_eq_none.mpr fun p hm => ?_
    have ⟨c, hc, hp'⟩ := List.mem_filterMap.mp hm
    rw [Pattern.isRefused_eq_false_iff.mpr (hp c hc p hp')]
    nofun
  have hcause := x.reached.cause?_compile
  have hread : (Adapter.memory.readRows x.read.request m).1 =
      (m.store.read x.read.request).mapError .pattern := rfl
  rw [hread, Store.read_of_no_keys hrows]
  rw [hfind] at hcause
  cases hf : Filter.compileOptional x.read.request.filter <;> rw [hf] at hcause
  case error => cases hcause
  case ok => rfl

end Execution

namespace Client

variable {config : Config} {σ : Type}

-- Executes reads in order, each with what the adapter remembers from those before.
def run (c : Client σ) : List (Execution c.config) → σ → List (Except ReadError Answer) × σ
  | [], st => ([], st)
  | x :: session, st =>
    let here := x.run c.adapter st
    let rest := c.run session here.2
    (here.1 :: rest.1, rest.2)

-- The executions that are not answered at once.
def asking (session : List (Execution config)) : List (Execution config) :=
  session.filter (¬·.GivenNoKeys)

theorem run_recording (a : Adapter σ) (session : List (Execution config)) (st : σ)
    (asked : List Request) :
    (Client.mk config a.recording).run session (st, asked) =
      (((Client.mk config a).run session st).1, ((Client.mk config a).run session st).2,
        asked ++ (asking session).map (·.read.request)) := by
  induction session generalizing st asked
  case nil => simp [run, asking]
  case cons x session ih =>
    simp only [run, Execution.run_recording, ih]
    by_cases hx : x.GivenNoKeys <;> simp [asking, hx]

theorem run_memory (session : List (Execution config)) (m : MemoryStore) :
    (Client.mk config .memory).run session m =
      (session.map fun x => (x.run .memory ⟨m.store, 0⟩).1,
        { m with reads := m.reads + (asking session).length }) := by
  induction session generalizing m
  case nil => rfl
  case cons x session ih =>
    simp only [run]
    rw [Execution.run_memory, ih]
    by_cases hx : x.GivenNoKeys <;> simp [asking, hx, Nat.add_assoc, Nat.add_comm 1]

theorem asks_unless_givenNoKeys (config : Config) (session : List (Execution config))
    (m : MemoryStore) :
    let result := (Client.mk config .memory).run session m
    result.1 = session.map (fun x => (x.run .memory m).1) ∧
    result.2 = { m with reads := m.reads + (asking session).length } ∧
    (Client.mk config Adapter.memory.recording).run session (m, []) =
      (result.1, result.2, (asking session).map (·.read.request)) ∧
    ∀ x ∈ session, ∀ m' : MemoryStore,
      ((x.run .memory m').2 = m' ↔ x.GivenNoKeys) ∧
      (x.GivenNoKeys →
        (x.run .memory m').1 = .ok ⟨x.state.shape, x.state.shape.nothing⟩ ∧
        ((∀ c ∈ x.calls, ∀ p ∈ c.text?, ∃ r, Pattern.compile (Bytes.ofText p) = .ok r) →
          ∃ rows, (Adapter.memory.readRows x.read.request m').1 = .ok rows ∧
            (x.run .memory m').1 = .ok ⟨x.state.shape, x.state.project rows⟩)) := by
  intro result
  have hresult : result = _ := run_memory session m
  refine ⟨?results, ?reads, ?requests, fun x _ m' => ⟨?untouched, fun hx => ⟨?nothing, ?agrees⟩⟩⟩
  case results =>
    rw [hresult]
    exact List.map_congr_left fun x _ => by rw [x.run_memory m]
  case reads => rw [hresult]
  case requests => exact run_recording .memory session m []
  case untouched => exact x.run_memory_eq_iff
  case nothing => rw [x.run_of_givenNoKeys .memory m' hx]
  case agrees =>
    intro hp
    refine ⟨[], x.readRows_of_givenNoKeys hx hp m', ?_⟩
    rw [x.run_of_givenNoKeys .memory m' hx, State.project_nil]

-- A scan, a read that is refused, and one without keys, which is answered like the store would.
theorem asks_unless_givenNoKeys_of_three :
    let table : TableName := ⟨"p", "i", "t"⟩
    let config : Config := ⟨"p", "i", none⟩
    let scan : Execution config :=
      ⟨"t", table, .rows, [], _, .start table none .rows, rfl, .start⟩
    let refused : Execution config :=
      ⟨"t", table, .row [7], [.familyRegex "("], .narrow .family .many (.rows .one),
        ⟨⟨table, none, ⟨.keys [[7]], 1⟩, [.matching .family "("], none⟩⟩, rfl, .call rfl .start rfl⟩
    let keyless : Execution config :=
      ⟨"t", table, .rows, [.addKeys [], .keyRegex "a.", .addKeys []], .rows .many,
        ⟨⟨table, none, ⟨.keys [], 0⟩, [.matching .rowKey "a."], none⟩⟩, rfl,
        .call rfl (.call rfl (.call rfl .start rfl) rfl) rfl⟩
    let session := [keyless, scan, refused, keyless]
    ((Client.mk config .memory).run session {}).2.reads = 2 ∧
    ((Client.mk config Adapter.memory.recording).run session ({}, [])).2.2 =
      [scan.read.request, refused.read.request] ∧
    ∃ rows, (Adapter.memory.readRows keyless.read.request {}).1 = .ok rows ∧
      (keyless.run .memory {}).1 = .ok ⟨.list .row, rows⟩ := by
  intro table config scan refused keyless session
  have ⟨_, hreads, hrequests, heach⟩ := asks_unless_givenNoKeys config session {}
  have ⟨_, hkeyless⟩ := heach keyless (.head _) {}
  refine ⟨congrArg MemoryStore.reads hreads, ?_, ?_⟩
  · rw [hrequests]
    rfl
  · refine (hkeyless ⟨nofun, by decide⟩).right fun c hc p hp => ?_
    have hc : c = .addKeys [] ∨ c = .keyRegex "a." := by simpa [keyless, or_comm] using hc
    rcases hc with rfl | rfl <;> cases hp
    exact Pattern.isRefused_eq_false_iff.mp (by decide +kernel)

end Client
end WideTable
