import WideTable.Proofs.Filter.Refusal
import WideTable.Store.Read

namespace WideTable

namespace Filter

theorem cause?_compileOptional (f : Option Filter) :
    cause? (compileOptional f) =
      ((f.elim [] patterns).find? Pattern.isUnusable).map Pattern.fault := by
  cases f
  case none => rfl
  case some f => exact cause?_compile_eq f

end Filter

theorem Store.cause?_read (s : Store) (r : Request) :
    cause? (s.read r) = cause? (Filter.compileOptional r.filter) := by
  rw [read]
  cases Filter.compileOptional r.filter <;> rfl

namespace MemoryStore

theorem cause?_read (m : MemoryStore) (r : Request) :
    cause? (m.read r).1 =
      ((r.filter.elim [] Filter.patterns).find? Pattern.isUnusable).map Pattern.fault :=
  (m.store.cause?_read r).trans (Filter.cause?_compileOptional r.filter)

-- The patterns are those of all leaves, also of leaves that no entry would ever get to.
theorem read_refused (m : MemoryStore) (r : Request) :
    let patterns := r.filter.elim [] Filter.patterns
    let answer := (m.read r).1
    ((∃ e, answer = .error e) ↔ ∃ p ∈ patterns,
      Bytes.text? p = none ∨ ∃ text, p = Bytes.ofText text ∧ Pattern.isRefused text = true) ∧
    (∀ e, answer = .error e ↔ ∃ p, patterns.find? Pattern.isUnusable = some p ∧
      (Bytes.text? p = none ∧ e = .notText ∨ ∃ text, p = Bytes.ofText text ∧ e = .refused text)) ∧
    (∀ (other : MemoryStore) (rows : RowSet) (limit : Nat),
      cause? (other.read { r with rows, limit }).1 = cause? answer) ∧
    (m.read r).2 = { m with reads := m.reads + 1 } := by
  intro patterns answer
  have hc : cause? answer = (patterns.find? Pattern.isUnusable).map Pattern.fault := m.cause?_read r
  have he (e : PatternError) : answer = .error e ↔
      ∃ p, patterns.find? Pattern.isUnusable = some p ∧ Pattern.fault p = e := by
    rw [← cause?_eq_some_iff, hc, Option.map_eq_some_iff]
  refine ⟨?fails, fun e => ?first, fun other rows limit => ?alike, rfl⟩
  case fails =>
    simp only [he, ← Pattern.isUnusable_eq_true_iff]
    rw [← List.find?_isSome, Option.isSome_iff_exists]
    simp
  case first => simp only [he, Pattern.fault_eq_iff]
  case alike => exact (other.cause?_read _).trans hc.symm

-- No row is selected and no entry would get past the first leaf.
example (m : MemoryStore) :
    (m.read
      { table := "t", limit := 1, rows := .keys []
        filter := some (.chain
          [.blockAll, .chain [.cellsPerRow 0, .matching .value "("], .matching .family "["]) }).1 =
      .error (.refused "(") :=
  cause?_eq_some_iff.mp <| (m.cause?_read _).trans (by decide +kernel)

end MemoryStore
end WideTable
