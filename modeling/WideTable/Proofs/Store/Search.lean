import WideTable.Proofs.Selector.Run
import WideTable.Proofs.Store.Selection

namespace WideTable

open ByteKey

namespace Bound

-- Where the bound is, if it is anywhere.
def value? : Bound → Option Bytes
  | unbounded => none
  | included v | excluded v => some v

end Bound

namespace Span

-- The start comes after the end, or both are one value and leave it out.
-- A search of an ordered map breaks where the edges of the range cross, or where they meet in a value
-- that both leave out. All ranges that would break are taken for empty, and none that has a key in it.
def isBroken (s : Span) : Bool :=
  s.lower.value?.any fun a => s.upper.value?.any fun b =>
    b < a || (a = b && s.lower = .excluded a && s.upper = .excluded b)

theorem searchable_iff_isBroken {s : Span} : s.Searchable ↔ s.isBroken = false := by
  obtain ⟨lower, upper⟩ := s
  cases lower <;> cases upper <;> simp [Searchable, isBroken, Bound.value?, ← List.not_lt]
  case excluded.excluded a b =>
    constructor
    case mp => exact fun h => ⟨List.lt_asymm h, fun he => List.lt_irrefl b (he ▸ h)⟩
    case mpr =>
      rintro ⟨h, hne⟩
      exact Decidable.not_not.mp fun hn => hne (eq_of_not_before hn h)

theorem isBroken_of_not_isVoid {s : Span} (h : s.isVoid = false) : s.isBroken = false :=
  searchable_iff_isBroken.mp (searchable_of_not_isVoid h)

end Span

-- What is found in a range, unless the search breaks.
def SortedMap.search? {κ α : Type} [ByteKey κ] (m : SortedMap κ α) (span : Span) :
    Option (List (κ × α)) :=
  if h : span.isBroken = false then some (m.slice span (Span.searchable_iff_isBroken.mpr h))
  else none

namespace Store

-- The rows in a range, by a search that may break. It is not made where the range is void.
def range? (s : Store) (span : Span) : Option (List (RowKey × StoredRow)) :=
  if span.isVoid then some [] else s.rows.search? span

theorem range?_eq (s : Store) (span : Span) : s.range? span = some (s.select (.range span)) := by
  by_cases h : span.isVoid = false
  case pos =>
    have hb := Span.isBroken_of_not_isVoid h
    simp [range?, select, SortedMap.search?, h, hb]
  case neg => simp [range?, select, h]

end Store

namespace Selector

variable {sel : Selector}

theorem addRowRange_eq_ok_iff (h : ∀ keys, sel.rows ≠ .keys keys) {spec : RangeSpec} {span : Span} :
    (addRowRange spec).run sel = .ok () { sel with rows := .range span } ↔
      spec = .ofSpan span ∧ span ≠ ⟨.unbounded, .unbounded⟩ := by
  rw [← RangeSpec.toSpan_eq_ok_iff, run_addRowRange]
  cases spec.toSpan
  case error => exact iff_of_false (by rintro ⟨⟩) (by rintro ⟨⟩)
  case ok found => simp [run_setSpan_of_ne_keys h]

end Selector

namespace Store

-- No order of the edges keeps a range from being asked for.
theorem search_guarded (s : Store) (span : Span) :
    (span.isVoid = false → span.isBroken = false) ∧
    s.range? span = some (s.select (.range span)) ∧
    s.select (.range span) = s.rows.entries.filter (fun e => span.contains e.1) ∧
    (span.isVoid = true → ∀ k, span.contains k = false) ∧
    ∀ sel : Selector, (∀ keys, sel.rows ≠ .keys keys) →
      (∀ spec, (Selector.addRowRange spec).run sel = .ok () { sel with rows := .range span } ↔
        spec = .ofSpan span ∧ span ≠ ⟨.unbounded, .unbounded⟩) ∧
      ∀ a b, (Selector.addKeyRange (some a) (some b)).run sel =
        .ok () { sel with rows := .range ⟨.included a, .excluded b⟩ } :=
  ⟨Span.isBroken_of_not_isVoid, s.range?_eq span, s.select_eq_filter (.range span),
    Span.contains_eq_false_of_isVoid, fun _ h =>
      ⟨fun _ => Selector.addRowRange_eq_ok_iff h, fun _ _ => Selector.run_setSpan_of_ne_keys h _⟩⟩

-- A search that would break, though the key is stored.
theorem search_guarded_of_open_edges :
    let s := ofWrites [⟨[1], "f", [], ⟨0, [], []⟩⟩]
    let span : Span := ⟨.excluded [1], .excluded [1]⟩
    s.rows.search? span = none ∧ span.isVoid = true ∧ s.range? span = some [] ∧
      (∀ k, span.contains k = false) ∧
      (Selector.addRowRange (.ofSpan span)).run {} = .ok () { rows := .range span } := by
  intro s span
  have ⟨_, hr, _, hc, hb⟩ := s.search_guarded span
  exact ⟨rfl, rfl, hr, hc rfl, ((hb {} fun _ => nofun).left _).mpr ⟨rfl, by simp [span]⟩⟩

end Store
end WideTable
