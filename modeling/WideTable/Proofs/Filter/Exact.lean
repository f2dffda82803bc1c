import WideTable.Filter.Apply
import WideTable.Proofs.Regex.Literals

namespace WideTable

namespace Field

-- What a filter on this field looks at.
def content (field : Field) (key : RowKey) (e : Entry) : Bytes :=
  match field with
  | rowKey => key
  | family => Bytes.ofText e.family
  | qualifier => e.qualifier
  | value => e.cell.value

end Field

namespace Sieve

theorem matching_eq_filter (r : Regex) (field : Field) (key : RowKey) (es : List Entry) :
    matching r field key es = es.filter fun e => r.occursIn (field.content key e) := by
  cases field
  case rowKey =>
    have hk : matching r .rowKey key es = if r.occursIn key then es else [] := rfl
    rw [hk]
    split
    case isTrue h => exact (List.filter_eq_self.mpr fun _ _ => h).symm
    case isFalse h => exact (List.filter_eq_nil_iff.mpr fun _ _ => h).symm
  case family | qualifier | value => rfl

theorem matching_exactly (ls : List Bytes) (field : Field) (key : RowKey) (es : List Entry) :
    matching (.exactly ls) field key es = es.filter fun e => field.content key e ∈ ls := by
  rw [matching_eq_filter]
  refine List.filter_congr fun e _ => ?_
  rw [Bool.eq_iff_iff, Regex.occursIn_exactly, decide_eq_true_iff]

end Sieve

theorem Pattern.compile_alternation {ls : List Bytes} (h : ls ≠ []) :
    compile (Bytes.ofText (.ofList (alternation ls))) =
      if (Regex.exactly ls).fits then .ok (.exactly ls)
      else .error (.refused (.ofList (alternation ls))) := by
  rw [compile, Bytes.text?_ofText]
  simp only [wholeRegex?_alternation h]
  rfl

namespace Filter

theorem compile_exactAny (field : Field) {ls : List Bytes} (h : ls ≠ []) :
    (exactAny field ls).compile =
      if (Regex.exactly ls).fits then .ok (Sieve.matching (.exactly ls) field)
      else .error (.refused (.ofList (Pattern.alternation ls))) := by
  have he : exactAny field ls = matching field (.ofList (Pattern.alternation ls)) := by
    cases ls
    case nil => contradiction
    case cons => rfl
  rw [he, matching, compile, Pattern.compile_alternation h]
  split <;> rfl

theorem exactAny_matches_literals (field : Field) (ls : List Bytes) :
    (ls ≠ [] → ∃ pattern r,
      Pattern.ofLiterals? ls = some pattern ∧
      exactAny field ls = matching field pattern ∧
      Pattern.wholeRegex? pattern = some r ∧
      (∀ w, r.occursIn w = true ↔ w ∈ ls) ∧
      Pattern.compile (Bytes.ofText pattern) =
        (if r.fits then .ok r else .error (.refused pattern)) ∧
      (r.fits → ∃ sieve, (exactAny field ls).compile = .ok sieve ∧
        ∀ key es, sieve key es = es.filter fun e => field.content key e ∈ ls)) ∧
    (ls = [] → exactAny field ls = blockAll ∧
      ∃ sieve, (exactAny field ls).compile = .ok sieve ∧ ∀ key es, sieve key es = []) ∧
    ∀ l, exact field l = exactAny field [l] := by
  refine ⟨fun h => ?listed, fun h => ?none, fun l => rfl⟩
  case listed =>
    let pattern : String := .ofList (Pattern.alternation ls)
    have hp : Pattern.ofLiterals? ls = some pattern := by
      cases ls
      case nil => contradiction
      case cons => rfl
    have he : exactAny field ls = matching field pattern := by rw [exactAny, hp]
    refine ⟨pattern, .exactly ls, hp, he, Pattern.wholeRegex?_alternation h,
      fun w => Regex.occursIn_exactly, Pattern.compile_alternation h, fun hf => ?_⟩
    have hc := compile_exactAny field h
    rw [if_pos hf] at hc
    exact ⟨_, hc, Sieve.matching_exactly ls field⟩
  case none =>
    subst h
    exact ⟨rfl, _, rfl, fun _ _ => rfl⟩

end Filter
end WideTable
