import WideTable.Proofs.Filter.Exact
import WideTable.Proofs.Filter.Leaves

namespace WideTable

-- The error, if there is one.
def cause? {ε α : Type} : Except ε α → Option ε
  | .ok _ => none
  | .error cause => some cause

theorem cause?_map {ε α β : Type} (f : α → β) (x : Except ε α) : cause? (x.map f) = cause? x := by
  cases x <;> rfl

theorem cause?_eq_some_iff {ε α : Type} {x : Except ε α} {e : ε} :
    cause? x = some e ↔ x = .error e := by
  cases x <;> simp [cause?]

theorem cause?_eq_none_iff {ε α : Type} {x : Except ε α} :
    cause? x = none ↔ ∃ a, x = .ok a := by
  cases x <;> simp [cause?]

-- Of two computations the first one that fails decides.
theorem cause?_both {ε α β γ : Type} (f : α → β → γ) (x : Except ε α) (y : Except ε β) :
    cause? (do return f (← x) (← y)) = (cause? x).or (cause? y) := by
  cases x
  case error => rfl
  case ok => cases y <;> rfl

namespace Pattern

variable {p : String}

-- The pattern does not compile, for what it says or for the size of its regex.
def isRefused (p : String) : Bool :=
  (wholeRegex? p).all fun r => !r.fits

-- The pattern is no regex once it is made to match whole values.
def isMalformed (p : String) : Bool :=
  (wholeRegex? p).isNone

-- The regex of the pattern, if there is one, is small enough.
def Fits (p : String) : Prop :=
  ∀ r ∈ wholeRegex? p, r.fits = true

-- The bytes are no text, or a text that is refused.
def isUnusable (bytes : Bytes) : Bool :=
  (Bytes.text? bytes).all isRefused

-- What is wrong with bytes that are unusable.
def fault (bytes : Bytes) : PatternError :=
  (Bytes.text? bytes).elim .notText .refused

theorem cause?_compile_eq (bytes : Bytes) :
    cause? (compile bytes) = if isUnusable bytes then some (fault bytes) else none := by
  rw [compile, isUnusable, fault]
  cases Bytes.text? bytes
  case none => rfl
  case some p =>
    rw [Option.all_some, Option.elim_some, isRefused]
    cases h : wholeRegex? p
    case none => simp only [h]; rfl
    case some r => cases hr : r.fits <;> simp [h, hr] <;> rfl

theorem cause?_compile (p : String) :
    cause? (compile (Bytes.ofText p)) = if isRefused p then some (.refused p) else none := by
  simpa [isUnusable, fault] using cause?_compile_eq (Bytes.ofText p)

theorem isUnusable_eq_true_iff {bytes : Bytes} :
    isUnusable bytes = true ↔
      Bytes.text? bytes = none ∨ ∃ p, bytes = Bytes.ofText p ∧ isRefused p = true := by
  rw [isUnusable]
  cases h : Bytes.text? bytes
  case none => simp
  case some p =>
    cases Bytes.ofText_of_text? h
    simp [Bytes.ofText_inj]

theorem fault_eq_iff {bytes : Bytes} {e : PatternError} :
    fault bytes = e ↔
      Bytes.text? bytes = none ∧ e = .notText ∨ ∃ p, bytes = Bytes.ofText p ∧ e = .refused p := by
  rw [fault]
  cases h : Bytes.text? bytes
  case none =>
    have hp (p : String) : bytes ≠ Bytes.ofText p := fun hb => by simp [hb] at h
    simp [hp, eq_comm]
  case some p =>
    cases Bytes.ofText_of_text? h
    simp [Bytes.ofText_inj, eq_comm]

theorem exists_compile_eq_ok_iff {bytes : Bytes} :
    (∃ r, compile bytes = .ok r) ↔ isUnusable bytes = false := by
  rw [← cause?_eq_none_iff, cause?_compile_eq]
  cases isUnusable bytes <;> simp

theorem isRefused_eq_false_iff {p : String} :
    isRefused p = false ↔ ∃ r, compile (Bytes.ofText p) = .ok r := by
  simp [exists_compile_eq_ok_iff, isUnusable]

theorem Fits.isRefused_eq (h : Fits p) : isRefused p = isMalformed p := by
  rw [isRefused, isMalformed]
  cases hp : wholeRegex? p
  case none => rfl
  case some r => simp [h r hp]

theorem exists_find?_isMalformed_iff {ps : List String} :
    (∃ p, ps.find? isMalformed = some p) ↔ ∃ p ∈ ps, wholeRegex? p = none := by
  rw [← Option.isSome_iff_exists, List.find?_isSome]
  simp [isMalformed]

theorem isMalformed_ofLiterals? {ls : List Bytes} (h : ofLiterals? ls = some p) :
    isMalformed p = false := by
  cases ls
  case nil => cases h
  case cons l ls =>
    cases h
    rw [isMalformed, wholeRegex?_alternation (List.cons_ne_nil l ls)]
    rfl

end Pattern

namespace Filter

theorem cause?_inTurn (fs : List Filter) : cause? (inTurn fs) = cause? (compileAll fs) :=
  cause?_map Sieve.chain (compileAll fs)

theorem cause?_compileAll_append (fs gs : List Filter) :
    cause? (compileAll (fs ++ gs)) = (cause? (compileAll fs)).or (cause? (compileAll gs)) := by
  rw [← cause?_inTurn, inTurn_append, cause?_both, cause?_inTurn, cause?_inTurn]

theorem cause?_compileAll_singleton (f : Filter) : cause? (compileAll [f]) = cause? f.compile := by
  rw [← cause?_inTurn, inTurn_singleton]

theorem cause?_compile_matching (field : Field) (p : String) :
    cause? (matching field p).compile = ((some p).filter Pattern.isRefused).map .refused := by
  have hc : cause? (matching field p).compile = cause? (Pattern.compile (Bytes.ofText p)) := by
    rw [matching, compile]
    cases Pattern.compile (Bytes.ofText p) <;> rfl
  rw [hc, Pattern.cause?_compile]
  cases h : Pattern.isRefused p <;> simp [h]

theorem cause?_compile_exactAny (field : Field) (ls : List Bytes) :
    cause? (exactAny field ls).compile =
      ((Pattern.ofLiterals? ls).filter Pattern.isRefused).map .refused := by
  rw [exactAny]
  cases Pattern.ofLiterals? ls
  case none => rfl
  case some p => exact cause?_compile_matching field p

-- The pattern of a leaf.
def pattern? : Filter → Option Bytes
  | regex _ pattern => some pattern
  | _ => none

-- All patterns, from left to right.
def patterns (f : Filter) : List Bytes :=
  f.leaves.filterMap pattern?

theorem patterns_chain (fs : List Filter) : (chain fs).patterns = fs.flatMap patterns := by
  rw [patterns, leaves, leavesOfAll_eq_flatMap, List.filterMap_flatMap]
  rfl

theorem cause?_compile_regex (field : Field) (pattern : Bytes) :
    cause? (regex field pattern).compile = cause? (Pattern.compile pattern) := by
  rw [compile]
  cases Pattern.compile pattern <;> rfl

theorem cause?_compile_chain (fs : List Filter) :
    cause? (chain fs).compile = cause? (compileAll fs) := by
  rw [compile_chain_eq, cause?_inTurn]

mutual

-- The first unusable pattern decides. Where there is none, nothing else can be wrong.
theorem cause?_compile_eq : (f : Filter) →
    cause? f.compile = (f.patterns.find? Pattern.isUnusable).map Pattern.fault
  | chain filters => by
    rw [cause?_compile_chain, patterns_chain, cause?_compileAll_eq filters]
  | regex field pattern => by
    have hp : (regex field pattern).patterns = [pattern] := rfl
    rw [cause?_compile_regex, Pattern.cause?_compile_eq, hp, List.find?_singleton]
    split <;> rfl
  | passAll | blockAll | qualifierRange .. | valueRange .. | timestampRange ..
  | cellsPerColumn _ | cellsPerRow _ | cellsOffset _ | stripValue => rfl

theorem cause?_compileAll_eq : (fs : List Filter) →
    cause? (compileAll fs) =
      ((fs.flatMap patterns).find? Pattern.isUnusable).map Pattern.fault
  | [] => rfl
  | f :: fs => by
    rw [← List.singleton_append, cause?_compileAll_append, cause?_compileAll_singleton,
      cause?_compile_eq f, cause?_compileAll_eq fs, List.flatMap_append, List.flatMap_singleton,
      List.find?_append, Option.map_or]

end

theorem exists_inTurn_eq_ok {fs : List Filter}
    (h : ∀ p ∈ fs.flatMap patterns, ∃ r, Pattern.compile p = .ok r) :
    ∃ sieve, inTurn fs = .ok sieve := by
  have hn : (fs.flatMap patterns).find? Pattern.isUnusable = none := by
    refine List.find?_eq_none.mpr fun p hp => ?_
    simp [Pattern.exists_compile_eq_ok_iff.mp (h p hp)]
  rw [← cause?_eq_none_iff, cause?_inTurn, cause?_compileAll_eq, hn, Option.map_none]

end Filter
end WideTable
