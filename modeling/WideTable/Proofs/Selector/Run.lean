import WideTable.Proofs.Range.Edges
import WideTable.Proofs.Read.Calls

namespace WideTable

namespace RowSet

def listed : RowSet → List RowKey
  | keys ks => ks
  | _ => []

def span? : RowSet → Option Span
  | range span => some span
  | _ => none

variable {rows : RowSet}

theorem span?_eq_some_iff {span : Span} : rows.span? = some span ↔ rows = .range span := by
  cases rows <;> simp [span?]

theorem span?_eq_none_iff : rows.span? = none ↔ ∀ span, rows ≠ .range span := by
  cases rows <;> simp [span?]

theorem eq_all_iff_of_kind {other : RowSet} (h : rows.kind = other.kind) :
    rows = .all ↔ other = .all := by
  cases rows <;> cases other <;> simp [kind] at h ⊢

end RowSet

namespace Call

-- The range that a call asks for, or what is wrong with it.
def range? : Call → Option (Except RangeError Span)
  | addKeyRange none none => some (.error .noRowBound)
  | addKeyRange (some k) none => some (.ok ⟨.included k, .unbounded⟩)
  | addKeyRange none (some k) => some (.ok ⟨.unbounded, .excluded k⟩)
  | addKeyRange (some k) (some l) => some (.ok ⟨.included k, .excluded l⟩)
  | addRowRange spec => some spec.toSpan
  | _ => none

def span? (c : Call) : Option Span :=
  c.range?.bind Except.toOption

def limit? : Call → Option Nat
  | limitRows n => some n
  | _ => none

variable {c : Call} {span : Span}

theorem span?_eq_some_iff : c.span? = some span ↔ c.range? = some (.ok span) := by
  rw [span?]
  rcases c.range? with _ | _ | _ <;> simp [Except.toOption]

theorem ne_unbounded_of_range? (h : c.range? = some (.ok span)) :
    span ≠ ⟨.unbounded, .unbounded⟩ := by
  cases c
  case addKeyRange start stop => cases start <;> cases stop <;> cases h <;> nofun
  case addRowRange spec => exact (RangeSpec.toSpan_eq_ok_iff.mp (Option.some.inj h)).right
  all_goals cases h

theorem run_select_of_span (s : Selector) (h : c.range? = some (.ok span)) :
    c.select.run s = (Selector.setSpan span).run s := by
  cases c
  case addKeyRange start stop => cases start <;> cases stop <;> cases h <;> rfl
  case addRowRange spec => rw [select, Selector.run_addRowRange, Option.some.inj h]
  all_goals cases h

-- Whatever is selected already, a range that is wrong in itself is refused for that.
theorem run_select_of_fault (s : Selector) {cause : RangeError} (h : c.range? = some (.error cause)) :
    c.select.run s = .error (.range cause) s := by
  cases c
  case addKeyRange start stop =>
    cases start <;> cases stop <;> cases h
    rfl
  case addRowRange spec => rw [select, Selector.run_addRowRange, Option.some.inj h]
  all_goals cases h

theorem keys_of_range? {r : Except RangeError Span} (h : c.range? = some r) : c.keys = [] := by
  cases c <;> first | rfl | cases h

theorem limit?_of_range? {r : Except RangeError Span} (h : c.range? = some r) : c.limit? = none := by
  cases c <;> first | rfl | cases h

end Call

namespace Selector

variable {s t : Selector} {c : Call} {cause : SelectionError} {keys : List RowKey} {span : Span}

-- All that a call can do to a selector, if it does not fail.
inductive Moves (s : Selector) : Call → Selector → Prop
  | keys (keys : List RowKey) : (∀ span, s.rows ≠ .range span) →
      Moves s (.addKeys keys) { s with rows := .keys (s.rows.listed ++ keys) }
  | range {c : Call} {span : Span} : c.range? = some (.ok span) → (∀ keys, s.rows ≠ .keys keys) →
      Moves s c { s with rows := .range span }
  | limit (n : Nat) : Moves s (.limitRows n) { s with limit := n }
  | stay {c : Call} : c.keys = [] → c.range? = none → c.limit? = none → Moves s c s

-- And why it can fail.
inductive Fails (s : Selector) : Call → SelectionError → Prop
  | range {c : Call} {cause : RangeError} : c.range? = some (.error cause) → Fails s c (.range cause)
  | rangeAfterKeys {c : Call} {span : Span} {keys : List RowKey} :
      c.range? = some (.ok span) → s.rows = .keys keys → Fails s c .rangeAfterKeys
  | keysAfterRange {keys : List RowKey} {span : Span} :
      s.rows = .range span → Fails s (.addKeys keys) .keysAfterRange

theorem run_addKeys_of_ne_range (h : ∀ span, s.rows ≠ .range span) (keys : List RowKey) :
    (addKeys keys).run s = .ok () { s with rows := .keys (s.rows.listed ++ keys) } := by
  rw [run_addKeys]
  split
  case h_1 span hs => exact absurd hs (h span)
  case h_2 present hs => rw [hs]; rfl
  case h_3 hs => rw [hs]; rfl

theorem run_addKeys_of_range (h : s.rows = .range span) (keys : List RowKey) :
    (addKeys keys).run s = .error .keysAfterRange s := by
  rw [run_addKeys, h]

theorem run_setSpan_of_ne_keys (h : ∀ keys, s.rows ≠ .keys keys) (span : Span) :
    (setSpan span).run s = .ok () { s with rows := .range span } := by
  rw [run_setSpan]
  split
  case h_1 keys hk => exact absurd hk (h keys)
  case h_2 => rfl

theorem run_setSpan_of_keys (h : s.rows = .keys keys) (span : Span) :
    (setSpan span).run s = .error .rangeAfterKeys s := by
  rw [run_setSpan, h]

-- A call checks before it changes anything.
theorem moves_or_fails (s : Selector) (c : Call) :
    match c.select.run s with
    | .ok _ t => Moves s c t
    | .error cause t => t = s ∧ Fails s c cause := by
  cases hr : c.range?
  case some r =>
    cases r
    case error cause =>
      rw [c.run_select_of_fault s hr]
      exact ⟨rfl, .range hr⟩
    case ok span =>
      rw [c.run_select_of_span s hr]
      by_cases hk : ∀ keys, s.rows ≠ .keys keys
      case pos =>
        rw [run_setSpan_of_ne_keys hk]
        exact .range hr hk
      case neg =>
        obtain ⟨keys, hk⟩ := not_forall_not.mp hk
        rw [run_setSpan_of_keys hk]
        exact ⟨rfl, .rangeAfterKeys hr hk⟩
  case none =>
    cases c
    case addKeys keys =>
      by_cases hs : ∀ span, s.rows ≠ .range span
      case pos =>
        rw [Call.select, run_addKeys_of_ne_range hs]
        exact .keys keys hs
      case neg =>
        obtain ⟨span, hs⟩ := not_forall_not.mp hs
        rw [Call.select, run_addKeys_of_range hs]
        exact ⟨rfl, .keysAfterRange hs⟩
    case addKeyRange start stop => cases start <;> cases stop <;> cases hr
    case addRowRange => cases hr
    case limitRows n => exact .limit n
    all_goals exact .stay rfl rfl rfl

theorem eq_of_select_eq_error (h : c.select.run s = .error cause t) : t = s := by
  have hf := s.moves_or_fails c
  rw [h] at hf
  exact hf.left

-- The selector as a call leaves it behind, whether the call fails or not.
def after (s : Selector) (c : Call) : Selector :=
  match c.select.run s with
  | .ok _ t | .error _ t => t

theorem after_of_eq_ok (h : c.select.run s = .ok () t) : s.after c = t := by
  rw [after, h]

theorem after_of_eq_error (h : c.select.run s = .error cause t) : s.after c = s := by
  rw [after, h]
  exact eq_of_select_eq_error h

def run (s : Selector) (calls : List Call) : Selector :=
  calls.foldl after s

def accepts (s : Selector) (c : Call) : Bool :=
  match c.select.run s with
  | .ok .. => true
  | .error .. => false

-- The calls that do not fail.
def accepted (s : Selector) : List Call → List Call
  | [] => []
  | c :: calls => (if s.accepts c then [c] else []) ++ accepted (s.after c) calls

theorem run_cons (s : Selector) (c : Call) (calls : List Call) :
    s.run (c :: calls) = (s.after c).run calls :=
  rfl

theorem run_append (s : Selector) (xs ys : List Call) : s.run (xs ++ ys) = (s.run xs).run ys :=
  List.foldl_append

theorem run_concat (s : Selector) (calls : List Call) (c : Call) :
    s.run (calls ++ [c]) = (s.run calls).after c :=
  s.run_append calls [c]

theorem moves_or_stays (s : Selector) (c : Call) :
    (s.accepts c = true ∧ Moves s c (s.after c)) ∨
      (s.accepts c = false ∧ s.after c = s ∧ ∃ cause, Fails s c cause) := by
  have h := s.moves_or_fails c
  rw [after, accepts]
  cases hc : c.select.run s <;> simp only [hc] at h
  case ok => exact .inl ⟨rfl, h⟩
  case error => exact .inr ⟨rfl, h.left, _, h.right⟩

-- The first keys or the first range decide between a list of keys, which then only grows, and a range,
-- which then is only replaced.
theorem kind_after (h : s.rows ≠ .all) : (s.after c).rows.kind = s.rows.kind := by
  rcases s.moves_or_stays c with ⟨-, hm⟩ | ⟨-, hs, -⟩
  case inr => rw [hs]
  case inl =>
    generalize s.after c = t at hm ⊢
    cases hm
    case keys hs =>
      cases hr : s.rows
      case all => contradiction
      case keys => rfl
      case range span => exact absurd hr (hs span)
    case range hs _ =>
      cases hr : s.rows
      case all => contradiction
      case keys keys => exact absurd hr (hs keys)
      case range => rfl
    case limit | stay => rfl

theorem kind_run (h : s.rows ≠ .all) (calls : List Call) :
    (s.run calls).rows.kind = s.rows.kind := by
  induction calls generalizing s
  case nil => rfl
  case cons c calls ih =>
    have hc : (s.after c).rows.kind = s.rows.kind := kind_after h
    rw [run_cons, ih (mt (RowSet.eq_all_iff_of_kind hc).mp h), hc]

-- A range is never left again, so there is none before the end either.
theorem ne_range_of_run {calls : List Call} (h : ∀ span, (s.run calls).rows ≠ .range span) :
    ∀ span, s.rows ≠ .range span := by
  intro span hs
  have hall : s.rows ≠ .all := by simp [hs]
  have hk := kind_run hall calls
  cases hr : (s.run calls).rows <;> rw [hr, hs] at hk
  case range span => exact h span hr
  all_goals simp [RowSet.kind] at hk

theorem listed_after (h : ∀ span, (s.after c).rows ≠ .range span) :
    (s.after c).rows.listed = s.rows.listed ++ c.keys := by
  rcases s.moves_or_stays c with ⟨-, hm⟩ | ⟨-, hs, _, hf⟩
  case inr =>
    rw [hs] at h ⊢
    cases hf
    case range hc | rangeAfterKeys _ hc => rw [Call.keys_of_range? hc, List.append_nil]
    case keysAfterRange hr => exact absurd hr (h _)
  case inl =>
    generalize s.after c = t at hm h ⊢
    cases hm
    case keys => rfl
    case range => exact absurd rfl (h _)
    case limit => exact (List.append_nil _).symm
    case stay hc _ _ => rw [hc, List.append_nil]

theorem listed_run {calls : List Call} (h : ∀ span, (s.run calls).rows ≠ .range span) :
    (s.run calls).rows.listed = s.rows.listed ++ calls.flatMap Call.keys := by
  induction calls generalizing s
  case nil => exact (List.append_nil _).symm
  case cons c calls ih =>
    rw [run_cons] at h ⊢
    rw [ih h, listed_after (ne_range_of_run h), List.flatMap_cons, List.append_assoc]

-- The range of the last call that asked for one and did not fail, or else the one that was there.
theorem span?_after (s : Selector) (c : Call) :
    (s.after c).rows.span? =
      (((if s.accepts c then [c] else []).filterMap Call.span?).getLast?).or s.rows.span? := by
  rcases s.moves_or_stays c with ⟨hc, hm⟩ | ⟨hc, hs, -⟩
  case inr => simp [hs, hc]
  case inl =>
    rw [if_pos hc]
    generalize s.after c = t at hm ⊢
    cases hm
    case keys keys hs => exact (RowSet.span?_eq_none_iff.mpr hs).symm
    case range _ hr => simp [Call.span?_eq_some_iff.mpr hr, RowSet.span?]
    case limit => rfl
    case stay hr _ => simp [Call.span?, hr]

theorem span?_run (s : Selector) (calls : List Call) :
    (s.run calls).rows.span? = (((s.accepted calls).filterMap Call.span?).getLast?).or s.rows.span? := by
  induction calls generalizing s
  case nil => rfl
  case cons c calls ih =>
    rw [run_cons, ih, span?_after, accepted, List.filterMap_append, List.getLast?_append,
      Option.or_assoc]

theorem limit_after (s : Selector) (c : Call) : (s.after c).limit = c.limit?.getD s.limit := by
  rcases s.moves_or_stays c with ⟨-, hm⟩ | ⟨-, hs, _, hf⟩
  case inr =>
    rw [hs]
    cases hf
    case range hc | rangeAfterKeys _ hc => rw [Call.limit?_of_range? hc, Option.getD_none]
    case keysAfterRange => rfl
  case inl =>
    generalize s.after c = t at hm ⊢
    cases hm
    case range _ hc => rw [Call.limit?_of_range? hc, Option.getD_none]
    case stay hc => rw [hc, Option.getD_none]
    case keys | limit => rfl

theorem limit_run (s : Selector) (calls : List Call) :
    (s.run calls).limit = ((calls.filterMap Call.limit?).getLast?).getD s.limit := by
  induction calls generalizing s
  case nil => rfl
  case cons c calls ih =>
    rw [run_cons, ih, limit_after, List.filterMap_cons]
    cases c.limit?
    case none => rfl
    case some n => rw [List.getLast?_cons, Option.getD_some, Option.getD_some]

-- A selector as it is made, of the whole table or of keys.
def initial : Option (List RowKey) → Selector
  | none => {}
  | some keys => .ofKeys keys

theorem run_history (keys? : Option (List RowKey)) (calls : List Call) :
    let run := (initial keys?).run
    let s := run calls
    let ranges := ((initial keys?).accepted calls).filterMap Call.span?
    (∀ (c : Call) cause t, c.select.run s = .error cause t → t = s ∧ run (calls ++ [c]) = s) ∧
    (∀ (c : Call) cause, c.range? = some (.error cause) →
      c.select.run s = .error (.range cause) s) ∧
    (∀ more, s.rows = .all ∨ (run (calls ++ more)).rows.kind = s.rows.kind) ∧
    (∀ keys, s.rows = .keys keys →
      keys = keys?.getD [] ++ calls.flatMap Call.keys ∧
      ∀ (c : Call) span, c.range? = some (.ok span) →
        c.select.run s = .error .rangeAfterKeys s) ∧
    (∀ span, s.rows = .range span →
      ranges.getLast? = some span ∧ span ≠ ⟨.unbounded, .unbounded⟩ ∧
      ∀ keys, (addKeys keys).run s = .error .keysAfterRange s) ∧
    (∀ keys, (∀ span, s.rows ≠ .range span) → (run (calls ++ [.addKeys keys])).rows =
      .keys (keys?.getD [] ++ calls.flatMap Call.keys ++ keys)) ∧
    (∀ (c : Call) span, c.range? = some (.ok span) → (∀ keys, s.rows ≠ .keys keys) →
      (run (calls ++ [c])).rows = .range span) ∧
    s.limit = ((calls.filterMap Call.limit?).getLast?).getD 0 := by
  intro run s ranges
  have hlisted (h : ∀ span, s.rows ≠ .range span) :
      s.rows.listed = keys?.getD [] ++ calls.flatMap Call.keys := by
    have hi : (initial keys?).rows.listed = keys?.getD [] := by cases keys? <;> rfl
    exact hi ▸ listed_run h
  have hspan : s.rows.span? = ranges.getLast? := by
    have hi : (initial keys?).rows.span? = none := by cases keys? <;> rfl
    have hr := span?_run (initial keys?) calls
    rwa [hi, Option.or_none] at hr
  refine ⟨fun c cause t h => ?failed, fun c cause => Call.run_select_of_fault s,
    fun more => ?kind, fun keys h => ⟨?listed, fun c span hc => ?refused⟩,
    fun span h => ⟨?last, ?bounded, run_addKeys_of_range h⟩, fun keys h => ?keys,
    fun c span hc h => ?range, ?limit⟩
  case failed =>
    have hr : run (calls ++ [c]) = s.after c := run_concat ..
    exact ⟨eq_of_select_eq_error h, hr.trans (after_of_eq_error h)⟩
  case kind =>
    by_cases h : s.rows = .all
    case pos => exact .inl h
    case neg =>
      have hr : run (calls ++ more) = s.run more := run_append ..
      exact .inr (hr ▸ kind_run h more)
  case listed =>
    have hl := hlisted fun span => by simp [h]
    rwa [h] at hl
  case refused =>
    exact (Call.run_select_of_span s hc).trans (run_setSpan_of_keys h span)
  case last => rw [← hspan, h, RowSet.span?]
  case bounded =>
    have hm : span ∈ ranges := List.mem_of_getLast? (hspan ▸ RowSet.span?_eq_some_iff.mpr h)
    have ⟨c, _, hc⟩ := List.mem_filterMap.mp hm
    exact Call.ne_unbounded_of_range? (Call.span?_eq_some_iff.mp hc)
  case keys =>
    have hr : run (calls ++ [.addKeys keys]) = s.after (.addKeys keys) := run_concat ..
    have hs : (Call.addKeys keys).select.run s = _ := run_addKeys_of_ne_range h keys
    rw [hr, after_of_eq_ok hs, hlisted h]
  case range =>
    have hr : run (calls ++ [c]) = s.after c := run_concat ..
    have hs := (Call.run_select_of_span s hc).trans (run_setSpan_of_ne_keys h span)
    rw [hr, after_of_eq_ok hs]
  case limit =>
    have hi : (initial keys?).limit = 0 := by cases keys? <;> rfl
    exact hi ▸ limit_run (initial keys?) calls

-- No keys are keys, and a range that is refused is none.
theorem run_history_of_failures :
    let ranged : List Call := [.addKeyRange none none, .limitRows 3, .addKeyRange (some [1]) none,
      .addKeys [], .addRowRange { endClosed := some [] }, .addRowRange {}]
    let listed : List Call := [.addKeys [], .addKeyRange (some [1]) none, .addKeys [[2], [1]],
      .limitRows 3, .addKeyRange none none, .addKeys [[2]], .limitRows 0]
    (initial none).run ranged = ⟨.range ⟨.unbounded, .included []⟩, 3⟩ ∧
    (addKeys []).run ((initial none).run ranged) =
      .error .keysAfterRange ((initial none).run ranged) ∧
    (initial none).run (ranged ++ [.addKeys []]) = (initial none).run ranged ∧
    (initial (some [[2]])).run listed = ⟨.keys [[2], [2], [1], [2]], 0⟩ ∧
    (Call.addKeyRange none (some [])).select.run ((initial (some [[2]])).run listed) =
      .error .rangeAfterKeys ((initial (some [[2]])).run listed) ∧
    ∀ more, ((initial none).run (listed ++ more)).rows.kind = "keys" := by
  intro ranged listed
  have ⟨hfailed, _, _, _, hrange, _⟩ := run_history none ranged
  have hranged : (initial none).run ranged = ⟨.range ⟨.unbounded, .included []⟩, 3⟩ := rfl
  have ⟨_, _, hrefused⟩ := hrange _ (congrArg Selector.rows hranged)
  have hempty := hfailed (.addKeys []) _ _ (hrefused [])
  have ⟨_, _, _, hkeys, _⟩ := run_history (some [[2]]) listed
  have hlisted : (initial (some [[2]])).run listed = ⟨.keys [[2], [2], [1], [2]], 0⟩ := rfl
  have ⟨_, hrefused'⟩ := hkeys _ (congrArg Selector.rows hlisted)
  have ⟨_, _, hkind, _⟩ := run_history none listed
  exact ⟨hranged, hrefused [], hempty.right, hlisted, hrefused' _ _ rfl,
    fun more => (hkind more).resolve_left nofun⟩

end Selector
end WideTable
