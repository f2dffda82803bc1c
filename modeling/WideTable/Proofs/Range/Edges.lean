import Mathlib
import WideTable.Range

namespace WideTable

namespace Bytes

-- A proper initial part comes before the whole. Otherwise the first byte that differs decides.
def Precedes (a b : Bytes) : Prop :=
  (∃ c rest, b = a ++ c :: rest) ∨
    ∃ common c d rest rest', a = common ++ c :: rest ∧ b = common ++ d :: rest' ∧ c < d

variable {a b : Bytes} {c d : UInt8}

theorem precedes_cons_iff : Precedes (c :: a) (d :: b) ↔ c < d ∨ c = d ∧ Precedes a b := by
  constructor
  case mp =>
    rintro (⟨x, rest, h⟩ | ⟨common, x, y, rest, rest', ha, hb, hxy⟩)
    · obtain ⟨rfl, rfl⟩ := List.cons.inj h
      exact .inr ⟨rfl, .inl ⟨x, rest, rfl⟩⟩
    · cases common
      case nil =>
        cases ha
        cases hb
        exact .inl hxy
      case cons z common =>
        obtain ⟨rfl, rfl⟩ := List.cons.inj ha
        obtain ⟨rfl, rfl⟩ := List.cons.inj hb
        exact .inr ⟨rfl, .inr ⟨common, x, y, rest, rest', rfl, rfl, hxy⟩⟩
  case mpr =>
    rintro (h | ⟨rfl, ⟨x, rest, rfl⟩ | ⟨common, x, y, rest, rest', rfl, rfl, hxy⟩⟩)
    · exact .inr ⟨[], c, d, a, b, rfl, rfl, h⟩
    · exact .inl ⟨x, rest, rfl⟩
    · exact .inr ⟨c :: common, x, y, rest, rest', rfl, rfl, hxy⟩

theorem precedes_iff_lt : Precedes a b ↔ a < b := by
  induction a generalizing b
  case nil => cases b <;> simp [Precedes]
  case cons c a ih =>
    cases b
    case nil => simp [Precedes]
    case cons d b => rw [precedes_cons_iff, List.cons_lt_cons_iff, ih]

instance : Decidable (Precedes a b) :=
  decidable_of_iff (a < b) precedes_iff_lt.symm

theorem eq_or_precedes_iff_le : a = b ∨ Precedes a b ↔ a ≤ b := by
  rw [precedes_iff_lt, List.le_iff_lt_or_eq, or_comm]

end Bytes

namespace Edge

open Bytes

-- The second byte string is on the inner side of the edge at the first one.
def Admits : Edge → Bytes → Bytes → Prop
  | startClosed, v, w => v = w ∨ Precedes v w
  | startOpen, v, w => Precedes v w
  | endClosed, v, w => w = v ∨ Precedes w v
  | endOpen, v, w => Precedes w v

instance : (e : Edge) → (v w : Bytes) → Decidable (e.Admits v w)
  | startClosed, v, w => inferInstanceAs (Decidable (v = w ∨ Precedes v w))
  | startOpen, v, w => inferInstanceAs (Decidable (Precedes v w))
  | endClosed, v, w => inferInstanceAs (Decidable (w = v ∨ Precedes w v))
  | endOpen, v, w => inferInstanceAs (Decidable (Precedes w v))

def IsStart : Edge → Prop
  | startClosed | startOpen => True
  | endClosed | endOpen => False

theorem forall_iff {p : Edge → Prop} :
    (∀ e, p e) ↔ p startClosed ∧ p startOpen ∧ p endClosed ∧ p endOpen where
  mp h := ⟨h _, h _, h _, h _⟩
  mpr := fun ⟨hsc, hso, hec, heo⟩ e => by cases e <;> assumption

end Edge

namespace Bound

def closed? : Bound → Option Bytes
  | included v => some v
  | _ => none

def opened? : Bound → Option Bytes
  | excluded v => some v
  | _ => none

end Bound

namespace RangeSpec

def ofSpan (s : Span) : RangeSpec where
  startClosed := s.lower.closed?
  startOpen := s.lower.opened?
  endClosed := s.upper.closed?
  endOpen := s.upper.opened?

theorem edge_eq_ok_iff {conflict : RangeError} {closed opened : Option Bytes} {b : Bound} :
    edge conflict closed opened = .ok b ↔ closed = b.closed? ∧ opened = b.opened? := by
  cases closed <;> cases opened <;> cases b <;> simp [edge, Bound.closed?, Bound.opened?]

-- Edges are taken as they are, in whatever order they stand.
theorem toSpan_eq_ok_iff {r : RangeSpec} {s : Span} :
    r.toSpan = .ok s ↔ r = ofSpan s ∧ s ≠ ⟨.unbounded, .unbounded⟩ := by
  obtain ⟨lower, upper⟩ := s
  have hr : r = ofSpan ⟨lower, upper⟩ ↔
      edge .startConflict r.startClosed r.startOpen = .ok lower ∧
        edge .endConflict r.endClosed r.endOpen = .ok upper := by
    cases r
    simp only [edge_eq_ok_iff, ofSpan, RangeSpec.mk.injEq, and_assoc]
  rw [hr, toSpan]
  cases edge .startConflict r.startClosed r.startOpen
  case error => exact iff_of_false nofun nofun
  case ok a =>
    cases edge .endConflict r.endClosed r.endOpen
    case error => exact iff_of_false nofun nofun
    case ok b =>
      by_cases h : a = .unbounded ∧ b = .unbounded
      case pos =>
        obtain ⟨rfl, rfl⟩ := h
        refine iff_of_false nofun ?_
        rintro ⟨⟨⟨⟩, ⟨⟩⟩, hn⟩
        exact hn rfl
      case neg =>
        simp only [bind, Except.bind, if_neg h, pure, Except.pure, Except.ok.injEq, Span.mk.injEq]
        grind

variable {r t : RangeSpec} {edges : List (Edge × Bytes)} {e : Edge}

-- The value that an edge is given, if it is given one.
def value? (r : RangeSpec) : Edge → Option Bytes
  | .startClosed => r.startClosed
  | .startOpen => r.startOpen
  | .endClosed => r.endClosed
  | .endOpen => r.endOpen

theorem ext_value? (h : ∀ e, r.value? e = t.value? e) : r = t := by
  cases r
  cases t
  exact RangeSpec.mk.injEq .. ▸ Edge.forall_iff.mp h

theorem value?_set (r : RangeSpec) (v : Bytes) (a b : Edge) :
    (r.set v a).value? b = if a = b then some v else r.value? b := by
  cases a <;> cases b <;> rfl

-- What an edge was given last.
def lastValue (edges : List (Edge × Bytes)) (e : Edge) : Option Bytes :=
  (edges.reverse.find? (·.1 = e)).map (·.2)

theorem lastValue_concat (edges : List (Edge × Bytes)) (x : Edge × Bytes) (e : Edge) :
    lastValue (edges ++ [x]) e = if x.1 = e then some x.2 else lastValue edges e := by
  rw [lastValue, List.reverse_append, List.reverse_singleton, List.singleton_append, List.find?_cons]
  split <;> simp_all [lastValue]

theorem lastValue_isSome_iff : (lastValue edges e).isSome ↔ ∃ v, (e, v) ∈ edges := by
  simp [lastValue]

theorem value?_ofEdges (edges : List (Edge × Bytes)) (e : Edge) :
    (ofEdges edges).value? e = lastValue edges e := by
  induction edges using List.reverseRecOn
  case nil => cases e <;> rfl
  case append_singleton edges x ih =>
    have hx : ofEdges (edges ++ [x]) = (ofEdges edges).set x.2 x.1 := by simp [ofEdges]
    rw [hx, value?_set, lastValue_concat, ih]

-- What is wrong with a specification, if anything is.
def fault? (r : RangeSpec) : Option RangeError :=
  if r.startClosed.isSome ∧ r.startOpen.isSome then some .startConflict
  else if r.endClosed.isSome ∧ r.endOpen.isSome then some .endConflict
  else if r = {} then some .noBound
  else none

theorem toSpan_of_fault? (r : RangeSpec) :
    match r.fault? with
    | some cause => r.toSpan = .error cause
    | none => ∃ s, r.toSpan = .ok s := by
  obtain ⟨_ | _, _ | _, _ | _, _ | _⟩ := r <;> first | rfl | exact ⟨_, rfl⟩

theorem toSpan_eq_error_iff {cause : RangeError} :
    r.toSpan = .error cause ↔ r.fault? = some cause := by
  have h := r.toSpan_of_fault?
  cases hf : r.fault? <;> simp only [hf] at h
  case none =>
    obtain ⟨s, hs⟩ := h
    simp [hs]
  case some => simp [h]

theorem exists_toSpan_eq_ok_iff : (∃ s, r.toSpan = .ok s) ↔ r.fault? = none := by
  have h := r.toSpan_of_fault?
  cases hf : r.fault? <;> simp only [hf] at h
  case none => exact iff_of_true h rfl
  case some => simp [h]

-- The byte string is on the inner side of all edges.
def Admits (r : RangeSpec) (w : Bytes) : Prop :=
  ∀ e, ∀ v ∈ r.value? e, e.Admits v w

instance (r : RangeSpec) (w : Bytes) : Decidable (r.Admits w) :=
  decidable_of_iff _ (Edge.forall_iff (p := fun e => ∀ v ∈ r.value? e, e.Admits v w)).symm

theorem contains_iff_admits {s : Span} (h : r.toSpan = .ok s) (w : Bytes) :
    s.contains w = true ↔ r.Admits w := by
  obtain ⟨rfl, _⟩ := toSpan_eq_ok_iff.mp h
  obtain ⟨lower, upper⟩ := s
  have ha : (ofSpan ⟨lower, upper⟩).Admits w ↔
      (∀ v ∈ lower.closed?, v ≤ w) ∧ (∀ v ∈ lower.opened?, v < w) ∧
        (∀ v ∈ upper.closed?, w ≤ v) ∧ ∀ v ∈ upper.opened?, w < v := by
    simp only [Admits, Edge.forall_iff, value?, ofSpan, Edge.Admits, Bytes.eq_or_precedes_iff_le]
    simp only [Bytes.precedes_iff_lt]
  rw [ha, Span.contains, Bool.and_eq_true]
  cases lower <;> cases upper <;>
    simp [Bound.admitsFrom, Bound.admitsUpTo, Bound.closed?, Bound.opened?]

end RangeSpec

end WideTable
