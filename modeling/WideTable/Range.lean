import WideTable.Bytes

namespace WideTable

inductive Bound
  | unbounded
  | included (v : Bytes)
  | excluded (v : Bytes)
  deriving DecidableEq, Repr

namespace Bound

def admitsFrom : Bound → Bytes → Bool
  | unbounded, _ => true
  | included b, v => b ≤ v
  | excluded b, v => b < v

def admitsUpTo : Bound → Bytes → Bool
  | unbounded, _ => true
  | included b, v => v ≤ b
  | excluded b, v => v < b

end Bound

structure Span where
  lower : Bound
  upper : Bound
  deriving DecidableEq, Repr

namespace Span

def contains (s : Span) (v : Bytes) : Bool :=
  s.lower.admitsFrom v && s.upper.admitsUpTo v

def isVoid : Span → Bool
  | ⟨.included a, .included b⟩ => b < a
  | ⟨.included a, .excluded b⟩ => b ≤ a
  | ⟨.excluded a, .included b⟩ => b ≤ a
  | ⟨.excluded a, .excluded b⟩ => b ≤ a
  | _ => false

-- An ordered collection can be searched between these edges: they do not cross, and they do not both
-- leave out one and the same value.
def Searchable : Span → Prop
  | ⟨.included a, .included b⟩ => a ≤ b
  | ⟨.included a, .excluded b⟩ => a ≤ b
  | ⟨.excluded a, .included b⟩ => a ≤ b
  | ⟨.excluded a, .excluded b⟩ => a < b
  | _ => True

theorem searchable_of_not_isVoid {s : Span} (h : s.isVoid = false) : s.Searchable := by
  obtain ⟨lower, upper⟩ := s
  cases lower <;> cases upper <;> simp_all [isVoid, Searchable] <;> exact List.le_of_lt ‹_›

end Span

inductive RangeError
  | startConflict
  | endConflict
  | noBound
  | noRowBound
  | noTimestampBound
  | timestampOrder
  | unrangedField
  deriving DecidableEq, Repr

namespace RangeError

def reason : RangeError → String
  | startConflict => "start edge is both open and closed"
  | endConflict => "end edge is both open and closed"
  | noBound => "range requires at least one bound"
  | noRowBound => "row range requires at least one bound"
  | noTimestampBound => "timestamp range requires at least one bound"
  | timestampOrder => "timestamp range start must precede its end"
  | unrangedField => "range filters apply to qualifiers and values only"

def message (e : RangeError) : String :=
  "Invalid range: " ++ e.reason

end RangeError

inductive Edge
  | startClosed
  | startOpen
  | endClosed
  | endOpen
  deriving DecidableEq, Repr

-- Each edge may be open, closed or absent, but not both open and closed, and one of the two has to be
-- there.
structure RangeSpec where
  startClosed : Option Bytes := none
  startOpen   : Option Bytes := none
  endClosed   : Option Bytes := none
  endOpen     : Option Bytes := none
  deriving DecidableEq, Repr

namespace RangeSpec

-- A later value for an edge replaces an earlier one of the same kind.
def set (r : RangeSpec) (v : Bytes) : Edge → RangeSpec
  | .startClosed => { r with startClosed := some v }
  | .startOpen => { r with startOpen := some v }
  | .endClosed => { r with endClosed := some v }
  | .endOpen => { r with endOpen := some v }

def ofEdges (edges : List (Edge × Bytes)) : RangeSpec :=
  edges.foldl (fun r e => r.set e.2 e.1) {}

theorem set_comm (r : RangeSpec) (v w : Bytes) {a b : Edge} (h : a ≠ b) :
    (r.set v a).set w b = (r.set w b).set v a := by
  cases a <;> cases b <;> first | rfl | contradiction

def edge (conflict : RangeError) : Option Bytes → Option Bytes → Except RangeError Bound
  | some _, some _ => .error conflict
  | some closed, none => .ok (.included closed)
  | none, some opened => .ok (.excluded opened)
  | none, none => .ok .unbounded

-- A conflict at the start is reported before one at the end, and both before a missing bound.
def toSpan (r : RangeSpec) : Except RangeError Span := do
  let lower ← edge .startConflict r.startClosed r.startOpen
  let upper ← edge .endConflict r.endClosed r.endOpen
  if lower = .unbounded ∧ upper = .unbounded then
    throw .noBound
  return ⟨lower, upper⟩

end RangeSpec
end WideTable
