import WideTable.Range

namespace WideTable

inductive RowSet
  | all
  -- In the order given. A key that is listed twice is still one row.
  | keys (keys : List RowKey)
  | range (span : Span)
  deriving DecidableEq, Repr

namespace RowSet

def kind : RowSet → String
  | all => "all"
  | keys _ => "keys"
  | range _ => "range"

-- A list of keys that is empty selects no row, which is not the same as no selection.
def isEmptyKeys : RowSet → Bool
  | keys [] => true
  | _ => false

end RowSet

inductive SelectionError
  | keysAfterRange
  | rangeAfterKeys
  | range (cause : RangeError)
  deriving DecidableEq, Repr

namespace SelectionError

def message : SelectionError → String
  | keysAfterRange =>
    "Invalid row selector: cannot add row keys to a selector that already has a key range"
  | rangeAfterKeys =>
    "Invalid row selector: cannot add a key range to a selector that already has row keys"
  | range cause => cause.message

end SelectionError

-- A selection starts with the whole table. It can turn into a list of keys or into one range of keys, and
-- stays what it then is.
structure Selector where
  rows  : RowSet := .all
  -- The most rows to return, all of them for zero.
  limit : Nat := 0
  deriving DecidableEq, Repr

namespace Selector

def ofKeys (keys : List RowKey) : Selector where
  rows := .keys keys

-- What was changed before a failure stays changed.
abbrev Change :=
  EStateM SelectionError Selector Unit

def addKeys (keys : List RowKey) : Change := do
  match (← get).rows with
  | .range _ => throw .keysAfterRange
  | .keys present => modify ({ · with rows := .keys (present ++ keys) })
  | .all => modify ({ · with rows := .keys keys })

theorem run_addKeys (s : Selector) (keys : List RowKey) :
    (addKeys keys).run s =
      match s.rows with
      | .range _ => .error .keysAfterRange s
      | .keys present => .ok () { s with rows := .keys (present ++ keys) }
      | .all => .ok () { s with rows := .keys keys } := by
  obtain ⟨rows, _⟩ := s
  cases rows <;> rfl

def setSpan (span : Span) : Change := do
  if let .keys _ := (← get).rows then throw .rangeAfterKeys
  modify ({ · with rows := .range span })

theorem run_setSpan (s : Selector) (span : Span) :
    (setSpan span).run s =
      match s.rows with
      | .keys _ => .error .rangeAfterKeys s
      | _ => .ok () { s with rows := .range span } := by
  obtain ⟨rows, _⟩ := s
  cases rows <;> rfl

-- From `start` up to but not including `stop`. One of the two has to be there.
def addKeyRange : (start stop : Option RowKey) → Change
  | none, none => throw (.range .noRowBound)
  | some k, none => setSpan ⟨.included k, .unbounded⟩
  | none, some k => setSpan ⟨.unbounded, .excluded k⟩
  | some k, some l => setSpan ⟨.included k, .excluded l⟩

def addRowRange (spec : RangeSpec) : Change :=
  match spec.toSpan with
  | .ok span => setSpan span
  | .error cause => throw (.range cause)

theorem run_addRowRange (s : Selector) (spec : RangeSpec) :
    (addRowRange spec).run s =
      match spec.toSpan with
      | .ok span => (setSpan span).run s
      | .error cause => .error (.range cause) s := by
  rw [addRowRange]
  cases spec.toSpan <;> rfl

def limitRows (s : Selector) (n : Nat) : Selector :=
  { s with limit := n }

end Selector
end WideTable
