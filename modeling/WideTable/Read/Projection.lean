import WideTable.Row

namespace WideTable

inductive Level
  | row
  | family
  | column
  | cell
  deriving DecidableEq, Repr

namespace Level

abbrev Content : Level → Type
  | row => Row
  | family => Family
  | column => Column
  | cell => Cell

-- Cells have no children, and stay among themselves.
def inner : Level → Level
  | row => family
  | family => column
  | column => cell
  | cell => cell

def children : (l : Level) → l.Content → List l.inner.Content
  | row, r => r.families
  | family, f => f.columns
  | column, c => c.cells
  | cell, _ => []

def cells : (l : Level) → l.Content → List Cell
  | row, r => r.cells
  | family, f => f.cells
  | column, c => c.cells
  | cell, c => [c]

end Level

inductive Cardinality
  | one
  | many
  deriving DecidableEq, Repr

inductive Shape
  | optional (l : Level)
  | list (l : Level)
  deriving DecidableEq, Repr

namespace Shape

abbrev Value : Shape → Type
  | optional l => Option l.Content
  | list l => List l.Content

def cells : (s : Shape) → s.Value → List Cell
  | optional l, v => v.elim [] l.cells
  | list l, v => v.flatMap l.cells

def narrow (c : Cardinality) : Shape → Shape
  | optional l =>
    match c with
    | .one => optional l.inner
    | .many => list l.inner
  | list l => list l

-- One child of what is there, or all of them; a list is left as it is.
def narrowValue : (c : Cardinality) → (s : Shape) → s.Value → (s.narrow c).Value
  | .one, optional l, v => v.bind fun parent => (l.children parent).head?
  | .many, optional l, v => v.elim [] l.children
  | .one, list _, v => v
  | .many, list _, v => v

def flatten : Shape → Shape
  | optional l => optional l
  | list l => list l.inner

def flattenValue : (s : Shape) → s.Value → s.flatten.Value
  | optional _, v => v
  | list l, v => v.flatMap l.children

def isNested : Shape → Bool
  | optional _ => false
  | list .cell => false
  | list _ => true

end Shape

inductive Tier
  | family
  | column
  | cell
  deriving DecidableEq, Repr

-- Once a read covers a list, narrowing keeps the list, so that every child stays with the row, family or
-- column it came from; flattening drops one such level.
inductive State
  | rows (c : Cardinality)
  | narrow (t : Tier) (c : Cardinality) (parent : State)
  | flatten (parent : State)
  deriving DecidableEq, Repr

inductive Step
  | identity
  | first
  | children
  | flatten
  deriving DecidableEq, Repr

namespace State

def shape : State → Shape
  | rows .one => .optional .row
  | rows .many => .list .row
  | narrow _ c parent => parent.shape.narrow c
  | flatten parent => parent.shape.flatten

abbrev Output (s : State) : Type :=
  s.shape.Value

def project : (s : State) → List Row → s.Output
  | rows .one, rs => rs.head?
  | rows .many, rs => rs
  | narrow _ c parent, rs => parent.shape.narrowValue c (parent.project rs)
  | flatten parent, rs => parent.shape.flattenValue (parent.project rs)

def narrowingStep (c : Cardinality) : Shape → Step
  | .optional _ =>
    match c with
    | .one => .first
    | .many => .children
  | .list _ => .identity

def steps : State → List Step
  | rows .one => [.first]
  | rows .many => [.identity]
  | narrow _ c parent => parent.steps ++ [narrowingStep c parent.shape]
  | flatten parent => parent.steps ++ [.flatten]

end State

structure Answer where
  shape : Shape
  value : shape.Value

namespace Step

def apply : Step → Answer → Answer
  | identity, a => a
  | first, ⟨.list l, v⟩ => ⟨.optional l, v.head?⟩
  | first, ⟨.optional l, v⟩ => ⟨.optional l.inner, v.bind fun parent => (l.children parent).head?⟩
  | children, ⟨.optional l, v⟩ => ⟨.list l.inner, v.elim [] l.children⟩
  | children, ⟨.list l, v⟩ => ⟨.list l.inner, v.flatMap l.children⟩
  | flatten, ⟨.list l, v⟩ => ⟨.list l.inner, v.flatMap l.children⟩
  | flatten, ⟨.optional l, v⟩ => ⟨.optional l, v⟩

def applyAll (steps : List Step) (rows : List Row) : Answer :=
  steps.foldl (fun a step => step.apply a) ⟨.list .row, rows⟩

end Step
end WideTable
