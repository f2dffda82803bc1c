import WideTable.Read.Draft

namespace WideTable

-- The state of a read fixes which calls it has and what its execution returns.
structure Read (s : State) where
  draft : Draft

inductive Start
  | row (key : RowKey)
  | rows
  -- No more rows are returned than keys are given. Without keys, that is none.
  | rowsWithKeys (keys : List RowKey)
  deriving DecidableEq, Repr

namespace Start

def state : Start → State
  | row _ => .rows .one
  | rows => .rows .many
  | rowsWithKeys _ => .rows .many

def selector : Start → Selector
  | row key => (Selector.ofKeys [key]).limitRows 1
  | rows => {}
  | rowsWithKeys keys => (Selector.ofKeys keys).limitRows keys.length

end Start

namespace Read

variable {s t : State}

def start (table : TableName) (profile : Option String) (e : Start) : Read e.state where
  draft := { table, profile, selector := e.selector }

def call (r : Read s) (c : Call) (_ : s.next? c = some t) : Except ReadError (Read t) := do
  return ⟨← r.draft.perform c⟩

def request (r : Read s) : Request :=
  r.draft.request

def projection (_ : Read s) : List Step :=
  s.steps

-- A read whose keys are given and are none is answered without the adapter.
def execute {σ : Type} (a : Adapter σ) (r : Read s) (st : σ) : Except ReadError s.Output × σ :=
  if r.request.rows.isEmptyKeys then (.ok (s.project []), st)
  else
    match a.readRows r.request st with
    | (.ok rows, st) => (.ok (s.project rows), st)
    | (.error cause, st) => (.error (.execution r.request cause), st)

end Read

structure AnyRead where
  state : State
  read  : Read state

namespace AnyRead

def call? (r : AnyRead) (c : Call) : Option (Except ReadError AnyRead) :=
  match h : r.state.next? c with
  | some t => some ((r.read.call c h).map (⟨t, ·⟩))
  | none => none

end AnyRead

structure Client (σ : Type) where
  config  : Config
  adapter : Adapter σ

def Client.read {σ : Type} (c : Client σ) (tableId : String) (e : Start) :
    Except ReadError (Read e.state) := do
  let table ← TableName.ofId c.config.projectId c.config.instanceId tableId
  return .start table c.config.profile e

end WideTable
