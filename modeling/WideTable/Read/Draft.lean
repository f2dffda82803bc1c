import WideTable.Config
import WideTable.Read.Call
import WideTable.TableName

namespace WideTable

structure Draft where
  table    : TableName
  profile  : Option String := none
  selector : Selector := {}
  -- In the order of the calls.
  filters  : List Filter := []
  -- The one family that was asked for by name.
  family   : Option String := none
  deriving Repr

namespace Draft

def request (d : Draft) : Request :=
  .ofSelector d.table.fullName d.profile d.selector d.filters

def push (d : Draft) (f : Filter) : Draft :=
  { d with filters := d.filters ++ [f] }

def select (d : Draft) (change : Selector.Change) : Except ReadError Draft :=
  match change.run d.selector with
  | .ok _ selector => return { d with selector }
  | .error cause _ => throw (.selection cause)

def pushRange (d : Draft) (f : Except RangeError Filter) : Except ReadError Draft :=
  match f with
  | .ok f => return d.push f
  | .error cause => throw (.range cause)

def edgeSpan (v : Bytes) : Edge → Span
  | .startClosed => ⟨.included v, .unbounded⟩
  | .startOpen => ⟨.excluded v, .unbounded⟩
  | .endClosed => ⟨.unbounded, .included v⟩
  | .endOpen => ⟨.unbounded, .excluded v⟩

def perform (d : Draft) : Call → Except ReadError Draft
  | .addKeys keys => d.select (Selector.addKeys keys)
  | .addKeyRange start stop => d.select (Selector.addKeyRange start stop)
  | .addRowRange spec => d.select (Selector.addRowRange spec)
  | .limitRows n => return { d with selector := d.selector.limitRows n }
  | .keyRegex pattern => return d.push (.matching .rowKey pattern)
  | .family name =>
    return { d.push (.exact .family (Bytes.ofText name)) with family := some name }
  | .families => return d
  | .familyRegex pattern => return d.push (.matching .family pattern)
  | .familiesNamed names => return d.push (.exactAny .family (names.map Bytes.ofText))
  | .column qualifier => return d.push (.exact .qualifier qualifier)
  | .columns => return d
  | .columnRegex pattern => return d.push (.matching .qualifier pattern)
  | .columnsNamed qualifiers => return d.push (.exactAny .qualifier qualifiers)
  | .qualifierEdge edge qualifier =>
    return d.push (.qualifierRange d.family (edgeSpan qualifier edge))
  | .qualifierRange spec => d.pushRange (Filter.qualifiersIn d.family spec)
  | .latestCell => return d.push (.cellsPerColumn 1)
  | .cells => return d
  | .limitCells n => return if n = 0 then d else d.push (.cellsPerColumn n)
  | .timestampRange start stop => d.pushRange (Filter.writtenBetween start stop)
  | .startTimestamp start => return d.push (.timestampRange (some start) none)
  | .endTimestamp stop => return d.push (.timestampRange none (some stop))
  | .valueRegex pattern => return d.push (.matching .value pattern)
  | .valueRange spec => d.pushRange (Filter.valuesIn spec)
  | .flatten => return d

end Draft
end WideTable
