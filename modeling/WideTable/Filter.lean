import WideTable.Range
import WideTable.Regex.Escape

namespace WideTable

inductive Field
  | rowKey
  | family
  | qualifier
  | value
  deriving DecidableEq, Repr

-- A chain is applied from left to right. The order is part of the meaning, so nothing here reorders or
-- merges filters.
inductive Filter
  | passAll
  | blockAll
  | regex (field : Field) (pattern : Bytes)
  -- A range of qualifiers, inside one family if one is named.
  | qualifierRange (family : Option String) (span : Span)
  | valueRange (span : Span)
  -- The start belongs to the range, the end does not.
  | timestampRange (start stop : Option Int64)
  | cellsPerColumn (limit : UInt32)
  | cellsPerRow (limit : UInt32)
  | cellsOffset (count : UInt32)
  | stripValue
  | chain (filters : List Filter)
  deriving Repr

namespace Filter

def matching (field : Field) (pattern : String) : Filter :=
  regex field (Bytes.ofText pattern)

def exact (field : Field) (literal : Bytes) : Filter :=
  matching field (Pattern.ofLiteral literal)

-- An empty list of literals lets nothing through.
def exactAny (field : Field) (literals : List Bytes) : Filter :=
  match Pattern.ofLiterals? literals with
  | some pattern => matching field pattern
  | none => blockAll

@[simp]
theorem exactAny_nil (field : Field) : exactAny field [] = blockAll :=
  rfl

@[simp]
theorem exactAny_singleton (field : Field) (l : Bytes) : exactAny field [l] = exact field l :=
  rfl

def qualifiersIn (family : Option String) (spec : RangeSpec) : Except RangeError Filter :=
  spec.toSpan.map (qualifierRange family)

def valuesIn (spec : RangeSpec) : Except RangeError Filter :=
  spec.toSpan.map valueRange

-- Row keys are ranged when rows are selected, and families have no range at all.
def range (field : Field) (spec : RangeSpec) : Except RangeError Filter :=
  match field with
  | .qualifier => qualifiersIn none spec
  | .value => valuesIn spec
  | .rowKey | .family => throw .unrangedField

def writtenBetween (start stop : Option Int64) : Except RangeError Filter :=
  match start, stop with
  | none, none => throw .noTimestampBound
  | some s, some e => if s ≥ e then throw .timestampOrder else return timestampRange start stop
  | _, _ => return timestampRange start stop

-- The one filter that does what the listed ones do in turn.
def collapse? : List Filter → Option Filter
  | [] => none
  | [f] => some f
  | fs => some (chain fs)

def count : Option Filter → Nat
  | none => 0
  | some (chain fs) => fs.length
  | some _ => 1

end Filter
end WideTable
