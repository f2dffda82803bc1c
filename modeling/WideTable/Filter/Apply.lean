import WideTable.Filter
import WideTable.Row.Entries
import WideTable.Regex.Footprint
import WideTable.Regex.Pattern

namespace WideTable

inductive PatternError
  | notText
  | refused (pattern : String)
  deriving DecidableEq, Repr

def PatternError.headline : PatternError → String
  | notText => "Regex is not valid UTF-8"
  | refused pattern => "Invalid regex " ++ Text.quote pattern ++ ": "

-- Patterns that grow too large are refused too.
def Pattern.compile (pattern : Bytes) : Except PatternError Regex :=
  match Bytes.text? pattern with
  | none => throw .notText
  | some text =>
    match wholeRegex? text with
    | none => throw (.refused text)
    | some r => if r.fits then return r else throw (.refused text)

-- The effect of a filter on the entries of the row with a given key.
abbrev Sieve := RowKey → List Entry → List Entry

namespace Sieve

def keep (p : Entry → Bool) : Sieve :=
  fun _ es => es.filter p

def keepRow (p : RowKey → Bool) : Sieve :=
  fun key es => if p key then es else []

def matching (r : Regex) : Field → Sieve
  | .rowKey => keepRow r.occursIn
  | .family => keep fun e => r.occursIn (Bytes.ofText e.family)
  | .qualifier => keep fun e => r.occursIn e.qualifier
  | .value => keep fun e => r.occursIn e.cell.value

def qualifierRange (family : Option String) (span : Span) : Sieve :=
  keep fun e => family.all (· = e.family) && span.contains e.qualifier

def valueRange (span : Span) : Sieve :=
  keep fun e => span.contains e.cell.value

def timestampRange (start stop : Option Int64) : Sieve :=
  keep fun e => start.all (· ≤ e.cell.timestamp) && stop.all (e.cell.timestamp < ·)

-- Keeps the first entries of each run of entries of one column.
def firstOfRuns (limit : UInt32) (column : Option (String × Qualifier)) (seen : UInt32) :
    List Entry → List Entry
  | [] => []
  | e :: es =>
    let here := some (e.family, e.qualifier)
    let seen := if column = here then seen + 1 else 1
    if seen ≤ limit then e :: firstOfRuns limit here seen es else firstOfRuns limit here seen es

def cellsPerColumn (limit : UInt32) : Sieve :=
  fun _ => firstOfRuns limit none 0

def cellsPerRow (limit : UInt32) : Sieve :=
  fun _ => List.take limit.toNat

def cellsOffset (count : UInt32) : Sieve :=
  fun _ => List.drop count.toNat

def stripValue : Sieve :=
  fun _ => List.map fun e => { e with cell := { e.cell with value := [] } }

def chain (sieves : List Sieve) : Sieve :=
  fun key es => sieves.foldl (fun es sieve => sieve key es) es

end Sieve

namespace Filter

mutual

-- All patterns of a filter are read before any cell is looked at. So whether a filter is refused depends
-- on the filter alone, and the first bad pattern from the left decides how.
def compile : Filter → Except PatternError Sieve
  | passAll => return fun _ es => es
  | blockAll => return fun _ _ => []
  | regex field pattern => do return Sieve.matching (← Pattern.compile pattern) field
  | qualifierRange family span => return Sieve.qualifierRange family span
  | valueRange span => return Sieve.valueRange span
  | timestampRange start stop => return Sieve.timestampRange start stop
  | cellsPerColumn limit => return Sieve.cellsPerColumn limit
  | cellsPerRow limit => return Sieve.cellsPerRow limit
  | cellsOffset count => return Sieve.cellsOffset count
  | stripValue => return Sieve.stripValue
  | chain filters => do return Sieve.chain (← compileAll filters)

def compileAll : List Filter → Except PatternError (List Sieve)
  | [] => return []
  | f :: fs => do
    let sieve ← compile f
    return sieve :: (← compileAll fs)

end

def compileOptional : Option Filter → Except PatternError Sieve
  | none => return fun _ es => es
  | some f => f.compile

end Filter
end WideTable
