import WideTable.Proofs.Filter.Chain

namespace WideTable

namespace Sieve

def andThen (first second : Sieve) : Sieve :=
  fun key es => second key (first key es)

end Sieve

namespace Filter

-- The effect of filters one after the other.
def inTurn (fs : List Filter) : Except PatternError Sieve :=
  (compileAll fs).map Sieve.chain

theorem inTurn_cons (f : Filter) (fs : List Filter) :
    inTurn (f :: fs) = do return (← f.compile).andThen (← inTurn fs) := by
  rw [inTurn, inTurn, compileAll]
  cases f.compile
  case error => rfl
  case ok => cases compileAll fs <;> rfl

theorem inTurn_append (fs gs : List Filter) :
    inTurn (fs ++ gs) = do return (← inTurn fs).andThen (← inTurn gs) := by
  induction fs
  case nil =>
    rw [List.nil_append, inTurn, inTurn]
    cases compileAll gs <;> rfl
  case cons f fs ih =>
    rw [List.cons_append, inTurn_cons, inTurn_cons, ih]
    cases f.compile
    case error => rfl
    case ok =>
      cases inTurn fs
      case error => rfl
      case ok => cases inTurn gs <;> rfl

theorem inTurn_singleton (f : Filter) : inTurn [f] = f.compile := by
  rw [inTurn_cons]
  cases f.compile <;> rfl

theorem compile_chain_eq (fs : List Filter) : (chain fs).compile = inTurn fs := by
  rw [compile, inTurn]
  cases compileAll fs <;> rfl

mutual

-- From left to right.
def leaves : Filter → List Filter
  | chain filters => leavesOfAll filters
  | f => [f]

def leavesOfAll : List Filter → List Filter
  | [] => []
  | f :: fs => leaves f ++ leavesOfAll fs

end

theorem leavesOfAll_eq_flatMap (fs : List Filter) : leavesOfAll fs = fs.flatMap leaves := by
  induction fs with
  | nil => rfl
  | cons f fs ih => rw [leavesOfAll, ih, List.flatMap_cons]

mutual

-- Nothing but a chain has other leaves than itself.
theorem inTurn_leaves : (f : Filter) → inTurn f.leaves = f.compile
  | chain filters => by
    rw [leaves, inTurn_leavesOfAll filters, compile_chain_eq]
  | passAll | blockAll | regex .. | qualifierRange .. | valueRange .. | timestampRange ..
  | cellsPerColumn _ | cellsPerRow _ | cellsOffset _ | stripValue => inTurn_singleton _

theorem inTurn_leavesOfAll : (fs : List Filter) → inTurn (leavesOfAll fs) = inTurn fs
  | [] => rfl
  | f :: fs => by
    rw [leavesOfAll, inTurn_append, inTurn_leaves f, inTurn_leavesOfAll fs, inTurn_cons]

end

end Filter
end WideTable
