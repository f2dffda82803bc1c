import WideTable.Proofs.Filter.Limit

namespace WideTable.Sieve

variable {limit seen : UInt32} {last : Option Entry} {e : Entry} {es : List Entry}
  {x : String × Qualifier}

-- One more, if that can be counted.
def increment? (seen : UInt32) : Option UInt32 :=
  if seen.toNat + 1 < UInt32.size then some (seen + 1) else none

-- The first entries of each run, as long as all entries of the run can be counted.
def firstOfRuns? (limit : UInt32) (column : Option (String × Qualifier)) (seen : UInt32) :
    List Entry → Option (List Entry)
  | [] => some []
  | e :: es => do
    let here := some (e.family, e.qualifier)
    let seen ← increment? (if column = here then seen else 0)
    let rest ← firstOfRuns? limit here seen es
    return if seen ≤ limit then e :: rest else rest

theorem increment?_eq_some (h : counted last seen e.column + 1 < UInt32.size) :
    increment? (if last.map Entry.column = some e.column then seen else 0) =
      some (count last seen e) := by
  rw [counted] at h
  rw [increment?, count]
  split at h
  case isTrue hl => rw [if_pos hl, if_pos h, if_pos hl]
  case isFalse hl =>
    rw [if_neg hl, if_neg hl]
    rfl

theorem firstOfRuns?_cons (limit seen : UInt32) (last : Option Entry) (e : Entry) (es : List Entry)
    (h : counted last seen e.column + 1 < UInt32.size) :
    firstOfRuns? limit (last.map Entry.column) seen (e :: es) =
      (firstOfRuns? limit ((some e).map Entry.column) (count last seen e) es).map fun rest =>
        if count last seen e ≤ limit then e :: rest else rest := by
  have hi : increment? (if last.map Entry.column = some (e.family, e.qualifier) then seen else 0) =
      some (count last seen e) := increment?_eq_some h
  rw [firstOfRuns?, hi]
  exact (Option.map_eq_bind ..).symm

-- With an entry one fewer is left to be counted.
theorem counted_count (h : counted last seen e.column + 1 < UInt32.size)
    (x : String × Qualifier) :
    counted (some e) (count last seen e) x + (es.filter (·.column = x)).length ≤
      counted last seen x + ((e :: es).filter (·.column = x)).length := by
  rw [counted, Option.map_some]
  by_cases hx : e.column = x
  case pos =>
    subst hx
    rw [if_pos rfl, toNat_count h, List.filter_cons_of_pos (by simp), List.length_cons]
    omega
  case neg =>
    rw [if_neg (by simpa using hx), List.filter_cons_of_neg (by simpa using hx)]
    omega

theorem firstOfRuns?_eq_some
    (h : ∀ x, counted last seen x + (es.filter (·.column = x)).length < UInt32.size) :
    firstOfRuns? limit (last.map Entry.column) seen es =
      some (firstOfRuns limit (last.map Entry.column) seen es) := by
  induction es generalizing last seen
  case nil => rfl
  case cons e es ih =>
    have he : counted last seen e.column + 1 < UInt32.size := by
      have he := h e.column
      rw [List.filter_cons_of_pos (by simp), List.length_cons] at he
      omega
    have hnext : ∀ x, counted (some e) (count last seen e) x + (es.filter (·.column = x)).length <
        UInt32.size := fun x => (counted_count he x).trans_lt (h x)
    rw [firstOfRuns?_cons limit seen last e es he, ih hnext, firstOfRuns_cons, Option.map_some]

theorem firstOfRuns?_cellsPerColumn (limit : UInt32) (key : RowKey)
    (h : ∀ x, (es.filter (·.column = x)).length < UInt32.size) :
    firstOfRuns? limit none 0 es = some (cellsPerColumn limit key es) := by
  have hc : ∀ x, counted none 0 x + (es.filter (·.column = x)).length < UInt32.size :=
    fun x => (Nat.zero_add _).trans_lt (h x)
  exact firstOfRuns?_eq_some hc

end WideTable.Sieve
