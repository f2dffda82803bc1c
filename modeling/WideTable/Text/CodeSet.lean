import WideTable.Text.Hex

namespace WideTable.Text

namespace CodeSet

-- Whether `n` is a member if the codes below the first edge are members iff `inside`.
def spans : (inside : Bool) → (edges : List Nat) → (n : Nat) → Bool
  | inside, [], _ => inside
  | inside, e :: es, n => if n < e then inside else spans (!inside) es n

theorem spans_of_lt {n : Nat} {es : List Nat} (h : ∀ e ∈ es, n < e) (inside : Bool) :
    spans inside es n = inside := by
  cases es with
  | nil => rfl
  | cons e es => simp [spans, h e List.mem_cons_self]

def edge (e : Nat) (before after : Bool) (es : List Nat) : List Nat :=
  if before = after then es else e :: es

-- The edges of what `op` makes of two sets, beside which `a` and `b` hold below the first edges.
def sweep (op : Bool → Bool → Bool) (a b : Bool) : (xs ys : List Nat) → List Nat
  | [], ys => if op a false = op a true then [] else ys
  | x :: xs, [] => if op false b = op true b then [] else x :: xs
  | x :: xs, y :: ys =>
    if x < y then edge x (op a b) (op (!a) b) (sweep op (!a) b xs (y :: ys))
    else if y < x then edge y (op a b) (op a (!b)) (sweep op a (!b) (x :: xs) ys)
    else edge x (op a b) (op (!a) (!b)) (sweep op (!a) (!b) xs ys)
  termination_by xs ys => xs.length + ys.length

theorem mem_of_mem_edge {e z : Nat} {b c : Bool} {es : List Nat} (h : z ∈ edge e b c es) :
    z = e ∨ z ∈ es := by
  unfold edge at h
  split at h
  · exact .inr h
  · exact List.mem_cons.1 h

theorem mem_of_mem_sweep {op : Bool → Bool → Bool} {a b : Bool} {xs ys : List Nat} {z : Nat}
    (h : z ∈ sweep op a b xs ys) : z ∈ xs ∨ z ∈ ys := by
  fun_induction sweep op a b xs ys with
  | case1 => simp at h
  | case2 => exact .inr h
  | case3 => simp at h
  | case4 => exact .inl h
  | case5 _ _ _ _ _ _ _ ih => grind [mem_of_mem_edge]
  | case6 _ _ _ _ _ _ _ _ ih => grind [mem_of_mem_edge]
  | case7 _ _ _ _ _ _ _ _ ih => grind [mem_of_mem_edge]

theorem pairwise_edge {e : Nat} {es : List Nat} (b c : Bool) (h : ∀ z ∈ es, e < z)
    (hes : es.Pairwise (· < ·)) : (edge e b c es).Pairwise (· < ·) := by
  unfold edge
  split
  · exact hes
  · exact List.pairwise_cons.2 ⟨h, hes⟩

theorem pairwise_sweep (op : Bool → Bool → Bool) (a b : Bool) {xs ys : List Nat}
    (hx : xs.Pairwise (· < ·)) (hy : ys.Pairwise (· < ·)) :
    (sweep op a b xs ys).Pairwise (· < ·) := by
  fun_induction sweep op a b xs ys with
  | case1 => exact .nil
  | case2 => exact hy
  | case3 => exact .nil
  | case4 => exact hx
  | case5 _ _ x xs y ys h ih =>
    have hx' := List.pairwise_cons.1 hx
    refine pairwise_edge _ _ (fun z hz => ?_) (ih hx'.2 hy)
    have := List.pairwise_cons.1 hy
    grind [mem_of_mem_sweep hz]
  | case6 _ _ x xs y ys _ h ih =>
    have hy' := List.pairwise_cons.1 hy
    refine pairwise_edge _ _ (fun z hz => ?_) (ih hx hy'.2)
    have := List.pairwise_cons.1 hx
    grind [mem_of_mem_sweep hz]
  | case7 _ _ x xs y ys _ _ ih =>
    have hx' := List.pairwise_cons.1 hx
    have hy' := List.pairwise_cons.1 hy
    refine pairwise_edge _ _ (fun z hz => ?_) (ih hx'.2 hy'.2)
    grind [mem_of_mem_sweep hz]

theorem spans_edge {e n : Nat} {es : List Nat} {b c : Bool} (h : e ≤ n) :
    spans b (edge e b c es) n = spans c es n := by
  unfold edge
  split
  · simp [*]
  · have : (!b) = c := by cases b <;> cases c <;> simp_all
    simp [spans, Nat.not_lt.2 h, this]

end CodeSet

-- A set is the ascending list of its edges, where runs of members start and end. Two sets are combined in
-- one sweep over the edges of both.
structure CodeSet where
  edges     : List Nat
  ascending : edges.Pairwise (· < ·)
  deriving DecidableEq

namespace CodeSet

def contains (s : CodeSet) (n : Nat) : Bool :=
  spans false s.edges n

instance : EmptyCollection CodeSet :=
  ⟨⟨[], .nil⟩⟩

def isEmpty (s : CodeSet) : Bool :=
  s.edges.isEmpty

def ranges (s : CodeSet) : List (Nat × Nat) :=
  between s.edges
where
  between : List Nat → List (Nat × Nat)
    | low :: stop :: es => (low, stop - 1) :: between es
    | _ => []

theorem pairwise_pair {a b : Nat} (h : a < b) : [a, b].Pairwise (· < ·) := by
  simp [h]

def range (low high : Nat) : CodeSet :=
  if h : low ≤ high then ⟨[low, high + 1], pairwise_pair (Nat.lt_succ_of_le h)⟩ else ∅

def single (n : Nat) : CodeSet :=
  range n n

def combine (op : Bool → Bool → Bool) (s t : CodeSet) : CodeSet where
  edges := sweep op false false s.edges t.edges
  ascending := pairwise_sweep op false false s.ascending t.ascending

instance : Union CodeSet :=
  ⟨combine (· || ·)⟩

instance : Inter CodeSet :=
  ⟨combine (· && ·)⟩

instance : SDiff CodeSet :=
  ⟨combine (· && !·)⟩

theorem spans_map {f : Bool → Bool} (h : f false ≠ f true) (b : Bool) (es : List Nat) (n : Nat) :
    spans (f b) es n = f (spans b es n) := by
  have flip (b : Bool) : (!f b) = f (!b) := by
    cases b <;> cases hf : f false <;> cases ht : f true <;> simp_all
  induction es generalizing b with
  | nil => rfl
  | cons e es ih =>
    unfold spans
    split
    · rfl
    · rw [flip, ih]

theorem spans_sweep (op : Bool → Bool → Bool) (a b : Bool) (n : Nat) {xs ys : List Nat}
    (hx : xs.Pairwise (· < ·)) (hy : ys.Pairwise (· < ·)) :
    spans (op a b) (sweep op a b xs ys) n = op (spans a xs n) (spans b ys n) := by
  fun_induction sweep op a b xs ys with
  | case1 a b ys h => cases b <;> cases hb : spans _ ys n <;> simp_all [spans]
  | case2 a b ys h => simpa [spans] using spans_map (f := op a) h b ys n
  | case3 a b x xs h => cases a <;> cases ha : spans _ (x :: xs) n <;> simp_all [spans]
  | case4 a b x xs h => simpa [spans] using spans_map (f := (op · b)) h a (x :: xs) n
  | case5 a b x xs y ys h ih =>
    have hx' := List.pairwise_cons.1 hx
    have hy' := List.pairwise_cons.1 hy
    by_cases hn : n < x
    · have above : ∀ z ∈ edge x (op a b) (op (!a) b) (sweep op (!a) b xs (y :: ys)), n < z := by
        intro z hz
        rcases mem_of_mem_edge hz with rfl | hz
        · exact hn
        · grind [mem_of_mem_sweep hz]
      simp [spans_of_lt above, spans, hn, Nat.lt_trans hn h]
    · rw [spans_edge (Nat.not_lt.1 hn), ih hx'.2 hy]
      simp [spans, hn]
  | case6 a b x xs y ys _ h ih =>
    have hx' := List.pairwise_cons.1 hx
    have hy' := List.pairwise_cons.1 hy
    by_cases hn : n < y
    · have above : ∀ z ∈ edge y (op a b) (op a (!b)) (sweep op a (!b) (x :: xs) ys), n < z := by
        intro z hz
        rcases mem_of_mem_edge hz with rfl | hz
        · exact hn
        · grind [mem_of_mem_sweep hz]
      simp [spans_of_lt above, spans, hn, Nat.lt_trans hn h]
    · rw [spans_edge (Nat.not_lt.1 hn), ih hx hy'.2]
      simp [spans, hn]
  | case7 a b x xs y ys h h' ih =>
    have hx' := List.pairwise_cons.1 hx
    have hy' := List.pairwise_cons.1 hy
    obtain rfl : x = y := by omega
    by_cases hn : n < x
    · have above : ∀ z ∈ edge x (op a b) (op (!a) (!b)) (sweep op (!a) (!b) xs ys), n < z := by
        intro z hz
        rcases mem_of_mem_edge hz with rfl | hz
        · exact hn
        · grind [mem_of_mem_sweep hz]
      simp [spans_of_lt above, spans, hn]
    · rw [spans_edge (Nat.not_lt.1 hn), ih hx'.2 hy'.2]
      simp [spans, hn]

theorem contains_combine {op : Bool → Bool → Bool} (h : op false false = false) (s t : CodeSet)
    (n : Nat) : (combine op s t).contains n = op (s.contains n) (t.contains n) := by
  have := spans_sweep op false false n s.ascending t.ascending
  rwa [h] at this

@[simp]
theorem contains_empty (n : Nat) : (∅ : CodeSet).contains n = false :=
  rfl

@[simp]
theorem contains_range (low high n : Nat) :
    (range low high).contains n = (low ≤ n && n ≤ high : Bool) := by
  unfold range
  split
  · simp only [contains, spans]
    grind
  · simp; omega

@[simp]
theorem contains_union (s t : CodeSet) (n : Nat) :
    (s ∪ t).contains n = (s.contains n || t.contains n) :=
  contains_combine rfl s t n

@[simp]
theorem contains_inter (s t : CodeSet) (n : Nat) :
    (s ∩ t).contains n = (s.contains n && t.contains n) :=
  contains_combine rfl s t n

@[simp]
theorem contains_sdiff (s t : CodeSet) (n : Nat) :
    (s \ t).contains n = (s.contains n && !t.contains n) :=
  contains_combine rfl s t n

def unions (sets : List CodeSet) : CodeSet :=
  sets.foldr (· ∪ ·) ∅

theorem contains_unions (sets : List CodeSet) (n : Nat) :
    (unions sets).contains n = sets.any (·.contains n) := by
  induction sets with
  | nil => rfl
  | cons s sets ih => simp_all [unions]

def ofRanges (ranges : List (Nat × Nat)) : CodeSet :=
  unions (ranges.map fun (low, high) => range low high)

def ofCodes (codes : List Nat) : CodeSet :=
  unions (codes.map single)

-- Reads items that are set apart by blanks: a code, `41-5a` for a range, and `41/5b` for every second
-- code from the first to the last.
def ofLines (lines : List String) : CodeSet :=
  unions <| lines.flatMap fun line => (line.splitOn " ").filterMap item?
where
  ends? : List String → Option (Nat × Nat)
    | [a, b] => do return (← Hex.number? a.toList, ← Hex.number? b.toList)
    | _ => none
  item? (item : String) : Option CodeSet :=
    match ends? (item.splitOn "-"), ends? (item.splitOn "/") with
    | some (a, b), _ => some (range a b)
    | none, some (a, b) => some (ofCodes ((List.range ((b - a) / 2 + 1)).map (a + 2 * ·)))
    | none, none => (Hex.number? item.toList).map single

end CodeSet

def scalars : CodeSet :=
  .ofRanges [(0, 0xd7ff), (0xe000, 0x10ffff)]

def octets : CodeSet :=
  .range 0 0xff

end WideTable.Text
