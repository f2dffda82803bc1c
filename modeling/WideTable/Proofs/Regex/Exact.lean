import WideTable.Proofs.Regex.Search

namespace WideTable

theorem Atom.width?_byte_single {b : UInt8} {before after : Bytes} :
    (Atom.byte (.single b.toNat)).width? before after =
      if after.head? = some b then some 1 else none := by
  have hc (c : UInt8) : (Text.CodeSet.single b.toNat).contains c.toNat = true ↔ c = b := by
    rw [Text.CodeSet.single, Text.CodeSet.contains_range, ← UInt8.toNat_inj]
    simp only [Bool.and_eq_true, decide_eq_true_eq]
    omega
  cases after
  case nil => rfl
  case cons c after => simp [width?, hc]

namespace Regex

variable {w : Bytes} {r : Regex} {rs : List Regex} {i j : Nat}

theorem spans_oneOf : Spans w (oneOf rs) i j ↔ ∃ r ∈ rs, Spans w r i j := by
  induction rs
  case nil => simp [oneOf, never, Spans, Atom.width?]
  case cons r rs ih =>
    have hc : Spans w (oneOf (r :: rs)) i j ↔ Spans w r i j ∨ Spans w (oneOf rs) i j := .rfl
    rw [hc, ih]
    simp

theorem spans_bytes_singleton {b : UInt8} :
    Spans w (bytes [b]) i j ↔ (w.drop i).head? = some b ∧ j = i + 1 := by
  simp only [bytes, sequence, List.map_cons, List.map_nil, List.foldr_cons, List.foldr_nil, Spans,
    Atom.width?_byte_single]
  by_cases h : (w.drop i).head? = some b
  case pos => simp [-List.head?_drop, h, @eq_comm _ j]
  case neg => simp [-List.head?_drop, h]

-- Matches exactly these bytes, put together byte by byte.
def spelled (l : Bytes) : Regex :=
  .sequence (l.map fun b => .bytes [b])

theorem spans_spelled {l : Bytes} :
    Spans w (spelled l) i j ↔ l <+: w.drop i ∧ j = i + l.length := by
  -- Each byte moves the place where the rest has to begin.
  induction l generalizing i
  case nil => simp [spelled, sequence, Spans, eq_comm]
  case cons b l ih =>
    have hs : Spans w (spelled (b :: l)) i j ↔
        ∃ k, Spans w (bytes [b]) i k ∧ Spans w (spelled l) k j := .rfl
    have hd : w.drop (i + 1) = (w.drop i).tail := List.tail_drop.symm
    simp only [hs, spans_bytes_singleton, ih, and_assoc, exists_and_left, exists_eq_left, hd]
    cases w.drop i
    case nil => simp
    case cons c after =>
      simp [List.cons_prefix_cons, and_assoc, eq_comm, Nat.add_comm, Nat.add_left_comm]

-- What is searched for when a whole word has to match.
def anchored (r : Regex) : Regex :=
  .oneOf [.sequence [.empty, .atom (.look .textStart), r, .atom (.look .textStop)]]

theorem spans_textStart (hi : i ≤ w.length) :
    Spans w (.atom (.look .textStart)) i j ↔ i = 0 ∧ j = 0 := by
  have hs : (w.take i).reverse.isEmpty = decide (i = 0) := by
    cases w <;> cases i <;> simp_all
  by_cases h : i = 0 <;> simp [Spans, Atom.width?, Look.holds, hs, h]

theorem spans_textStop (hi : i ≤ w.length) :
    Spans w (.atom (.look .textStop)) i j ↔ i = w.length ∧ j = w.length := by
  have hs : (w.drop i).isEmpty = decide (i = w.length) := by
    rw [Bool.eq_iff_iff, List.isEmpty_iff, List.drop_eq_nil_iff, decide_eq_true_iff]
    omega
  by_cases h : i = w.length <;> simp [Spans, Atom.width?, Look.holds, hs, h]

-- The anchors leave only the whole word to match.
theorem occurs_anchored : Occurs w (anchored r) ↔ Spans w r 0 w.length := by
  have ha {i j : Nat} : Spans w (anchored r) i j ↔ ∃ k, Spans w (.atom (.look .textStart)) i k ∧
      ∃ l, Spans w r k l ∧ Spans w (.atom (.look .textStop)) l j := by
    simp [anchored, spans_oneOf, sequence, Spans]
  constructor
  case mp =>
    rintro ⟨i, j, hi, hij⟩
    obtain ⟨k, hk, l, hr, hl⟩ := ha.mp hij
    obtain ⟨_, rfl⟩ := (spans_textStart hi).mp hk
    obtain ⟨hl, _⟩ := (spans_textStop (hr.le_length (Nat.zero_le _))).mp hl
    exact hl ▸ hr
  case mpr =>
    intro hr
    have hstart := (spans_textStart (w := w) (Nat.zero_le _)).mpr ⟨rfl, rfl⟩
    have hstop := (spans_textStop (w := w) (Nat.le_refl _)).mpr ⟨rfl, rfl⟩
    exact ⟨0, w.length, Nat.zero_le _, ha.mpr ⟨0, hstart, w.length, hr, hstop⟩⟩

-- Matches whole words that are one of these.
def exactly (ls : List Bytes) : Regex :=
  anchored (.oneOf (ls.map spelled))

theorem occurs_exactly {ls : List Bytes} : Occurs w (exactly ls) ↔ w ∈ ls := by
  have hs {l : Bytes} : l <+: w ∧ w.length = l.length ↔ l = w := by
    constructor
    case mp => exact fun ⟨hp, hl⟩ => hp.eq_of_length hl.symm
    case mpr =>
      rintro rfl
      exact ⟨List.prefix_rfl, rfl⟩
  rw [exactly, occurs_anchored, spans_oneOf]
  simp only [List.mem_map, exists_exists_and_eq_and, spans_spelled, List.drop_zero, Nat.zero_add,
    hs, exists_eq_right]

section Proper

-- Nothing is repeated in what spells out byte strings.
theorem proper_sequence (h : ∀ r ∈ rs, r.Proper) : (sequence rs).Proper := by
  induction rs
  case nil => trivial
  case cons r rs ih => exact ⟨h r (.head _), ih fun r hr => h r (.tail _ hr)⟩

theorem proper_oneOf (h : ∀ r ∈ rs, r.Proper) : (oneOf rs).Proper := by
  induction rs
  case nil => trivial
  case cons r rs ih => exact ⟨h r (.head _), ih fun r hr => h r (.tail _ hr)⟩

theorem proper_spelled (l : Bytes) : (spelled l).Proper := by
  refine proper_sequence fun r hr => ?_
  have ⟨b, _, hb⟩ := List.mem_map.mp hr
  exact hb ▸ ⟨trivial, trivial⟩

theorem proper_anchored (h : r.Proper) : (anchored r).Proper :=
  ⟨⟨trivial, trivial, h, trivial, trivial⟩, trivial⟩

theorem proper_exactly (ls : List Bytes) : (exactly ls).Proper := by
  refine proper_anchored (proper_oneOf fun r hr => ?_)
  have ⟨l, _, hl⟩ := List.mem_map.mp hr
  exact hl ▸ proper_spelled l

end Proper

theorem occursIn_anchored (h : r.Proper) :
    (anchored r).occursIn w = true ↔ Spans w r 0 w.length :=
  (occursIn_iff w (proper_anchored h)).trans occurs_anchored

theorem occursIn_exactly {ls : List Bytes} : (exactly ls).occursIn w = true ↔ w ∈ ls :=
  (occursIn_iff w (proper_exactly ls)).trans occurs_exactly

end Regex
end WideTable
