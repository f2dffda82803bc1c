import WideTable.Proofs.Read.Calls

namespace WideTable

theorem toList_head? {α : Type} {l : List α} (h : l.length ≤ 1) : l.head?.toList = l := by
  rcases l with _ | ⟨a, _ | ⟨b, l⟩⟩
  case nil | cons.nil => rfl
  case cons.cons => simp at h

theorem Level.cells_eq {l : Level} (hl : l ≠ .cell) (x : l.Content) :
    l.cells x = (l.children x).flatMap l.inner.cells := by
  cases l
  case cell => contradiction
  case column => exact (List.flatMap_singleton' _).symm
  all_goals rfl

namespace Shape

theorem cells_optional {l : Level} (v : Option l.Content) :
    (optional l).cells v = v.toList.flatMap l.cells := by
  cases v <;> simp [cells]

-- How many parts there are to choose from.
def choices : (s : Shape) → s.Value → Nat
  | optional l, v => v.elim 0 fun parent => (l.children parent).length
  | list _, _ => 0

theorem choices_le_one {l : Level} {v : Option l.Content}
    (h : ∀ x ∈ v, (l.children x).length ≤ 1) : (optional l).choices v ≤ 1 := by
  cases v
  case none => exact Nat.zero_le 1
  case some x => exact h x rfl

theorem cells_narrowValue {s : Shape} (hs : s ≠ .optional .cell) {c : Cardinality} {v : s.Value}
    (h : c = .one → s.choices v ≤ 1) : (s.narrow c).cells (s.narrowValue c v) = s.cells v := by
  cases s
  case list => cases c <;> rfl
  case optional l =>
    have hl : l ≠ .cell := fun hl => hs (hl ▸ rfl)
    cases v
    case none => cases c <;> rfl
    case some x =>
      have hx : (optional l).cells (some x) = (l.children x).flatMap l.inner.cells := l.cells_eq hl x
      cases c
      case many => exact hx.symm
      case one =>
        have hv : (optional l).narrowValue .one (some x) = (l.children x).head? := rfl
        rw [hx, hv]
        exact (cells_optional _).trans (by rw [toList_head? (h rfl)])

theorem cells_flattenValue {s : Shape} (hs : s.isNested = true) (v : s.Value) :
    s.flatten.cells (s.flattenValue v) = s.cells v := by
  cases s
  case optional => cases hs
  case list l =>
    have hl : l ≠ .cell := by
      rintro rfl
      cases hs
    have hv : (list l).flatten.cells ((list l).flattenValue v) =
        (v.flatMap l.children).flatMap l.inner.cells := rfl
    rw [hv, List.flatMap_assoc]
    exact List.flatMap_congr fun x _ => (l.cells_eq hl x).symm

end Shape

namespace State

-- No step to one part has a second one to leave behind.
-- Narrowing to one part takes the first and leaves the others behind, so all cells come through only if
-- there are no others.
def Exhausts : State → List Row → Prop
  | rows c, rs => c = .one → rs.length ≤ 1
  | narrow _ c parent, rs =>
    parent.Exhausts rs ∧ (c = .one → parent.shape.choices (parent.project rs) ≤ 1)
  | flatten parent, rs => parent.Exhausts rs

variable {s p : State} {rs : List Row}

theorem Typed.parent {t : Tier} {c : Cardinality} (h : (narrow t c p).Typed) :
    p.Typed ∧ p.shape ≠ .optional .cell := by
  cases h
  case family d => exact ⟨.rows d, by cases d <;> nofun⟩
  case column c d => exact ⟨.family c d, by cases c <;> cases d <;> nofun⟩
  case cell b c d => exact ⟨.column b c d, by cases b <;> cases c <;> cases d <;> nofun⟩

theorem Exhausts.cells_project (hs : s.Typed) (h : s.Exhausts rs) :
    s.shape.cells (s.project rs) = rs.flatMap Row.cells := by
  induction s
  case rows c =>
    cases c
    case many => rfl
    case one =>
      refine (Shape.cells_optional (l := .row) rs.head?).trans ?_
      rw [toList_head? (h rfl)]
      rfl
  case narrow t c p ih =>
    have ⟨hp, hl⟩ := hs.parent
    exact (Shape.cells_narrowValue hl h.right).trans (ih hp h.left)
  case flatten p ih =>
    cases hs
    case flatten hp hn => exact (Shape.cells_flattenValue hn _).trans (ih hp h)

-- Where a read is of one part, there is no second one in the rows.
structure Fits (s : State) (rs : List Row) : Prop where
  row    : s.base = .one → rs.length ≤ 1
  family : s.narrowsTo .family → ∀ r ∈ rs, r.families.length ≤ 1
  column : s.narrowsTo .column → ∀ r ∈ rs, ∀ f ∈ r.families, f.columns.length ≤ 1
  cell   : s.narrowsTo .cell → ∀ r ∈ rs, ∀ f ∈ r.families, ∀ c ∈ f.columns, c.cells.length ≤ 1

theorem Fits.parent {t : Tier} {c : Cardinality} (h : (narrow t c p).Fits rs) : p.Fits rs where
  row    := h.row
  family := fun hp => h.family (.inr hp)
  column := fun hp => h.column (.inr hp)
  cell   := fun hp => h.cell (.inr hp)

theorem exists_row_of_family {f : Family}
    (h : rs.head?.bind (·.families.head?) = some f) : ∃ r ∈ rs, f ∈ r.families := by
  have ⟨r, hr, hf⟩ := Option.bind_eq_some_iff.mp h
  exact ⟨r, List.mem_of_mem_head? hr, List.mem_of_mem_head? hf⟩

theorem Fits.exhausts (hs : s.Typed) (h : s.Fits rs) : s.Exhausts rs := by
  induction s
  case rows => exact h.row
  case flatten p ih =>
    cases hs
    case flatten hp _ => exact ih hp ⟨h.row, h.family, h.column, h.cell⟩
  case narrow t c p ih =>
    refine ⟨ih hs.parent.left h.parent, ?_⟩
    rintro rfl
    cases hs
    case family d =>
      cases d
      case many => exact Nat.zero_le 1
      case one =>
        exact Shape.choices_le_one fun r hr => h.family (.inl ⟨rfl, rfl⟩) r (List.mem_of_mem_head? hr)
    case column c d =>
      cases d <;> cases c
      case one.one =>
        refine Shape.choices_le_one fun f hf => ?_
        have ⟨r, hr, hf⟩ := exists_row_of_family hf
        exact h.column (.inl ⟨rfl, rfl⟩) r hr f hf
      all_goals exact Nat.zero_le 1
    case cell b c d =>
      cases d <;> cases c <;> cases b
      case one.one.one =>
        refine Shape.choices_le_one fun q hq => ?_
        have ⟨f, hf, hq⟩ := Option.bind_eq_some_iff.mp hq
        have ⟨r, hr, hf⟩ := exists_row_of_family hf
        exact h.cell (.inl ⟨rfl, rfl⟩) r hr f hf q (List.mem_of_mem_head? hq)
      all_goals exact Nat.zero_le 1

end State
end WideTable
