import WideTable.Proofs.Read.Exhaustion
import WideTable.Proofs.Read.Order

namespace WideTable

namespace Step

theorem applyAll_concat (steps : List Step) (step : Step) (rows : List Row) :
    applyAll (steps ++ [step]) rows = step.apply (applyAll steps rows) :=
  List.foldl_append

-- What a step is made for. Only the very first one can be given the list that an answer is and take
-- the first of it; later on, parts are taken from a single parent.
def Takes (before : List Step) : Step → Shape → Prop
  | identity, .list _ => True
  | first, .list _ => before = []
  | first, .optional l | children, .optional l => l ≠ .cell
  | flatten, .list l => l ≠ .cell
  | _, _ => False

-- The level that the steps lead to from the rows. Each step goes one level down, unless it leaves
-- all as it is or is the very first one.
def level (steps : List Step) : Level :=
  Level.inner^[steps.tail.countP (· ≠ identity)] .row

theorem level_concat {steps : List Step} (h : steps ≠ []) (step : Step) :
    level (steps ++ [step]) = if step = identity then level steps else (level steps).inner := by
  rw [level, level, List.tail_append_of_ne_nil h, List.countP_append]
  by_cases hs : step = identity
  case pos => simp [hs]
  case neg => simp [hs, Function.iterate_succ_apply']

-- Each of the steps is given what it is made for.
def AllTaken (steps : List Step) (rows : List Row) : Prop :=
  ∀ before step after, steps = before ++ step :: after →
    Takes before step (applyAll before rows).shape

variable {steps : List Step} {step : Step} {rows : List Row}

theorem AllTaken.nil : AllTaken [] rows := by
  intro before step after h
  simp at h

theorem AllTaken.concat (h : AllTaken steps rows)
    (hs : step.Takes steps (applyAll steps rows).shape) : AllTaken (steps ++ [step]) rows := by
  intro before last after he
  rcases List.eq_nil_or_concat after with rfl | ⟨rest, x, rfl⟩
  case inl =>
    obtain ⟨rfl, hl⟩ := List.append_inj' he rfl
    cases hl
    exact hs
  case inr =>
    rw [List.concat_eq_append, ← List.cons_append, ← List.append_assoc] at he
    exact h before last rest (List.append_inj_left' he rfl)

end Step

namespace Shape

variable {s : Shape} {l : Level}

def level : Shape → Level
  | optional l => l
  | list l => l

theorem apply_narrowingStep (c : Cardinality) (s : Shape) (v : s.Value) :
    (State.narrowingStep c s).apply ⟨s, v⟩ = ⟨s.narrow c, s.narrowValue c v⟩ := by
  cases s <;> cases c <;> rfl

theorem apply_flatten (s : Shape) (v : s.Value) :
    Step.flatten.apply ⟨s, v⟩ = ⟨s.flatten, s.flattenValue v⟩ := by
  cases s <;> rfl

theorem takes_narrowingStep (hs : s ≠ .optional .cell) (c : Cardinality) (before : List Step) :
    (State.narrowingStep c s).Takes before s := by
  cases s
  case list => trivial
  case optional l =>
    have hl : l ≠ .cell := fun hl => hs (hl ▸ rfl)
    cases c <;> exact hl

theorem takes_flatten (hs : s.isNested = true) (before : List Step) :
    Step.flatten.Takes before s := by
  cases s
  case optional => cases hs
  case list l =>
    rintro rfl
    cases hs

theorem level_narrow (c : Cardinality) (s : Shape) :
    (s.narrow c).level =
      if State.narrowingStep c s = .identity then s.level else s.level.inner := by
  cases s <;> cases c <;> rfl

end Shape

-- However far many rows are narrowed, they stay as they are.
theorem Descent.project_many (d : Descent) (rows : List Row) :
    (⟨(d.state .many).shape, (d.state .many).project rows⟩ : Answer) = ⟨.list .row, rows⟩ := by
  cases d
  case rows => rfl
  case family f =>
    rw [state]
    cases f.cardinality <;> rfl
  case column f q bounds =>
    rw [state]
    cases f.cardinality <;> cases q.cardinality <;> rfl
  case cell f q bounds v conditions =>
    rw [state]
    cases f.cardinality <;> cases q.cardinality <;> cases v.cardinality <;> rfl

namespace State

variable {s t : State} {k : Call.Kind} {l : Level} {calls : List Call}

theorem steps_ne_nil (s : State) : s.steps ≠ [] := by
  cases s
  case rows c => cases c <;> nofun
  all_goals simp [steps]

theorem applyAll_steps (s : State) (rows : List Row) :
    Step.applyAll s.steps rows = ⟨s.shape, s.project rows⟩ := by
  induction s
  case rows c => cases c <;> rfl
  case narrow t c p ih =>
    rw [steps, Step.applyAll_concat, ih]
    exact p.shape.apply_narrowingStep c _
  case flatten p ih =>
    rw [steps, Step.applyAll_concat, ih]
    exact p.shape.apply_flatten _

theorem Typed.level_steps (h : s.Typed) : s.shape.level = Step.level s.steps := by
  induction s
  case rows c => cases c <;> rfl
  case narrow t c p ih =>
    rw [steps, Step.level_concat p.steps_ne_nil, ← ih h.parent.left]
    exact p.shape.level_narrow c
  case flatten p ih =>
    cases h
    case flatten hp hn =>
      rw [steps, Step.level_concat p.steps_ne_nil, ← ih hp, shape]
      cases hs : p.shape
      case optional => rw [hs] at hn; cases hn
      case list => rfl

theorem Typed.allTaken (h : s.Typed) (rows : List Row) : Step.AllTaken s.steps rows := by
  induction s
  case rows c =>
    cases c
    case one =>
      have hf : Step.Takes [] .first (.list .row) := rfl
      exact Step.AllTaken.nil.concat hf
    case many =>
      have hi : Step.Takes [] .identity (.list .row) := trivial
      exact Step.AllTaken.nil.concat hi
  case narrow t c p ih =>
    have ⟨hp, hs⟩ := h.parent
    refine (ih hp).concat ?_
    rw [p.applyAll_steps]
    exact p.shape.takes_narrowingStep hs c _
  case flatten p ih =>
    cases h
    case flatten hp hn =>
      refine (ih hp).concat ?_
      rw [p.applyAll_steps]
      exact p.shape.takes_flatten hn _

theorem Next.list (h : Next s k t) (hs : s.shape = .list l) : ∃ l', t.shape = .list l' := by
  cases h
  case selectRows | boundColumns | filterCells => exact ⟨l, hs⟩
  case flatten => exact ⟨l.inner, congrArg Shape.flatten hs⟩
  case oneFamily | oneColumn | latestCell => exact ⟨l, congrArg (Shape.narrow .one) hs⟩
  case manyFamilies | manyColumns | allCells => exact ⟨l, congrArg (Shape.narrow .many) hs⟩

theorem list_of_run? (h : s.run? calls = some t) (hs : s.shape = .list l) :
    ∃ l', t.shape = .list l' := by
  induction calls using List.reverseRecOn generalizing t
  case nil =>
    cases h
    exact ⟨l, hs⟩
  case append_singleton calls c ih =>
    have ⟨u, hu, hc⟩ := run?_concat_eq_some.mp h
    have ⟨l', hl⟩ := ih hu
    exact (Next.of_eq_some hc).list hl

theorem typed_of_run? {e : Start} (h : e.state.run? calls = some s) : s.Typed := by
  induction calls using List.reverseRecOn generalizing s
  case nil =>
    cases h
    cases e <;> constructor
  case append_singleton calls c ih =>
    have ⟨u, hu, hc⟩ := run?_concat_eq_some.mp h
    exact (Next.of_eq_some hc).typed (ih hu)

theorem project_of_no_flatten (h : (rows .many).run? calls = some s) (hf : .flatten ∉ calls)
    (rs : List Row) : (⟨s.shape, s.project rs⟩ : Answer) = ⟨.list .row, rs⟩ := by
  obtain ⟨⟨rows, descent, n⟩, _, rfl, rfl⟩ := Stages.exists_of_run? h
  have hn : n = 0 := by
    by_contra hn
    exact hf (List.mem_append_right _ (List.mem_replicate.mpr ⟨hn, rfl⟩))
  subst hn
  exact descent.project_many rs

end State

namespace Read

theorem project_stepwise {e : Start} {calls : List Call} {s : State}
    (h : e.state.run? calls = some s) (rows : List Row) :
    Step.applyAll s.steps rows = ⟨s.shape, s.project rows⟩ ∧
    Step.AllTaken s.steps rows ∧
    (e.state = .rows .many → .flatten ∉ calls →
      (⟨s.shape, s.project rows⟩ : Answer) = ⟨.list .row, rows⟩) ∧
    (∀ l, s.shape = .list l → ∀ more t, s.run? more = some t → ∃ l', t.shape = .list l') ∧
    s.shape.level = Step.level s.steps := by
  have hs := State.typed_of_run? h
  refine ⟨s.applyAll_steps rows, hs.allTaken rows, fun he hf => ?_,
    fun _ hl _ _ ht => State.list_of_run? ht hl, hs.level_steps⟩
  exact State.project_of_no_flatten (he ▸ h) hf rows

-- Of two rows the first is taken, and none of its parts is left out, however they are arranged.
theorem project_stepwise_of_two_rows :
    let calls : List Call := [.families, .columns, .flatten, .flatten]
    let s : State :=
      .flatten (.flatten (.narrow .column .many (.narrow .family .many (.rows .one))))
    let rows : List Row := [
      ⟨[2], [⟨"g", []⟩, ⟨"f", [⟨[7], []⟩, ⟨[7], [⟨1, [8], []⟩, ⟨5, [9], []⟩]⟩]⟩, ⟨"g", []⟩]⟩,
      ⟨[1], []⟩]
    (Start.row [1]).state.run? calls = some s ∧
    s.steps = [.first, .children, .identity, .flatten, .flatten] ∧
    Step.applyAll s.steps rows = ⟨.list .cell, [⟨1, [8], []⟩, ⟨5, [9], []⟩]⟩ := by
  intro calls s rows
  have hs : (Start.row [1]).state.run? calls = some s := rfl
  exact ⟨hs, rfl, (project_stepwise hs rows).left⟩

end Read
end WideTable
