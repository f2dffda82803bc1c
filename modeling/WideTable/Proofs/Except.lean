import Mathlib

namespace Except

variable {ε δ α β : Type} {e : ε}

@[simp]
theorem pure_eq_ok (a : α) : (pure a : Except ε α) = .ok a :=
  rfl

@[simp]
theorem throw_eq_error (e : ε) : (throw e : Except ε α) = .error e :=
  rfl

theorem bind_eq_ok_iff {x : Except ε α} {f : α → Except ε β} {b : β} :
    x >>= f = .ok b ↔ ∃ a, x = .ok a ∧ f a = .ok b := by
  cases x <;> simp [bind, Except.bind]

theorem bind_eq_error_iff {x : Except ε α} {f : α → Except ε β} :
    x >>= f = .error e ↔ x = .error e ∨ ∃ a, x = .ok a ∧ f a = .error e := by
  cases x <;> simp [bind, Except.bind]

theorem then_eq_ok_iff {x : Except ε Unit} {y : Except ε β} {b : β} :
    (x >>= fun _ => y) = .ok b ↔ x = .ok () ∧ y = .ok b := by
  cases x <;> simp [bind, Except.bind]

theorem then_eq_error_iff {x : Except ε Unit} {y : Except ε β} :
    (x >>= fun _ => y) = .error e ↔ x = .error e ∨ x = .ok () ∧ y = .error e := by
  cases x <;> simp [bind, Except.bind]

theorem mapError_eq_ok_iff {x : Except ε α} {f : ε → δ} {a : α} :
    x.mapError f = .ok a ↔ x = .ok a := by
  cases x <;> simp [Except.mapError]

theorem mapError_eq_error_iff {x : Except ε α} {f : ε → δ} {d : δ} :
    x.mapError f = .error d ↔ ∃ e, x = .error e ∧ f e = d := by
  cases x <;> simp [Except.mapError]

theorem discard_eq_ok_iff {x : Except ε α} : discard x = .ok () ↔ ∃ a, x = .ok a := by
  cases x <;> simp [discard, Functor.discard, Functor.mapConst, Except.map]

theorem mapM_eq_ok_iff {f : α → Except ε β} {as : List α} {bs : List β} :
    as.mapM f = .ok bs ↔ List.Forall₂ (fun b a => f a = .ok b) bs as := by
  induction as generalizing bs
  case nil => cases bs <;> simp
  case cons a as ih =>
    simp only [List.mapM_cons, bind_eq_ok_iff, ih]
    cases bs <;> simp

theorem forM_eq_ok_iff {f : α → Except ε Unit} {as : List α} :
    forM as f = .ok () ↔ ∀ a ∈ as, f a = .ok () := by
  induction as
  case nil => simp
  case cons a as ih =>
    rw [List.forM_cons, then_eq_ok_iff, ih]
    simp

-- Of the items that fail the one before all others decides.
theorem forM_eq_error_iff {f : α → Except ε Unit} {r : α → α → Prop} {as : List α}
    (hs : as.Pairwise r) (ha : ∀ a b, r a b → ¬r b a) :
    forM as f = .error e ↔ ∃ a ∈ as, f a = .error e ∧ ∀ b ∈ as, r b a → f b = .ok () := by
  induction as
  case nil => simp
  case cons a as ih =>
    have ⟨hr, hs⟩ := List.pairwise_cons.mp hs
    have hn : ¬r a a := fun h => ha a a h h
    rw [List.forM_cons, then_eq_error_iff, ih hs]
    constructor
    case mp =>
      rintro (h | ⟨h, b, hb, he, ho⟩)
      · refine ⟨a, .head _, h, fun b hb hba => ?_⟩
        cases hb
        case head => contradiction
        case tail hb => exact absurd hba (ha a b (hr b hb))
      · refine ⟨b, .tail _ hb, he, fun c hc hcb => ?_⟩
        cases hc
        case head => exact h
        case tail hc => exact ho c hc hcb
    case mpr =>
      rintro ⟨b, hb, he, ho⟩
      cases hb
      case head => exact .inl he
      case tail hb =>
        exact .inr ⟨ho a (.head _) (hr b hb), b, hb, he, fun c hc => ho c (.tail _ hc)⟩

end Except
