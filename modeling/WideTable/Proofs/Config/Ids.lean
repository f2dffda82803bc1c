import WideTable.Config
import WideTable.Proofs.Except

namespace WideTable

-- What can be one part of a path.
structure IsPart (id : String) : Prop where
  filled : id ≠ ""
  whole  : ∀ c ∈ id.toList, c ≠ '/' ∧ Text.isBlank c = false

-- What keeps an id from being one.
def IdError.Spoils (id : String) : IdError → Prop
  | empty => id = ""
  | separated => ∃ c ∈ id.toList, c = '/' ∨ Text.isBlank c = true

variable {id : String}

theorem isPart_iff : IsPart id ↔ ∀ e : IdError, ¬e.Spoils id where
  mp h
    | .empty, he => h.filled he
    | .separated, ⟨c, hc, he⟩ => by simp [h.whole c hc] at he
  mpr h := by
    refine ⟨h .empty, fun c hc => ?_⟩
    have hs := h .separated
    simp only [IdError.Spoils, not_exists, not_and, not_or] at hs
    simpa using hs c hc

theorem checkId_eq_error_iff {e : IdError} : checkId id = .error e ↔ e.Spoils id := by
  rw [checkId]
  by_cases hf : id = ""
  case pos => cases e <;> simp [hf, IdError.Spoils]
  case neg =>
    have hs : IdError.separated.Spoils id ↔
        (id.toList.any fun c => c == '/' || Text.isBlank c) = true := by simp [IdError.Spoils]
    have he : ¬IdError.empty.Spoils id := hf
    rw [if_neg (by simpa using hf)]
    split
    case isTrue h => cases e <;> simp [hs, he, h]
    case isFalse h => cases e <;> simp [hs, he, h]

theorem checkId_eq_ok_iff : checkId id = .ok () ↔ IsPart id := by
  simp only [isPart_iff, ← checkId_eq_error_iff]
  cases checkId id <;> simp

namespace Config

variable {c : Config} {key : Key} {e : IdError}

-- The id that a setting has, if it has one.
def id? (c : Config) : Key → Option String
  | .projectId => c.projectId
  | .instanceId => c.instanceId
  | .profile => c.profile

-- The settings that are looked at before one.
def Key.earlier : Key → List Key
  | projectId => []
  | instanceId => [projectId]
  | profile => [projectId, instanceId]

-- All ids can be used.
def Usable (c : Config) : Prop :=
  ∀ key, ∀ id ∈ c.id? key, IsPart id

theorem checkKey_eq_ok_iff {id : String} : checkKey key id = .ok () ↔ IsPart id := by
  rw [checkKey, Except.mapError_eq_ok_iff, checkId_eq_ok_iff]

theorem checkKey_eq_error_iff {k : Key} {id : String} :
    checkKey k id = .error ⟨key, e⟩ ↔ k = key ∧ e.Spoils id := by
  simp [checkKey, Except.mapError_eq_error_iff, checkId_eq_error_iff, and_comm]

theorem usable_iff :
    c.Usable ↔ IsPart c.projectId ∧ IsPart c.instanceId ∧ ∀ id ∈ c.profile, IsPart id where
  mp h := ⟨h .projectId _ rfl, h .instanceId _ rfl, h .profile⟩
  mpr h
    | .projectId => by simpa [id?] using h.left
    | .instanceId => by simpa [id?] using h.right.left
    | .profile => h.right.right

theorem validate_eq_ok_iff : c.validate = .ok () ↔ c.Usable := by
  rw [validate, usable_iff]
  cases c.profile <;> simp [Except.then_eq_ok_iff, checkKey_eq_ok_iff]

-- The ids are looked at in the order of the settings.
theorem validate_eq_error_iff :
    c.validate = .error ⟨key, e⟩ ↔
      (∃ id ∈ c.id? key, e.Spoils id) ∧ ∀ k ∈ key.earlier, ∀ id ∈ c.id? k, IsPart id := by
  rw [validate]
  cases key <;> cases hp : c.profile <;>
    simp [Except.then_eq_error_iff, checkKey_eq_ok_iff, checkKey_eq_error_iff, id?,
      Key.earlier, hp]
  all_goals tauto

end Config
end WideTable
