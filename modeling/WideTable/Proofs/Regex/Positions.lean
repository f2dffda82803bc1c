import Mathlib
import WideTable.Regex.Matching

namespace WideTable.Positions

theorem testBit_foldl_ofList (is : List Nat) (s j : Nat) :
    (is.foldl (fun s i => s ||| 1 <<< i) s).testBit j = true ↔ s.testBit j = true ∨ j ∈ is := by
  induction is generalizing s
  case nil => simp
  case cons i is ih =>
    rw [List.foldl_cons, ih, Nat.testBit_or, Nat.one_shiftLeft, Nat.testBit_two_pow]
    grind

theorem testBit_ofList (is : List Nat) (j : Nat) : (ofList is).testBit j = true ↔ j ∈ is := by
  simp [ofList, testBit_foldl_ofList]

theorem ofList_lt {is : List Nat} {size : Nat} (h : ∀ i ∈ is, i < size) : ofList is < 2 ^ size := by
  apply Nat.lt_pow_two_of_testBit
  intro j hj
  rw [Bool.eq_false_iff]
  exact fun ht => absurd (h j ((testBit_ofList is j).mp ht)) (Nat.not_lt.mpr hj)

theorem lt_of_testBit {size s i : Nat} (h : s < 2 ^ size) (hi : s.testBit i = true) : i < size := by
  refine Nat.lt_of_not_le fun hle => ?_
  have hs := Nat.testBit_lt_two_pow (Nat.lt_of_lt_of_le h (Nat.pow_le_pow_right (by omega) hle))
  rw [hs] at hi
  cases hi

theorem mem_toList {size s : Nat} (h : s < 2 ^ size) (i : Nat) :
    i ∈ toList size s ↔ s.testBit i = true := by
  induction size generalizing s
  case zero =>
    have hs : s = 0 := by omega
    simp [toList, hs]
  case succ size ih =>
    rw [toList]
    split
    case isTrue hs => simp [hs]
    case isFalse hs =>
      -- What remains without the highest bit has bits below it only.
      obtain ⟨k, hk⟩ : ∃ k, s.log2 = k := ⟨_, rfl⟩
      have hlow : 2 ^ k ≤ s := hk ▸ Nat.log2_self_le hs
      have hhigh : s < 2 ^ (k + 1) := hk ▸ Nat.lt_log2_self
      have hks : k < size + 1 := hk ▸ (Nat.log2_lt hs).mpr h
      obtain ⟨t, rfl⟩ := Nat.exists_eq_add_of_le hlow
      have ht : t < 2 ^ k := by omega
      have hts : t < 2 ^ size := Nat.lt_of_lt_of_le ht (Nat.pow_le_pow_right (by omega) (by omega))
      rw [hk, Nat.one_shiftLeft, Nat.add_sub_cancel_left, List.mem_cons, ih hts]
      obtain hi | rfl | hi := Nat.lt_trichotomy i k
      · simp [Nat.testBit_two_pow_add_gt hi, Nat.ne_of_lt hi]
      · simp [Nat.testBit_two_pow_add_eq, Nat.testBit_lt_two_pow ht]
      · have hki : 2 ^ (k + 1) ≤ 2 ^ i := Nat.pow_le_pow_right (by omega) hi
        simp [Nat.testBit_lt_two_pow (Nat.lt_of_lt_of_le hhigh hki), Nat.ne_of_gt hi,
          Nat.testBit_lt_two_pow (Nat.lt_trans ht (Nat.pow_lt_pow_right (by omega) hi))]

-- `f` takes sets of positions below `size` to where one step along `R` leads from them.
structure Follows (size : Nat) (R : Nat → Nat → Prop) (f : Nat → Nat) : Prop where
  lt      : ∀ {s}, s < 2 ^ size → f s < 2 ^ size
  testBit : ∀ {s}, s < 2 ^ size → ∀ j, (f s).testBit j = true ↔ ∃ i, s.testBit i = true ∧ R i j

variable {size : Nat} {R : Nat → Nat → Prop} {f : Nat → Nat} {s seen fresh : Nat}

theorem follow_eq_self (h : f s = s) (n : Nat) : follow f n s = s := by
  cases n <;> simp [follow, h]

theorem follow_succ (f : Nat → Nat) (n s : Nat) : follow f (n + 1) s = follow f n (f s) := by
  rw [follow]
  split
  case isTrue h => rw [h, follow_eq_self h]
  case isFalse => rfl

namespace Follows

open Regex (Steps)

theorem follow (h : Follows size R f) (n : Nat) : Follows size (Steps R n) (follow f n) where
  lt {s} hs := by
    induction n generalizing s
    case zero => exact hs
    case succ n ih => exact follow_succ f n s ▸ ih (h.lt hs)
  testBit {s} hs j := by
    induction n generalizing s
    case zero => simp [Positions.follow, Steps]
    case succ n ih =>
      rw [follow_succ, ih (h.lt hs)]
      simp only [h.testBit hs, Steps]
      constructor
      case mp => exact fun ⟨k, ⟨i, hi, hik⟩, hkj⟩ => ⟨i, hi, k, hik, hkj⟩
      case mpr => exact fun ⟨i, hi, k, hik, hkj⟩ => ⟨k, ⟨i, hi, hik⟩, hkj⟩

end Follows

-- Only from fresh positions may a step lead out of what has been seen.
structure Frontier (size : Nat) (R : Nat → Nat → Prop) (seen fresh : Nat) : Prop where
  seen_lt  : seen < 2 ^ size
  fresh_lt : fresh < 2 ^ size
  subset   : ∀ {i}, fresh.testBit i = true → seen.testBit i = true
  closed   : ∀ {i j}, seen.testBit i = true → fresh.testBit i = false → R i j →
    seen.testBit j = true

namespace Frontier

theorem start (h : s < 2 ^ size) : Frontier size R s s where
  seen_lt := h
  fresh_lt := h
  subset := id
  closed hi hi' := by simp [hi] at hi'

-- All that one step leads to from what has been seen is reached in the next round.
theorem testBit_reached (h : Frontier size R seen fresh) (hf : Follows size R f) (j : Nat) :
    (seen ||| f fresh).testBit j = true ↔
      seen.testBit j = true ∨ ∃ i, seen.testBit i = true ∧ R i j := by
  rw [Nat.testBit_or, Bool.or_eq_true, hf.testBit h.fresh_lt]
  constructor
  case mp =>
    rintro (hj | ⟨i, hi, hij⟩)
    · exact .inl hj
    · exact .inr ⟨i, h.subset hi, hij⟩
  case mpr =>
    rintro (hj | ⟨i, hi, hij⟩)
    · exact .inl hj
    · cases hi' : fresh.testBit i
      case false => exact .inl (h.closed hi hi' hij)
      case true => exact .inr ⟨i, hi', hij⟩

theorem next (h : Frontier size R seen fresh) (hf : Follows size R f) :
    Frontier size R (seen ||| f fresh) ((seen ||| f fresh) ^^^ seen) where
  seen_lt := Nat.or_lt_two_pow h.seen_lt (hf.lt h.fresh_lt)
  fresh_lt := Nat.xor_lt_two_pow (Nat.or_lt_two_pow h.seen_lt (hf.lt h.fresh_lt)) h.seen_lt
  subset {i} hi := by
    rw [Nat.testBit_xor, Nat.testBit_or] at hi
    rw [Nat.testBit_or]
    cases hs : seen.testBit i <;> simp_all
  closed {i j} hi hi' hij := by
    rw [Nat.testBit_xor, hi] at hi'
    exact (h.testBit_reached hf j).mpr (.inr ⟨i, by simpa using hi', hij⟩)

-- A closed set holds all that can be reached from it.
theorem testBit_of_steps (h : Frontier size R seen 0) {n i j : Nat} (hi : seen.testBit i = true)
    (hs : Regex.Steps R n i j) : seen.testBit j = true := by
  induction n generalizing i
  case zero => exact hs ▸ hi
  case succ n ih =>
    have ⟨k, hik, hkj⟩ := hs
    exact ih (h.closed hi (Nat.zero_testBit i) hik) hkj

theorem testBit_grow (h : Frontier size R seen fresh) (hf : Follows size R f) (rounds j : Nat) :
    (grow f rounds seen fresh).testBit j = true ↔
      ∃ n ≤ rounds, ∃ i, seen.testBit i = true ∧ Regex.Steps R n i j := by
  induction rounds generalizing seen fresh
  case zero => simp [grow, Regex.Steps]
  case succ rounds ih =>
    rw [grow]
    split
    case isTrue h0 =>
      constructor
      case mp => exact fun hj => ⟨0, Nat.zero_le _, j, hj, rfl⟩
      case mpr => exact fun ⟨n, _, i, hi, hs⟩ => (h0 ▸ h).testBit_of_steps hi hs
    case isFalse =>
      simp only [ih (h.next hf), h.testBit_reached hf]
      constructor
      case mp =>
        rintro ⟨n, hn, i, hi | ⟨k, hk, hki⟩, hs⟩
        · exact ⟨n, by omega, i, hi, hs⟩
        · exact ⟨n + 1, by omega, k, hk, i, hki, hs⟩
      case mpr =>
        rintro ⟨_ | n, hn, i, hi, hs⟩
        · exact ⟨0, by omega, i, .inl hi, hs⟩
        · have ⟨k, hik, hkj⟩ := hs
          exact ⟨n, by omega, k, .inr ⟨i, hi, hik⟩, hkj⟩

theorem grow_lt (h : Frontier size R seen fresh) (hf : Follows size R f) (rounds : Nat) :
    grow f rounds seen fresh < 2 ^ size := by
  induction rounds generalizing seen fresh
  case zero => exact h.seen_lt
  case succ rounds ih =>
    rw [grow]
    split
    case isTrue => exact h.seen_lt
    case isFalse => exact ih (h.next hf)

-- A round that reaches something new makes the number of the set larger, so there are not too many.
theorem exists_closed_grow (h : Frontier size R seen fresh) (hf : Follows size R f) {rounds : Nat}
    (hr : 2 ^ size ≤ seen + rounds) : Frontier size R (grow f rounds seen fresh) 0 := by
  induction rounds generalizing seen fresh
  case zero => exact absurd h.seen_lt (Nat.not_lt.mpr hr)
  case succ rounds ih =>
    rw [grow]
    split
    case isTrue h0 => exact h0 ▸ h
    case isFalse =>
      have hle : seen ≤ seen ||| f fresh := Nat.left_le_or
      have hn := h.next hf
      obtain heq | hlt := Nat.eq_or_lt_of_le hle
      case inr => exact ih hn (by omega)
      case inl =>
        simp only [← heq, Nat.xor_self] at hn ⊢
        cases rounds <;> exact hn

end Frontier

namespace Follows

open Regex (Steps)

theorem grow (h : Follows size R f) (rounds : Nat) :
    Follows size (fun i j => ∃ n ≤ rounds, Steps R n i j) fun s => grow f rounds s s where
  lt hs := (Frontier.start hs).grow_lt h rounds
  testBit hs j := by
    rw [(Frontier.start hs).testBit_grow h]
    grind

theorem grow_all (h : Follows size R f) {rounds : Nat} (hr : 2 ^ size ≤ rounds) :
    Follows size (fun i j => ∃ n, Steps R n i j) fun s => Positions.grow f rounds s s where
  lt hs := (Frontier.start hs).grow_lt h rounds
  testBit {s} hs j := by
    constructor
    case mp =>
      intro hj
      have ⟨n, _, i, hi, hij⟩ := ((Frontier.start hs).testBit_grow h rounds j).mp hj
      exact ⟨i, hi, n, hij⟩
    case mpr =>
      rintro ⟨i, hi, n, hij⟩
      have hi' := ((Frontier.start hs).testBit_grow h rounds i).mpr ⟨0, Nat.zero_le _, i, hi, rfl⟩
      exact ((Frontier.start hs).exists_closed_grow h (by omega)).testBit_of_steps hi' hij

theorem comp {S : Nat → Nat → Prop} {g : Nat → Nat} (h : Follows size R f)
    (hg : Follows size S g) : Follows size (fun i j => ∃ k, R i k ∧ S k j) (g ∘ f) where
  lt hs := hg.lt (h.lt hs)
  testBit hs j := by
    simp only [Function.comp_apply, hg.testBit (h.lt hs), h.testBit hs]
    constructor
    case mp => exact fun ⟨k, ⟨i, hi, hik⟩, hkj⟩ => ⟨i, hi, k, hik, hkj⟩
    case mpr => exact fun ⟨i, hi, k, hik, hkj⟩ => ⟨k, ⟨i, hi, hik⟩, hkj⟩

theorem or {S : Nat → Nat → Prop} {g : Nat → Nat} (h : Follows size R f)
    (hg : Follows size S g) : Follows size (fun i j => R i j ∨ S i j) fun s => f s ||| g s where
  lt hs := Nat.or_lt_two_pow (h.lt hs) (hg.lt hs)
  testBit hs j := by
    rw [Nat.testBit_or, Bool.or_eq_true, h.testBit hs, hg.testBit hs]
    grind

theorem congr {S : Nat → Nat → Prop} {g : Nat → Nat} (h : Follows size R f)
    (hR : ∀ i j, R i j ↔ S i j) (hf : ∀ s, f s = g s) : Follows size S g := by
  obtain rfl : f = g := funext hf
  obtain rfl : R = S := by
    funext i j
    exact propext (hR i j)
  exact h

end Follows
end WideTable.Positions
