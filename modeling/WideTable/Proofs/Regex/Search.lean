import WideTable.Proofs.Regex.Positions

namespace WideTable

namespace Utf8

theorem width?_head_utf8EncodeChar (c : Char) :
    (String.utf8EncodeChar c).head?.bind width? = some (String.utf8EncodeChar c).length := by
  fun_cases String.utf8EncodeChar c
  all_goals
    simp only [List.head?_cons, Option.bind_some, width?, UInt8.lt_iff_toNat_lt, UInt8.toNat_ofNat']
    grind

-- A character whose bytes are cut off is no character.
theorem le_length_of_first? {bs : Bytes} {c : Char} {n : Nat} (h : first? bs = some (c, n)) :
    n ≤ bs.length := by
  have ht := take_of_first? h
  cases bs
  case nil => simp [first?] at h
  case cons b bs =>
    simp only [first?, List.head?_cons, Option.bind_eq_bind, Option.bind_some] at h
    cases hw : width? b <;> simp [hw] at h
    case some width =>
      have hn : width = n := h.right.right
      have hpos : n ≠ 0 := fun h0 => String.utf8EncodeChar_ne_nil (c := c) (by rw [← ht, h0]; rfl)
      have hl := width?_head_utf8EncodeChar c
      obtain ⟨m, rfl⟩ := Nat.exists_eq_succ_of_ne_zero hpos
      rw [← ht] at hl
      simp only [List.take_succ_cons, List.head?_cons, Option.bind_some, hw, hn, Option.some.injEq,
        List.length_cons, List.length_take] at hl
      simp only [List.length_cons]
      omega

end Utf8

theorem Atom.le_length_of_width? {a : Atom} {before after : Bytes} {n : Nat}
    (h : a.width? before after = some n) : n ≤ after.length := by
  cases a
  case look l =>
    simp only [width?] at h
    split at h <;> cases h
    exact Nat.zero_le _
  case byte set =>
    simp only [width?] at h
    split at h <;> cases h
    case isTrue ha => cases after <;> simp_all
  case char set =>
    simp only [width?, Option.bind_eq_some_iff] at h
    obtain ⟨⟨c, m⟩, hc, h⟩ := h
    dsimp only at h
    split at h <;> cases h
    exact Utf8.le_length_of_first? hc

namespace Places

theorem getElem?_splits (before after : Bytes) (i : Nat) :
    (splits before after)[i]? =
      if i ≤ after.length then some ((after.take i).reverse ++ before, after.drop i) else none := by
  induction after generalizing before i
  case nil => cases i <;> simp [splits]
  case cons b after ih => cases i <;> simp [splits, ih]

theorem advance?_eq_some {w : Bytes} {a : Atom} {i j : Nat} (hi : i ≤ w.length) :
    (ofWord w).advance? a i = some j ↔ Regex.Spans w (.atom a) i j := by
  have ha : (ofWord w).around[i]? = some ((w.take i).reverse, w.drop i) := by
    simp [ofWord, getElem?_splits, hi]
  simp only [advance?, ha, Option.bind_eq_bind, Option.bind_some, Option.bind_eq_some_iff,
    Regex.Spans, Option.pure_def, Option.some.injEq]
  grind

end Places

namespace Regex

open Positions

variable {w : Bytes} {r : Regex} {i j : Nat}

theorem Steps.le {R : Nat → Nat → Prop} {n k : Nat} (h : ∀ {i j}, i ≤ k → R i j → j ≤ k)
    (hi : i ≤ k) (hs : Steps R n i j) : j ≤ k := by
  induction n generalizing i
  case zero => exact hs ▸ hi
  case succ n ih =>
    have ⟨m, him, hmj⟩ := hs
    exact ih (h hi him) hmj

theorem Spans.le_length (h : Spans w r i j) (hi : i ≤ w.length) : j ≤ w.length := by
  induction r generalizing i j
  case empty => exact h ▸ hi
  case atom a =>
    have ⟨n, hn, hj⟩ := h
    have hl := Atom.le_length_of_width? hn
    rw [List.length_drop] at hl
    omega
  case seq r s ihr ihs =>
    have ⟨k, hr, hs⟩ := h
    exact ihs hs (ihr hr hi)
  case alt r s ihr ihs => exact h.elim (ihr · hi) (ihs · hi)
  case rep r least most _ ih =>
    have ⟨n, _, _, hn⟩ := h
    exact hn.le (fun hi hr => ih hr hi) hi
  case group _ r ih => exact ih h hi

theorem run_zero (p : Places) (r : Regex) : r.run p 0 = 0 := by
  cases r <;> simp [run]

theorem run_seq (p : Places) (r t : Regex) (s : Nat) :
    (seq r t).run p s = t.run p (r.run p s) := by
  by_cases h : s = 0 <;> simp [run, h, run_zero]

theorem run_alt (p : Places) (r t : Regex) (s : Nat) :
    (alt r t).run p s = r.run p s ||| t.run p s := by
  by_cases h : s = 0 <;> simp [run, h, run_zero]

theorem run_group (p : Places) (n : Nat) (r : Regex) (s : Nat) :
    (group n r).run p s = r.run p s := by
  by_cases h : s = 0 <;> simp [run, h, run_zero]

theorem grow_zero (f : Nat → Nat) (rounds : Nat) : grow f rounds 0 0 = 0 := by
  cases rounds <;> simp [grow]

theorem run_rep (p : Places) (r : Regex) (least : Nat) (most : Option Nat) (lazy : Bool) (s : Nat) :
    (rep r least most lazy).run p s =
      grow (r.run p) (most.elim (1 <<< p.size) (· - least)) (follow (r.run p) least s)
        (follow (r.run p) least s) := by
  by_cases h : s = 0
  case pos => simp [run, h, follow_eq_self (run_zero p r), grow_zero]
  case neg => simp [run, h]

theorem Steps.add_iff {R : Nat → Nat → Prop} {m n : Nat} :
    Steps R (m + n) i j ↔ ∃ k, Steps R m i k ∧ Steps R n k j := by
  induction m generalizing i
  case zero => simp [Steps]
  case succ m ih =>
    rw [Nat.succ_add]
    simp only [Steps, ih]
    constructor
    case mp =>
      rintro ⟨l, hl, k, hk, hj⟩
      exact ⟨k, ⟨l, hl, hk⟩, hj⟩
    case mpr =>
      rintro ⟨k, ⟨l, hl, hk⟩, hj⟩
      exact ⟨l, hl, k, hk, hj⟩

-- No part has to be repeated more often than it may be.
def Proper : Regex → Prop
  | empty | atom _ => True
  | seq r s | alt r s => Proper r ∧ Proper s
  | rep r least most _ => (∀ m ∈ most, least ≤ m) ∧ Proper r
  | group _ r => Proper r

theorem follows_empty (w : Bytes) :
    Follows (w.length + 1) (Spans w .empty) (run (.ofWord w) .empty) where
  lt {s} hs := by
    rw [run]
    split
    case isTrue => exact Nat.two_pow_pos _
    case isFalse => exact hs
  testBit {s} _ j := by
    rw [run]
    split
    case isTrue h => simp [h]
    case isFalse => simp [Spans]

theorem follows_atom (w : Bytes) (a : Atom) :
    Follows (w.length + 1) (Spans w (.atom a)) (run (.ofWord w) (.atom a)) := by
  have hrun (s : Nat) : run (.ofWord w) (.atom a) s = Positions.ofList
      ((Positions.toList (w.length + 1) s).filterMap ((Places.ofWord w).advance? a)) := by
    rw [run]
    split
    case isTrue h => simp [h, toList, Positions.ofList]
    case isFalse => rfl
  have hm {s : Nat} (hs : s < 2 ^ (w.length + 1)) (j : Nat) :
      j ∈ (Positions.toList (w.length + 1) s).filterMap ((Places.ofWord w).advance? a) ↔
        ∃ i, s.testBit i = true ∧ Spans w (.atom a) i j := by
    simp only [List.mem_filterMap, mem_toList hs]
    refine exists_congr fun i => and_congr_right fun hi => ?_
    exact Places.advance?_eq_some (Nat.lt_succ_iff.mp (lt_of_testBit hs hi))
  constructor
  case lt =>
    intro s hs
    rw [hrun]
    refine ofList_lt fun j hj => ?_
    obtain ⟨i, hi, hij⟩ := (hm hs j).mp hj
    exact Nat.lt_succ_of_le (hij.le_length (Nat.lt_succ_iff.mp (lt_of_testBit hs hi)))
  case testBit =>
    intro s hs j
    rw [hrun, testBit_ofList, hm hs]

-- The least number of rounds first, and then as many more as there may be.
theorem spans_rep_iff {least : Nat} {most : Option Nat} {lazy : Bool} (h : ∀ m ∈ most, least ≤ m) :
    Spans w (rep r least most lazy) i j ↔
      ∃ k, Steps (Spans w r) least i k ∧
        ∃ n, (∀ m ∈ most, n ≤ m - least) ∧ Steps (Spans w r) n k j := by
  rw [Spans]
  constructor
  case mp =>
    rintro ⟨n, hn, hm, hs⟩
    obtain ⟨n, rfl⟩ := Nat.exists_eq_add_of_le hn
    have ⟨k, hk, hj⟩ := Steps.add_iff.mp hs
    exact ⟨k, hk, n, fun m hmm => by have := hm m hmm; omega, hj⟩
  case mpr =>
    rintro ⟨k, hk, n, hm, hj⟩
    refine ⟨least + n, by omega, fun m hmm => ?_, Steps.add_iff.mpr ⟨k, hk, hj⟩⟩
    have := hm m hmm
    have := h m hmm
    omega

-- A regex takes positions to where the matches end that start at one of them.
theorem follows_run (w : Bytes) {r : Regex} (hr : r.Proper) :
    Follows (w.length + 1) (Spans w r) (run (.ofWord w) r) := by
  induction r
  case empty => exact follows_empty w
  case atom a => exact follows_atom w a
  case seq r s ihr ihs =>
    exact ((ihr hr.left).comp (ihs hr.right)).congr (fun _ _ => .rfl) fun s => (run_seq ..).symm
  case alt r s ihr ihs =>
    exact ((ihr hr.left).or (ihs hr.right)).congr (fun _ _ => .rfl) fun s => (run_alt ..).symm
  case group n r ih => exact (ih hr).congr (fun _ _ => .rfl) fun s => (run_group ..).symm
  case rep r least most lazy ih =>
    have ih := ih hr.right
    have hrep (i j : Nat) : Spans w (r.rep least most lazy) i j ↔ _ := spans_rep_iff hr.left
    cases most
    case none =>
      have hrounds : 2 ^ (w.length + 1) ≤ 1 <<< (w.length + 1) := by simp [Nat.one_shiftLeft]
      refine ((ih.follow least).comp (ih.grow_all hrounds)).congr (fun i j => ?_) fun s => ?_
      · simp [hrep]
      · rw [run_rep]
        rfl
    case some m =>
      refine ((ih.follow least).comp (ih.grow (m - least))).congr (fun i j => ?_) fun s => ?_
      · simp [hrep]
      · rw [run_rep]
        rfl

-- The search finds out whether some part of the word matches.
theorem occursIn_iff (w : Bytes) {r : Regex} (hr : r.Proper) :
    r.occursIn w = true ↔ Occurs w r := by
  have hrun : r.run (.ofWord w) (1 <<< (Places.ofWord w).size - 1) =
      r.run (.ofWord w) (2 ^ (w.length + 1) - 1) := by
    rw [Nat.one_shiftLeft]
    rfl
  have hlt : 2 ^ (w.length + 1) - 1 < 2 ^ (w.length + 1) := Nat.sub_one_lt (by simp)
  have hbit (j : Nat) := (follows_run w hr).testBit hlt j
  simp only [Nat.testBit_two_pow_sub_one, decide_eq_true_eq, Nat.lt_succ_iff] at hbit
  simp only [occursIn, hrun, bne_iff_ne, Occurs]
  constructor
  case mp =>
    intro hne
    have ⟨j, hj⟩ := Nat.exists_testBit_of_ne_zero hne
    have ⟨i, hij⟩ := (hbit j).mp hj
    exact ⟨i, j, hij⟩
  case mpr =>
    rintro ⟨i, j, hij⟩ h0
    have hj := (hbit j).mpr ⟨i, hij⟩
    simp [h0] at hj

end Regex
end WideTable
