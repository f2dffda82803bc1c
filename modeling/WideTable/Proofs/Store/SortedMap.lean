import Mathlib
import WideTable.Store.SortedMap

namespace WideTable

open ByteKey

namespace ByteKey

variable {κ α : Type} [ByteKey κ]

instance : Std.Irrefl fun a b : κ × α => Before a.1 b.1 where
  irrefl a := Before.irrefl a.1

instance : Std.Antisymm fun a b : κ × α => Before a.1 b.1 where
  antisymm _ _ h h' := absurd h' h.asymm

end ByteKey

namespace SortedMap

variable {κ α : Type} [ByteKey κ] {m n : SortedMap κ α} {k l : κ} {a : α}

@[simp]
theorem find?_empty (k : κ) : (empty : SortedMap κ α).find? k = none :=
  rfl

@[simp]
theorem find?_getD_empty (o : Option (SortedMap κ α)) (k : κ) :
    (o.getD empty).find? k = o.bind (·.find? k) := by
  cases o <;> rfl

theorem findIn_eq_some_iff {es : List (κ × α)} (h : es.Pairwise fun a b => Before a.1 b.1) :
    findIn k es = some a ↔ (k, a) ∈ es := by
  induction es
  case nil => simp [findIn]
  case cons e es ih =>
    obtain ⟨he, hes⟩ := List.pairwise_cons.mp h
    rw [findIn]
    split
    case isTrue heq =>
      have hk : e.1 = k := bytes_inj heq
      -- Keys that come later differ, so `k` is not found again.
      have hn : (k, a) ∉ es := fun hm => (he _ hm).ne hk
      simp [hn, Prod.ext_iff, hk, eq_comm]
    case isFalse hne =>
      have hk : k ≠ e.1 := fun heq => hne (heq ▸ rfl)
      simp [ih hes, Prod.ext_iff, hk]

theorem mem_entries : (k, a) ∈ m.entries ↔ m.find? k = some a :=
  (findIn_eq_some_iff m.sorted).symm

-- Two maps in which every key finds the same are the same map. So equations between maps are equations
-- between look-ups.
theorem ext_find? (h : ∀ k, m.find? k = n.find? k) : m = n := by
  have he : m.entries = n.entries :=
    m.sorted.eq_of_mem_iff n.sorted fun (k, a) => by simp only [mem_entries, h]
  cases m
  cases n
  congr

theorem find?_alter [DecidableEq κ] (m : SortedMap κ α) (k l : κ) (f : Option α → α) :
    (m.alter k f).find? l = if k = l then some (f (m.find? k)) else m.find? l := by
  split
  case isTrue h => exact h ▸ m.find?_alter_self k f
  case isFalse h => exact m.find?_alter_of_ne f h

theorem alter_alter_self [DecidableEq κ] (m : SortedMap κ α) (k : κ) (f g : Option α → α) :
    (m.alter k f).alter k g = m.alter k fun o => g (some (f o)) := by
  apply ext_find?
  intro l
  simp only [find?_alter]
  split <;> simp

theorem alter_comm [DecidableEq κ] (m : SortedMap κ α) (h : k ≠ l) (f g : Option α → α) :
    (m.alter k f).alter l g = (m.alter l g).alter k f := by
  apply ext_find?
  intro i
  simp only [find?_alter]
  grind

theorem alter_eq_self [DecidableEq κ] {f : Option α → α} (h : m.find? k = some a)
    (ha : f (some a) = a) : m.alter k f = m := by
  apply ext_find?
  intro l
  rw [find?_alter]
  split
  case isTrue hk => rw [← hk, h, ha]
  case isFalse => rfl

theorem alter_congr {f g : Option α → α} (h : f (m.find? k) = g (m.find? k)) :
    m.alter k f = m.alter k g := by
  classical
  apply ext_find?
  intro l
  simp only [find?_alter, h]

theorem mem_entries_alter [DecidableEq κ] {e : κ × α} {f : Option α → α} :
    e ∈ (m.alter k f).entries ↔ e = (k, f (m.find? k)) ∨ e.1 ≠ k ∧ e ∈ m.entries := by
  obtain ⟨l, b⟩ := e
  rw [mem_entries, find?_alter, mem_entries]
  grind

-- Of the entries with one key the last one is left in the map.
theorem find?_foldl_alter [DecidableEq κ] (es : List (κ × α)) (m : SortedMap κ α) (k : κ) :
    (es.foldl (fun m (l, a) => m.alter l fun _ => a) m).find? k =
      ((es.reverse.find? (·.1 = k)).map (·.2)).or (m.find? k) := by
  induction es using List.reverseRecOn
  case nil => rfl
  case append_singleton es e ih =>
    rw [List.foldl_concat, find?_alter, ih, List.reverse_concat, List.find?_cons]
    by_cases h : e.1 = k <;> simp [h]

-- A part of a sorted list that starts where a condition first holds, and from there on always holds,
-- is what the condition filters out.
theorem dropWhile_not_eq_filter {es : List (κ × α)} {p : Bytes → Bool}
    (h : es.Pairwise fun a b => Before a.1 b.1)
    (hp : ∀ {v w}, v < w → p v = true → p w = true) :
    (es.dropWhile fun e => !p (bytes e.1)) = es.filter fun e => p (bytes e.1) := by
  induction es
  case nil => rfl
  case cons e es ih =>
    have ⟨he, hes⟩ := List.pairwise_cons.mp h
    cases hpe : p (bytes e.1)
    case false => simp [hpe, ih hes]
    case true =>
      have hall : ∀ d ∈ es, p (bytes d.1) = true := fun d hd => hp (he d hd) hpe
      simp [hpe, List.filter_eq_self.mpr hall]

theorem takeWhile_eq_filter {es : List (κ × α)} {p : Bytes → Bool}
    (h : es.Pairwise fun a b => Before a.1 b.1)
    (hp : ∀ {v w}, v < w → p w = true → p v = true) :
    (es.takeWhile fun e => p (bytes e.1)) = es.filter fun e => p (bytes e.1) := by
  induction es
  case nil => rfl
  case cons e es ih =>
    have ⟨he, hes⟩ := List.pairwise_cons.mp h
    cases hpe : p (bytes e.1)
    case true => simp [hpe, ih hes]
    case false =>
      have hnone : ∀ d ∈ es, ¬p (bytes d.1) = true := fun d hd hpd => by
        simp [hp (he d hd) hpd] at hpe
      simp [hpe, List.filter_eq_nil_iff.mpr hnone]

end SortedMap

namespace Bound

variable {b : Bound} {v w : Bytes}

theorem admitsFrom_of_lt (h : v < w) (hv : b.admitsFrom v = true) : b.admitsFrom w = true := by
  cases b <;> simp only [admitsFrom, decide_eq_true_eq] at *
  case included => exact List.le_trans hv (List.le_of_lt h)
  case excluded => exact List.lt_trans hv h

theorem admitsUpTo_of_lt (h : v < w) (hw : b.admitsUpTo w = true) : b.admitsUpTo v = true := by
  cases b <;> simp only [admitsUpTo, decide_eq_true_eq] at *
  case included => exact List.le_trans (List.le_of_lt h) hw
  case excluded => exact List.lt_trans h hw

end Bound

theorem SortedMap.slice_eq_filter {κ α : Type} [ByteKey κ] (m : SortedMap κ α) {span : Span}
    (h : span.Searchable) :
    m.slice span h = m.entries.filter fun e => span.contains (bytes e.1) := by
  rw [slice, dropWhile_not_eq_filter m.sorted Bound.admitsFrom_of_lt,
    takeWhile_eq_filter (m.sorted.filter _) Bound.admitsUpTo_of_lt, List.filter_filter]
  simp only [Span.contains, Bool.and_comm]

end WideTable
