import WideTable.Proofs.Store.SortedMap
import WideTable.Toml.Document

namespace WideTable.Toml

def Line.ofText? (text : String) : Option (List Line) :=
  let cs := Document.body text.toList
  readAll? (cs.length + 1) cs

namespace Table

def keys (t : Table) : List String :=
  t.map (·.1)

variable {t u : Table} {name : String} {v : Value}

@[simp]
theorem keys_cons (e : String × Value) (t : Table) : keys (e :: t) = e.1 :: t.keys :=
  rfl

@[simp]
theorem keys_append (t u : Table) : keys (t ++ u) = t.keys ++ u.keys :=
  List.map_append

theorem keys_put (name : String) (v : Value) (t : Table) :
    (t.put name v).keys = if name ∈ t.keys then t.keys else t.keys ++ [name] := by
  induction t
  case nil => rfl
  case cons e t ih =>
    obtain ⟨other, w⟩ := e
    rw [put]
    split
    case isTrue h => simp [h]
    case isFalse h =>
      have hn : name ≠ other := fun he => h he.symm
      by_cases hm : name ∈ keys t <;> simp [ih, hn, hm]

theorem nodup_keys_put (h : t.keys.Nodup) : (t.put name v).keys.Nodup := by
  rw [keys_put]
  split
  case isTrue => exact h
  case isFalse hn => exact List.nodup_append_comm.mpr (List.nodup_cons.mpr ⟨hn, h⟩)

-- A change deeper down puts a value under a key, so only the change of a table itself matters.
theorem nodup_keys_change {via origin : Origin} {f : Origin → Table → Option Table}
    {names : List String} (h : change via f names origin t = some u) (ht : t.keys.Nodup)
    (hf : ∀ origin, f origin t = some u → u.keys.Nodup) : u.keys.Nodup := by
  cases names
  case nil => exact hf origin h
  case cons name names =>
    rw [change] at h
    split at h
    case h_1 =>
      have ⟨_, _, hu⟩ := Option.bind_eq_some_iff.mp h
      cases hu
      exact nodup_keys_put ht
    case h_2 =>
      split at h
      case isTrue =>
        have ⟨_, _, hu⟩ := Option.bind_eq_some_iff.mp h
        cases hu
        exact nodup_keys_put ht
      case isFalse => cases h
    case h_3 =>
      have ⟨_, _, hu⟩ := Option.bind_eq_some_iff.mp h
      cases hu
      exact nodup_keys_put ht
    case h_4 => cases h

theorem nodup_keys_assign {a : Assignment} (h : t.assign a = some u) (ht : t.keys.Nodup) :
    u.keys.Nodup := by
  refine nodup_keys_change h ht fun origin hf => ?_
  split at hf
  case isTrue => cases hf; exact nodup_keys_put ht
  case isFalse => cases hf

theorem nodup_keys_addSection {s : Section} (h : t.addSection s = some u) (ht : t.keys.Nodup) :
    u.keys.Nodup := by
  refine nodup_keys_change h ht fun origin hf => ?_
  split at hf
  case h_5 => cases hf
  all_goals
    have ⟨_, _, hu⟩ := Option.bind_eq_some_iff.mp hf
    cases hu
    exact nodup_keys_put ht

-- What each step keeps is kept by all of them.
theorem nodup_keys_foldlM {α : Type} {f : Table → α → Option Table} {as : List α}
    (hf : ∀ t u a, f t a = some u → t.keys.Nodup → u.keys.Nodup)
    (h : as.foldlM f t = some u) (ht : t.keys.Nodup) : u.keys.Nodup := by
  induction as generalizing t
  case nil => cases h; exact ht
  case cons a as ih =>
    rw [List.foldlM_cons] at h
    have ⟨w, hw, h⟩ := Option.bind_eq_some_iff.mp h
    exact ih h (hf t w a hw ht)

theorem nodup_keys_assignAll {as : List Assignment} (h : t.assignAll as = some u)
    (ht : t.keys.Nodup) : u.keys.Nodup :=
  nodup_keys_foldlM (fun _ _ _ => nodup_keys_assign) h ht

theorem nodup_keys_ofLines? {lines : List Line} (h : ofLines? lines = some t) : t.keys.Nodup := by
  have ⟨_, hw, h⟩ := Option.bind_eq_some_iff.mp h
  exact nodup_keys_foldlM (fun _ _ _ => nodup_keys_addSection) h (nodup_keys_assignAll hw .nil)

theorem find?_eq_none_iff : t.find? name = none ↔ name ∉ t.keys := by
  induction t
  case nil => simp [find?, keys]
  case cons e t ih =>
    obtain ⟨other, w⟩ := e
    by_cases h : name = other
    case pos => simp [find?, h]
    case neg => simpa [find?, List.lookup_cons, beq_eq_false_iff_ne.mpr h, h] using ih

theorem put_eq_append (h : name ∉ t.keys) : t.put name v = t ++ [(name, v)] := by
  induction t
  case nil => rfl
  case cons e t ih =>
    simp only [keys_cons, List.mem_cons, not_or] at h
    rw [put, if_neg (Ne.symm h.left), ih h.right, List.cons_append]

-- The assignment of a key that has no points in it.
def plain (e : String × Value) : Assignment :=
  ⟨⟨[], e.1⟩, e.2⟩

theorem assign_plain (t : Table) (e : String × Value) :
    t.assign (plain e) = if e.1 ∈ t.keys then none else some (t ++ [e]) := by
  by_cases h : e.1 ∈ t.keys
  case pos => simpa [assign, plain, change, h] using find?_eq_none_iff.not_left.mpr h
  case neg => simp [assign, plain, change, h, put_eq_append, find?_eq_none_iff.mpr]

theorem assignAll_map_plain (es : Table) (ht : t.keys.Nodup) :
    t.assignAll (es.map plain) = if (t ++ es).keys.Nodup then some (t ++ es) else none := by
  induction es generalizing t
  case nil => simp [assignAll, ht]
  case cons e es ih =>
    rw [assignAll, List.map_cons, List.foldlM_cons, assign_plain]
    by_cases hm : e.1 ∈ t.keys
    case pos =>
      have hn : ¬(t.keys ++ e.1 :: keys es).Nodup :=
        fun h => List.disjoint_of_nodup_append h hm (.head _)
      simp [hm, hn]
    case neg =>
      have hc : t ++ e :: es = t ++ [e] ++ es := by simp
      have hk : (t ++ [e]).keys.Nodup := put_eq_append hm ▸ nodup_keys_put ht
      rw [if_neg hm, hc, ← ih hk]
      rfl

theorem sections_map_plain (es : Table) :
    sections (es.map fun e => .assignment (plain e)) = (es.map plain, []) := by
  induction es
  case nil => rfl
  case cons e es ih => simp [sections] at ih ⊢; simp [ih]

theorem ofLines?_map_plain (es : Table) :
    ofLines? (es.map fun e => .assignment (plain e)) =
      if es.keys.Nodup then some es else none := by
  have hn : (keys []).Nodup := .nil
  simp only [ofLines?, sections_map_plain, assignAll_map_plain es hn, List.nil_append]
  split <;> rfl

-- The table that a text describes, its keys in the order of the text.
def ofText? (text : String) : Option Table :=
  (Line.ofText? text).bind ofLines?

theorem nodup_keys_ofText? {text : String} (h : ofText? text = some t) : t.keys.Nodup :=
  have ⟨_, _, h⟩ := Option.bind_eq_some_iff.mp h
  nodup_keys_ofLines? h

end Table

namespace Document

open Table

variable {t u : Table} {name : String} {v : Value}

theorem ofText?_eq_map (text : String) : ofText? text = (Table.ofText? text).map ofTable := by
  rw [ofText?, Table.ofText?, Line.ofText?]
  cases Line.readAll? _ (body text.toList)
  case none => rfl
  case some lines => cases h : ofLines? lines <;> simp [h]

theorem find?_ofTable_eq_some_iff (ht : t.keys.Nodup) :
    (ofTable t).find? name = some v ↔ (name, v) ∈ t := by
  rw [ofTable, SortedMap.find?_foldl_alter, SortedMap.find?_empty, Option.or_none,
    Option.map_eq_some_iff]
  constructor
  case mp =>
    rintro ⟨e, he, rfl⟩
    have hn : e.1 = name := by simpa using List.find?_some he
    exact hn ▸ List.mem_reverse.mp (List.mem_of_find?_eq_some he)
  case mpr =>
    intro hm
    have hs : (t.reverse.find? (·.1 = name)).isSome := by
      simpa using ⟨v, hm⟩
    have ⟨e, he⟩ := Option.isSome_iff_exists.mp hs
    have hn : e.1 = name := by simpa using List.find?_some he
    have hme := List.mem_reverse.mp (List.mem_of_find?_eq_some he)
    have heq : e = (name, v) := List.inj_on_of_nodup_map ht hme hm hn
    exact ⟨e, he, heq ▸ rfl⟩

theorem ofTable_perm (h : t.Perm u) (ht : t.keys.Nodup) : ofTable t = ofTable u := by
  have hu : u.keys.Nodup := (h.map _).nodup_iff.mp ht
  refine SortedMap.ext_find? fun name => Option.ext fun v => ?_
  rw [find?_ofTable_eq_some_iff ht, find?_ofTable_eq_some_iff hu, h.mem_iff]

-- Two lines with the same key are refused in any order.
theorem ofText?_eq_of_perm {text other : String} {es fs : Table}
    (ht : Line.ofText? text = some (es.map fun e => .assignment (plain e)))
    (ho : Line.ofText? other = some (fs.map fun e => .assignment (plain e))) (h : es.Perm fs) :
    ofText? text = ofText? other := by
  have hk : es.keys.Nodup ↔ fs.keys.Nodup := (h.map _).nodup_iff
  simp only [ofText?_eq_map, Table.ofText?, ht, ho, Option.bind_some, ofLines?_map_plain, ← hk]
  split
  case isTrue hn => simp [ofTable_perm h hn]
  case isFalse => rfl

end Document
end WideTable.Toml
