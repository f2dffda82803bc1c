import Mathlib
import WideTable.Row.Entries

namespace WideTable

namespace Column

-- Neighbours differ, and none is empty.
structure Apart (cs : List Column) : Prop where
  differ : cs.IsChain fun a b => a.qualifier ≠ b.qualifier
  filled : ∀ c ∈ cs, c.cells ≠ []

variable {q : Qualifier} {cell : Cell} {c : Column} {cs : List Column}

theorem attach_ne_nil (q : Qualifier) (cell : Cell) (cs : List Column) : attach q cell cs ≠ [] := by
  cases cs
  case nil => simp [attach]
  case cons => rw [attach]; split <;> simp

theorem Apart.attach (h : Apart cs) : Apart (attach q cell cs) := by
  cases cs
  case nil => exact ⟨.singleton _, by simp [Column.attach]⟩
  case cons c cs =>
    have hcs := h.filled
    rw [Column.attach]
    split
    case isTrue hq =>
      refine ⟨?_, by simp_all⟩
      have hd := h.differ
      rw [List.isChain_cons] at hd ⊢
      exact hq ▸ hd
    case isFalse hq =>
      refine ⟨.cons_cons (fun he => hq he.symm) h.differ, by simp_all⟩

-- Puts cells in front one by one, the last one first.
theorem foldr_attach_cells {cells : List Cell} (hc : cells ≠ [])
    (h : ∀ d ∈ cs.head?, q ≠ d.qualifier) :
    cells.foldr (fun cell => attach q cell) cs = ⟨q, cells⟩ :: cs := by
  induction cells
  case nil => contradiction
  case cons cell cells ih =>
    cases cells
    case nil =>
      cases cs
      case nil => rfl
      case cons d ds => simpa [attach] using fun he => h d rfl (Eq.symm he)
    case cons => simp [List.foldr_cons, ih, attach]

theorem Apart.head_ne (h : Apart (c :: cs)) : ∀ d ∈ cs.head?, c.qualifier ≠ d.qualifier :=
  (List.isChain_cons.mp h.differ).left

theorem Apart.tail (h : Apart (c :: cs)) : Apart cs where
  differ := (List.isChain_cons.mp h.differ).right
  filled := fun d hd => h.filled d (.tail _ hd)

end Column

namespace Family

-- Neighbours differ, and neither they nor their columns are empty.
structure Apart (fs : List Family) : Prop where
  differ  : fs.IsChain fun a b => a.name ≠ b.name
  filled  : ∀ f ∈ fs, f.columns ≠ []
  columns : ∀ f ∈ fs, Column.Apart f.columns

variable {n : String} {e : Entry} {f : Family} {fs : List Family} {cs : List Column}

theorem Apart.attach (h : Apart fs) : Apart (attach e fs) := by
  have hone : Column.Apart [⟨e.qualifier, [e.cell]⟩] := ⟨.singleton _, by simp⟩
  cases fs
  case nil => exact ⟨.singleton _, by simp [Family.attach], by simpa [Family.attach] using hone⟩
  case cons f fs =>
    have hfs := h.filled
    have hcs := h.columns
    rw [Family.attach]
    split
    case isTrue hn =>
      have hc : Column.Apart (Column.attach e.qualifier e.cell f.columns) :=
        (hcs f (.head _)).attach
      refine ⟨?_, by simp_all [Column.attach_ne_nil], by simp_all⟩
      have hd := h.differ
      rw [List.isChain_cons] at hd ⊢
      exact hn ▸ hd
    case isFalse hn =>
      exact ⟨.cons_cons (fun he => hn he.symm) h.differ, by simp_all, by simp_all⟩

theorem apart_nest (es : List Entry) : Apart (nest es) := by
  induction es
  case nil => exact ⟨.nil, by simp [nest], by simp [nest]⟩
  case cons _ _ ih => exact ih.attach

-- The families `fs` after one that has the columns `cs` so far, if there are any.
def opened (n : String) (cs : List Column) (fs : List Family) : List Family :=
  if cs = [] then fs else ⟨n, cs⟩ :: fs

theorem attach_opened (h : ∀ f ∈ fs.head?, n ≠ f.name) (q : Qualifier) (cell : Cell) :
    attach ⟨n, q, cell⟩ (opened n cs fs) = opened n (Column.attach q cell cs) fs := by
  cases cs
  case cons => simp [opened, attach, Column.attach_ne_nil]
  case nil =>
    cases fs
    case nil => rfl
    case cons f fs =>
      have hf : f.name ≠ n := fun he => h f rfl he.symm
      simp [opened, attach, Column.attach, hf]

theorem foldr_attach_column (h : ∀ f ∈ fs.head?, n ≠ f.name) (c : Column) :
    (c.entries n).foldr attach (opened n cs fs) =
      opened n (c.cells.foldr (fun cell => Column.attach c.qualifier cell) cs) fs := by
  rw [Column.entries, List.foldr_map]
  induction c.cells
  case nil => rfl
  case cons cell cells ih => rw [List.foldr_cons, ih, attach_opened h, List.foldr_cons]

theorem foldr_attach_columns (h : ∀ f ∈ fs.head?, n ≠ f.name) (hcs : Column.Apart cs) :
    (cs.flatMap (·.entries n)).foldr attach fs = opened n cs fs := by
  induction cs
  case nil => rfl
  case cons c cs ih =>
    rw [List.flatMap_cons, List.foldr_append, ih hcs.tail, foldr_attach_column h,
      Column.foldr_attach_cells (hcs.filled c (.head _)) hcs.head_ne]

theorem nest_flatMap_entries (h : Apart fs) : nest (fs.flatMap (·.entries)) = fs := by
  induction fs
  case nil => rfl
  case cons f fs ih =>
    have ⟨hd, hfs⟩ := List.isChain_cons.mp h.differ
    have ih := ih ⟨hfs, fun g hg => h.filled g (.tail _ hg), fun g hg => h.columns g (.tail _ hg)⟩
    rw [nest] at ih ⊢
    rw [List.flatMap_cons, List.foldr_append, ih, entries,
      foldr_attach_columns hd (h.columns f (.head _)), opened, if_neg (h.filled f (.head _))]

end Family
end WideTable
