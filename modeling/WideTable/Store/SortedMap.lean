import WideTable.Range

namespace WideTable

open ByteKey

structure SortedMap (κ α : Type) [ByteKey κ] where
  entries : List (κ × α)
  sorted  : entries.Pairwise fun a b => Before a.1 b.1

namespace SortedMap

variable {κ α : Type} [ByteKey κ]

def empty : SortedMap κ α where
  entries := []
  sorted := .nil

def findIn (k : κ) : List (κ × α) → Option α
  | [] => none
  | (l, a) :: es => if bytes l = bytes k then some a else findIn k es

def find? (m : SortedMap κ α) (k : κ) : Option α :=
  findIn k m.entries

def alterIn (k : κ) (f : Option α → α) : List (κ × α) → List (κ × α)
  | [] => [(k, f none)]
  | (l, a) :: es =>
    if Before l k then (l, a) :: alterIn k f es
    else if Before k l then (k, f none) :: (l, a) :: es
    else (k, f (some a)) :: es

private theorem mem_alterIn {k : κ} {f : Option α → α} {e : κ × α} {es : List (κ × α)}
    (h : e ∈ alterIn k f es) : e.1 = k ∨ e ∈ es := by
  induction es with
  | nil => simp_all [alterIn]
  | cons d es ih =>
    rw [alterIn] at h
    split at h
    case isTrue => rcases List.mem_cons.mp h with rfl | h <;> grind
    case isFalse => split at h <;> grind

private theorem sorted_alterIn (k : κ) (f : Option α → α) {es : List (κ × α)}
    (h : es.Pairwise fun a b => Before a.1 b.1) :
    (alterIn k f es).Pairwise fun a b => Before a.1 b.1 := by
  induction es with
  | nil => simp [alterIn]
  | cons d es ih =>
    obtain ⟨hd, hes⟩ := List.pairwise_cons.mp h
    rw [alterIn]
    split
    case isTrue hlt =>
      refine List.pairwise_cons.mpr ⟨fun e he => ?_, ih hes⟩
      rcases mem_alterIn he with rfl | he
      · exact hlt
      · exact hd e he
    case isFalse hnl =>
      split
      case isTrue hgt =>
        refine List.pairwise_cons.mpr ⟨fun e he => ?_, h⟩
        rcases List.mem_cons.mp he with rfl | he
        · exact hgt
        · exact hgt.trans (hd e he)
      case isFalse hng =>
        refine List.pairwise_cons.mpr ⟨fun e he => ?_, hes⟩
        exact eq_of_not_before hnl hng ▸ hd e he

def alter (m : SortedMap κ α) (k : κ) (f : Option α → α) : SortedMap κ α where
  entries := alterIn k f m.entries
  sorted := sorted_alterIn k f m.sorted

private theorem findIn_eq_none {k : κ} {es : List (κ × α)} (h : ∀ e ∈ es, Before k e.1) :
    findIn k es = none := by
  induction es with
  | nil => rfl
  | cons e es ih =>
    rw [findIn, if_neg, ih fun d hd => h d (.tail _ hd)]
    exact fun he => (h e (.head _)).ne (bytes_inj he).symm

theorem find?_alter_self (m : SortedMap κ α) (k : κ) (f : Option α → α) :
    (m.alter k f).find? k = some (f (m.find? k)) := by
  obtain ⟨es, h⟩ := m
  simp only [find?, alter]
  induction es with
  | nil => simp [alterIn, findIn]
  | cons e es ih =>
    obtain ⟨hd, hes⟩ := List.pairwise_cons.mp h
    rw [alterIn]
    split
    case isTrue hlt =>
      have hne : bytes e.1 ≠ bytes k := fun he => hlt.ne (bytes_inj he)
      simp [findIn, hne, ih hes]
    case isFalse hnl =>
      split
      case isTrue hgt =>
        have hne : bytes e.1 ≠ bytes k := fun he => hgt.ne (bytes_inj he).symm
        simp [findIn, hne, findIn_eq_none fun d hd' => hgt.trans (hd d hd')]
      case isFalse hng =>
        simp [findIn, eq_of_not_before hnl hng]

theorem find?_alter_of_ne (m : SortedMap κ α) {k l : κ} (f : Option α → α) (h : k ≠ l) :
    (m.alter k f).find? l = m.find? l := by
  have hkl : bytes k ≠ bytes l := fun he => h (bytes_inj he)
  obtain ⟨es, _⟩ := m
  simp only [find?, alter]
  induction es with
  | nil => simp [alterIn, findIn, hkl]
  | cons e es ih =>
    simp_all only [List.pairwise_cons, alterIn, findIn]
    split
    case isTrue => simp_all [findIn]
    case isFalse hnl =>
      split
      case isTrue => simp [findIn, hkl]
      case isFalse hng =>
        have he : e.1 = k := eq_of_not_before hnl hng
        simp [findIn, he, hkl]

-- The entries with keys in a span, found from both ends of it. The edges of the span have to be in order,
-- as in any ordered search.
def slice (m : SortedMap κ α) (span : Span) (_ : span.Searchable) : List (κ × α) :=
  (m.entries.dropWhile fun e => !span.lower.admitsFrom (bytes e.1)).takeWhile fun e =>
    span.upper.admitsUpTo (bytes e.1)

end SortedMap
end WideTable
