import WideTable.Row.Entries
import WideTable.Store.SortedMap

namespace WideTable

structure Versions where
  cells       : List Cell
  latestFirst : cells.Pairwise fun a b => b.timestamp < a.timestamp
  nonempty    : cells ≠ []

namespace Versions

-- Puts a cell where its timestamp belongs, in place of one with the same timestamp.
def place (c : Cell) : List Cell → List Cell
  | [] => [c]
  | d :: ds =>
    if d.timestamp < c.timestamp then c :: d :: ds
    else if c.timestamp < d.timestamp then d :: place c ds
    else c :: ds

theorem mem_place {c e : Cell} {cs : List Cell} (h : e ∈ place c cs) : e = c ∨ e ∈ cs := by
  induction cs with
  | nil => simpa [place] using h
  | cons d ds ih =>
    rw [place] at h
    split at h
    case isTrue => simpa using h
    case isFalse => split at h <;> grind

theorem place_ne_nil (c : Cell) (cs : List Cell) : place c cs ≠ [] := by
  cases cs with
  | nil => simp [place]
  | cons d ds =>
    rw [place]
    split
    case isTrue => simp
    case isFalse => split <;> simp

theorem latestFirst_place (c : Cell) {cs : List Cell}
    (h : cs.Pairwise fun a b => b.timestamp < a.timestamp) :
    (place c cs).Pairwise fun a b => b.timestamp < a.timestamp := by
  induction cs with
  | nil => simp [place]
  | cons d ds ih =>
    obtain ⟨hd, hds⟩ := List.pairwise_cons.mp h
    rw [place]
    split
    case isTrue hlt =>
      refine List.pairwise_cons.mpr ⟨fun e he => ?_, h⟩
      rcases List.mem_cons.mp he with rfl | he
      · exact hlt
      · exact Int64.lt_trans (hd e he) hlt
    case isFalse hnl =>
      split
      case isTrue hgt =>
        refine List.pairwise_cons.mpr ⟨fun e he => ?_, ih hds⟩
        rcases mem_place he with rfl | he
        · exact hgt
        · exact hd e he
      case isFalse hng =>
        have he : c.timestamp = d.timestamp :=
          Int64.le_antisymm (Int64.not_lt.mp hnl) (Int64.not_lt.mp hng)
        exact List.pairwise_cons.mpr ⟨fun e he' => he ▸ hd e he', hds⟩

def write (c : Cell) (versions : Option Versions) : Versions where
  cells := place c (versions.elim [] cells)
  latestFirst := latestFirst_place c <| by
    cases versions with
    | none => exact .nil
    | some v => exact v.latestFirst
  nonempty := place_ne_nil c _

end Versions

abbrev StoredFamily := SortedMap Qualifier Versions

abbrev StoredRow := SortedMap String StoredFamily

namespace StoredRow

def entries (r : StoredRow) : List Entry :=
  (SortedMap.entries r).flatMap fun (family, columns) =>
    (SortedMap.entries columns).flatMap fun (qualifier, versions) =>
      versions.cells.map fun cell => ⟨family, qualifier, cell⟩

end StoredRow

structure Write where
  key       : RowKey
  family    : String
  qualifier : Qualifier
  cell      : Cell
  deriving DecidableEq, Repr

structure Store where
  rows : SortedMap RowKey StoredRow

namespace Store

def empty : Store where
  rows := .empty

def insert (s : Store) (w : Write) : Store where
  rows := s.rows.alter w.key fun families =>
    (families.getD .empty).alter w.family fun columns =>
      (columns.getD .empty).alter w.qualifier (Versions.write w.cell)

def ofWrites (ws : List Write) : Store :=
  ws.foldl insert empty

end Store
end WideTable
