import WideTable.Proofs.Regex.Exact
import WideTable.Regex.Footprint

namespace WideTable

namespace Form

-- A literal, or nothing at all if it has no bytes.
def ofLiteral : Bytes → Form
  | [] => .empty
  | l => .literal l

theorem ofBytes_single (b : UInt8) : ofBytes (.single b.toNat) = literal [b] := by
  have hr : (Text.CodeSet.single b.toNat).ranges = [(b.toNat, b.toNat)] := by
    rw [Text.CodeSet.single, Text.CodeSet.range, dif_pos (Nat.le_refl _)]
    rfl
  rw [ofBytes, hr]
  simp

theorem ofRegex_bytes_singleton (b : UInt8) : ofRegex (.bytes [b]) = literal [b] := by
  have he : (Text.CodeSet.single b.toNat).isEmpty = false := by
    rw [Text.CodeSet.single, Text.CodeSet.range, dif_pos (Nat.le_refl _)]
    rfl
  have ha : ofRegex (.atom (.byte (.single b.toNat))) = literal [b] := by
    rw [ofRegex, ofBranches, he, ofBytes_single]
    rfl
  have hs : ofRegex (.bytes [b]) = (ofRegex (.atom (.byte (.single b.toNat)))).andThen empty := rfl
  rw [hs, ha]
  rfl

theorem ofRegex_spelled (l : Bytes) : ofRegex (.spelled l) = .ofLiteral l := by
  induction l
  case nil => rfl
  case cons b l ih =>
    have hs : ofRegex (.spelled (b :: l)) =
        (ofRegex (.bytes [b])).andThen (ofRegex (.spelled l)) := rfl
    rw [hs, ih, ofRegex_bytes_singleton]
    cases l <;> rfl

theorem ofRegex_exactly (l : Bytes) :
    ofRegex (.exactly [l]) =
      partThen (look .textStart) ((ofLiteral l).andThen (look .textStop)) := by
  rw [← ofRegex_spelled]
  rfl

end Form

namespace Footprint

-- The states around the bytes of a literal.
def frame : Direction → Nat
  | .forward => 6
  | .backward => 4

theorem bytes_ofRegex_exactly (d : Direction) (l : Bytes) :
    (ofRegex d (.exactly [l])).bytes = 32 * (l.length + frame d) := by
  have hb (a b : Footprint) : (a + b).bytes = a.bytes + b.bytes := rfl
  rw [ofRegex, Form.ofRegex_exactly]
  -- Without bytes there is no literal between the anchors at all.
  cases l
  case nil => cases d <;> rfl
  case cons b l =>
    let form : Form := .row [.look .textStart, .literal (b :: l), .look .textStop]
    have hf : (Form.partThen (.look .textStart) ((Form.ofLiteral (b :: l)).andThen (.look .textStop))) =
        form := rfl
    have ha : isAnchored form d = true := by cases d <;> rfl
    rw [hf, if_pos ha]
    cases d <;> simp only [form, add, addRow, hb, state, times, note, frame, List.length_cons]
    case forward => omega
    case backward => omega

end Footprint

namespace Pattern

-- No literal that is longer can be matched exactly.
def maxLiteral : Nat :=
  327674

end Pattern

theorem Regex.fits_exactly_iff {l : Bytes} :
    (exactly [l]).fits = true ↔ l.length ≤ Pattern.maxLiteral := by
  -- Reading forward takes more states, so this direction decides.
  have hm : Footprint.maxBytes = 10485760 := rfl
  simp only [fits, List.all_cons, List.all_nil, Footprint.bytes_ofRegex_exactly, Footprint.frame,
    hm, Bool.and_true, Bool.and_eq_true, decide_eq_true_eq, Pattern.maxLiteral]
  omega

end WideTable
