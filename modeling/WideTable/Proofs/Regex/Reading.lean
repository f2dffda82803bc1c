import WideTable.Regex.Escape
import WideTable.Regex.Pattern

namespace WideTable.Pattern

-- The flags inside of a pattern that has to match a whole word.
def Flags.bytewise : Flags :=
  { dotAll := true, unicode := false }

def bytePiece (b : UInt8) : Piece where
  regex := .bytes [b]

namespace Symbol

theorem literalRegex_bytewise {c : Char} {pair : Bool} (h : pair = true ∨ c.toNat < 0x80) :
    literalRegex .bytewise c pair = .bytes [c.toNat.toUInt8] := by
  have hc : literalCode? .bytewise c pair = some c.toNat :=
    if_pos (by simpa [Flags.bytewise] using h)
  rw [literalRegex, hc]
  simp [Flags.spread, Flags.bytewise]

end Symbol

def metaChars : List Char :=
  ['\\', '.', '+', '*', '?', '(', ')', '|', '[', ']', '\x7b', '\x7d', '^', '$', '#', '&', '-', '~']

theorem isMeta_iff {b : UInt8} : isMeta b = true ↔ Char.ofNat b.toNat ∈ metaChars := by
  rw [isMeta, List.contains_iff_mem]
  rfl

theorem toNat_ofNat_byte (b : UInt8) : (Char.ofNat b.toNat).toNat = b.toNat := by
  have hb := b.toNat_lt
  have hv : b.toNat.isValidChar := .inl (by omega)
  rw [Char.ofNat, dif_pos hv]
  rfl

namespace Symbol

theorem readEscape?_meta {c : Char} (h : c ∈ metaChars) (cs : List Char) :
    readEscape? false (c :: cs) = some (.literal c false, cs) := by
  simp only [metaChars, List.mem_cons, List.not_mem_nil, or_false] at h
  rcases h with rfl | rfl | rfl | rfl | rfl | rfl | rfl | rfl | rfl | rfl | rfl | rfl | rfl | rfl |
    rfl | rfl | rfl | rfl <;> rfl

theorem capital_ne_brace : ∀ n < 16, Hex.capital n ≠ '\x7b' := by
  decide

theorem readEscape?_hex {m n : Nat} (hm : m < 16) (hn : n < 16) (cs : List Char) :
    readEscape? false ('x' :: Hex.capital m :: Hex.capital n :: cs) =
      some (.literal (Char.ofNat (16 * m + n)) true, cs) := by
  have hc : char? (16 * m + n) = some (Char.ofNat (16 * m + n)) := if_pos (.inl (by omega))
  have hd : hexDigits? false 2 0 (Hex.capital m :: Hex.capital n :: cs) =
      some (16 * m + n, cs) := by
    simp [hexDigits?, Hex.value?_capital hm, Hex.value?_capital hn]
  change readHex? false 2 _ = _
  rw [readHex?, skip_false]
  split
  case h_1 h => exact absurd (List.cons.inj h).left (capital_ne_brace m hm)
  case h_2 => simp [hd, hc]

end Symbol

namespace Token

variable {f : Flags} {c : Char}

theorem ofSymbol?_literal {pair : Bool} {b : UInt8} (h : pair = true ∨ b < 0x80) :
    ofSymbol? .bytewise (.literal (Char.ofNat b.toNat) pair) = some (piece (bytePiece b)) := by
  rw [ofSymbol?, Symbol.regex?, Symbol.literalRegex_bytewise, toNat_ofNat_byte]
  · simp [bytePiece]
  · rw [toNat_ofNat_byte]
    exact h.imp_right UInt8.lt_iff_toNat_lt.mp

theorem read?_backslash (hf : f.spaced = false) (cs : List Char) :
    read? f ('\\' :: cs) =
      (Symbol.readEscape? false cs).bind fun (symbol, rest) =>
        (ofSymbol? f symbol).map (·, rest) := by
  rw [read?, hf]
  simp only [skip_false]
  cases Symbol.readEscape? false cs
  case none => rfl
  case some p => cases h : ofSymbol? f p.1 <;> simp [h]

theorem read?_plain (hf : f.spaced = false) (h : c ∉ metaChars) (cs : List Char) :
    read? f (c :: cs) = (ofSymbol? f (.literal c false)).map (·, cs) := by
  rw [read?, hf]
  simp only [skip_false]
  -- Each character that begins something else is in the list.
  split <;> simp_all [metaChars]
  case _ he =>
    obtain ⟨rfl, rfl⟩ := he
    cases ofSymbol? f (.literal c false) <;> rfl

theorem read?_escapeByte (b : UInt8) (cs : List Char) :
    read? .bytewise (escapeByte b ++ cs) = some (piece (bytePiece b), cs) := by
  rw [escapeByte]
  split
  case isTrue hb =>
    have hm := isMeta_iff.mp hb
    have hall : metaChars.all (·.toNat < 0x80) = true := rfl
    have hlt := of_decide_eq_true (List.all_eq_true.mp hall _ hm)
    have hlit : b < 0x80 := UInt8.lt_iff_toNat_lt.mpr (toNat_ofNat_byte b ▸ hlt)
    rw [List.cons_append, List.cons_append, read?_backslash rfl, Symbol.readEscape?_meta hm]
    simp [ofSymbol?_literal (.inr hlit)]
  case isFalse hb =>
    have hm : Char.ofNat b.toNat ∉ metaChars := fun h => hb (isMeta_iff.mpr h)
    split
    case isTrue hp =>
      have hlit : b < 0x80 := UInt8.lt_trans hp.right (by decide)
      rw [List.cons_append, read?_plain rfl hm, ofSymbol?_literal (.inr hlit)]
      rfl
    case isFalse =>
      have hlt := b.toNat_lt
      have hd : 16 * (b.toNat / 16) + b.toNat % 16 = b.toNat := Nat.div_add_mod b.toNat 16
      simp only [List.cons_append, List.nil_append]
      rw [read?_backslash rfl, Symbol.readEscape?_hex (by omega) (by omega), hd]
      simp [ofSymbol?_literal (.inl rfl)]

end Token
end WideTable.Pattern
