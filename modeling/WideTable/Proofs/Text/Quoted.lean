import Mathlib
import WideTable.Text.Quoted

namespace WideTable

namespace Hex

theorem exists_of_mem_toDigits {n : Nat} {c : Char} (h : c ∈ Nat.toDigits 16 n) :
    ∃ d < 16, c = digit d := by
  induction n using Nat.strongRecOn
  case ind n ih =>
    rw [Nat.toDigits_eq_if (by decide)] at h
    split at h
    case isTrue hn => exact ⟨n, hn, by simpa [digit] using h⟩
    case isFalse hn =>
      cases List.mem_append.mp h
      case inl h => exact ih (n / 16) (by omega) h
      case inr h => exact ⟨n % 16, by omega, by simpa [digit] using h⟩

theorem number?_eq_foldlM {cs : List Char} (h : cs ≠ []) :
    number? cs = cs.foldlM (fun n c => (value? c).map (16 * n + ·)) 0 := by
  cases cs
  case nil => contradiction
  case cons => rfl

theorem number?_concat {cs : List Char} {n d : Nat} (h : number? cs = some n) (hd : d < 16) :
    number? (cs ++ [digit d]) = some (16 * n + d) := by
  have hcs : cs ≠ [] := by rintro rfl; cases h
  rw [number?_eq_foldlM hcs] at h
  simp [number?_eq_foldlM, List.foldlM_append, h, value?_digit hd]

theorem number?_toDigits (n : Nat) : number? (Nat.toDigits 16 n) = some n := by
  induction n using Nat.strongRecOn
  case ind n ih =>
    rw [Nat.toDigits_eq_if (by decide)]
    split
    case isTrue hn => simpa [number?, digit] using value?_digit hn
    case isFalse hn =>
      have hd := number?_concat (ih (n / 16) (by omega)) (Nat.mod_lt n (by decide : 0 < 16))
      simpa [digit, Nat.div_add_mod] using hd

end Hex

namespace Text

variable {c e : Char} {cs rest : List Char}

-- What the character after a backslash stands for.
def ofShort? : Char → Option Char
  | '0' => some '\x00'
  | 't' => some '\t'
  | 'n' => some '\n'
  | 'r' => some '\r'
  | '"' => some '"'
  | '\\' => some '\\'
  | _ => none

theorem ofShort?_of_shortEscape? (h : shortEscape? c = some e) : ofShort? e = some c := by
  revert h
  unfold shortEscape?
  split <;> rintro ⟨⟩ <;> rfl

theorem ne_of_shortEscape? (h : shortEscape? c = none) : c ≠ '\\' ∧ c ≠ '"' := by
  constructor <;> rintro rfl <;> cases h

-- Reads the number between braces.
def readNumber? (cs : List Char) : Option (Nat × List Char) :=
  (Hex.number? (cs.takeWhile (· != '\x7d'))).map (·, (cs.dropWhile (· != '\x7d')).tail)

theorem readNumber?_toDigits (n : Nat) (rest : List Char) :
    readNumber? (Nat.toDigits 16 n ++ '\x7d' :: rest) = some (n, rest) := by
  have hn : ∀ c ∈ Nat.toDigits 16 n, (c != '\x7d') = true := by
    intro c hc
    have ⟨d, hd, he⟩ := Hex.exists_of_mem_toDigits hc
    have hb : ∀ d < 16, (Hex.digit d != '\x7d') = true := by decide
    exact he ▸ hb d hd
  simp [readNumber?, List.takeWhile_append_of_pos hn, List.dropWhile_append_of_pos hn,
    Hex.number?_toDigits]

-- Reads one character as it is written in quotes.
-- Every character and every byte is written in a way that can be told from all that may follow it, and
-- none of these ways starts with a quote.
def readChar? : List Char → Option (Char × List Char)
  | [] => none
  | '\\' :: 'u' :: '\x7b' :: cs => (readNumber? cs).map fun (n, rest) => (.ofNat n, rest)
  | '\\' :: e :: cs => (ofShort? e).map (·, cs)
  | c :: cs => some (c, cs)

theorem readChar?_escapeChar (c : Char) (rest : List Char) :
    readChar? (escapeChar c ++ rest) = some (c, rest) := by
  rw [escapeChar]
  split
  case h_1 e h =>
    have he := ofShort?_of_shortEscape? h
    have hu : e ≠ 'u' := fun hu => by simp [hu, ofShort?] at he
    simp [readChar?, he, hu]
  case h_2 h =>
    split
    case isTrue => simp [readChar?, ne_of_shortEscape? h]
    case isFalse => simp [readChar?, readNumber?_toDigits]

theorem head?_escapeChar (c : Char) (rest : List Char) : (escapeChar c ++ rest).head? ≠ some '"' := by
  rw [escapeChar]
  split
  case h_1 => simp
  case h_2 h => split <;> simp [ne_of_shortEscape? h]

-- Reads one byte as it is written in quotes.
def readByte? : List Char → Option (UInt8 × List Char)
  | [] => none
  | '\\' :: 'x' :: a :: b :: cs => (Hex.number? [a, b]).map (.ofNat ·, cs)
  | '\\' :: e :: cs => (ofShort? e).map (.ofNat ·.toNat, cs)
  | c :: cs => some (.ofNat c.toNat, cs)

theorem ofNat_toNat_byte (b : UInt8) : UInt8.ofNat (Char.ofNat b.toNat).toNat = b := by
  have hb := b.toNat_lt
  simp [Char.toNat_ofNat, Nat.isValidChar, show b.toNat < 0xd800 by omega]

theorem readByte?_escapeByte (b : UInt8) (rest : List Char) :
    readByte? (escapeByte b ++ rest) = some (b, rest) := by
  rw [escapeByte]
  split
  case h_1 e h =>
    have he := ofShort?_of_shortEscape? h
    have hx : e ≠ 'x' := fun hx => by simp [hx, ofShort?] at he
    simp [readByte?, he, hx, ofNat_toNat_byte]
  case h_2 h =>
    split
    case isTrue => simp [readByte?, ne_of_shortEscape? h, ofNat_toNat_byte]
    case isFalse =>
      have hb := b.toNat_lt
      have hn : Hex.number? [Hex.digit (b.toNat / 16), Hex.digit (b.toNat % 16)] = some b.toNat := by
        simp [Hex.number?, Hex.value?_digit (show b.toNat / 16 < 16 by omega),
          Hex.value?_digit (Nat.mod_lt _ (by decide : 0 < 16)), Nat.div_add_mod]
      simp [readByte?, hn]

theorem head?_escapeByte (b : UInt8) (rest : List Char) : (escapeByte b ++ rest).head? ≠ some '"' := by
  rw [escapeByte]
  split
  case h_1 => simp
  case h_2 h => split <;> simp [ne_of_shortEscape? h]

section

variable {α : Type} {item? : List Char → Option (α × List Char)} {escape : α → List Char}

-- Reads up to the closing quote. Every item takes a character.
def readQuoted? (item? : List Char → Option (α × List Char)) :
    (fuel : Nat) → List Char → Option (List α × List Char)
  | 0, _ => none
  | fuel + 1, cs =>
    if cs.head? = some '"' then some ([], cs.tail)
    else do
      let (a, cs) ← item? cs
      let (as, cs) ← readQuoted? item? fuel cs
      return (a :: as, cs)

-- The induction is on what is quoted. Each item is told from the closing quote by how it starts.
theorem readQuoted?_flatMap (hr : ∀ a cs, item? (escape a ++ cs) = some (a, cs))
    (hq : ∀ a cs, (escape a ++ cs).head? ≠ some '"') (as : List α) (rest : List Char) {fuel : Nat}
    (hf : as.length < fuel) :
    readQuoted? item? fuel (as.flatMap escape ++ '"' :: rest) = some (as, rest) := by
  induction as generalizing fuel
  case nil =>
    cases fuel
    case zero => contradiction
    case succ => simp [readQuoted?]
  case cons a as ih =>
    cases fuel
    case zero => contradiction
    case succ fuel =>
      rw [List.flatMap_cons, List.append_assoc, readQuoted?, if_neg (hq _ _), hr]
      simp [ih (Nat.succ_lt_succ_iff.mp hf)]

theorem length_le_flatMap (hq : ∀ a cs, (escape a ++ cs).head? ≠ some '"') (as : List α) :
    as.length ≤ (as.flatMap escape).length := by
  induction as
  case nil => simp
  case cons a as ih =>
    have ha : escape a ≠ [] := fun h => hq a ['"'] (by simp [h])
    have hl := List.length_pos_of_ne_nil ha
    rw [List.flatMap_cons, List.length_append, List.length_cons]
    omega

-- What stands between two quotes that enclose everything.
def ofQuoted? (item? : List Char → Option (α × List Char)) : List Char → Option (List α)
  | '"' :: cs =>
    match readQuoted? item? (cs.length + 1) cs with
    | some (as, []) => some as
    | _ => none
  | _ => none

theorem ofQuoted?_flatMap (hr : ∀ a cs, item? (escape a ++ cs) = some (a, cs))
    (hq : ∀ a cs, (escape a ++ cs).head? ≠ some '"') (as : List α) :
    ofQuoted? item? ('"' :: as.flatMap escape ++ ['"']) = some as := by
  have hl : as.length < (as.flatMap escape ++ ['"']).length + 1 := by
    have hl := length_le_flatMap hq as
    rw [List.length_append]
    omega
  rw [List.cons_append, ofQuoted?, readQuoted?_flatMap hr hq as [] hl]

end

def unquote? (s : String) : Option String :=
  (ofQuoted? readChar? s.toList).map .ofList

theorem unquote?_quote (s : String) : unquote? (quote s) = some s := by
  rw [unquote?, quote, String.toList_ofList, ofQuoted?_flatMap readChar?_escapeChar head?_escapeChar]
  simp

def unquoteBytes? (s : String) : Option Bytes :=
  match s.toList with
  | 'b' :: cs => ofQuoted? readByte? cs
  | _ => none

theorem unquoteBytes?_quoteBytes (bs : Bytes) : unquoteBytes? (quoteBytes bs) = some bs := by
  rw [unquoteBytes?, quoteBytes, String.toList_ofList]
  exact ofQuoted?_flatMap readByte?_escapeByte head?_escapeByte bs

-- The one starts with a quote, the other does not.
theorem unquoteBytes?_quote (s : String) : unquoteBytes? (quote s) = none := by
  simp [unquoteBytes?, quote]

theorem quote_ne_quoteBytes (s : String) (bs : Bytes) : quote s ≠ quoteBytes bs := by
  intro h
  have hs := unquoteBytes?_quote s
  simp [h, unquoteBytes?_quoteBytes] at hs

end Text
end WideTable
