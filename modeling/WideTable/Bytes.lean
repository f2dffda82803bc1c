namespace WideTable

-- Row keys, column qualifiers and cell values are byte strings, ordered bytewise. Family names are text,
-- ordered by the bytes of their UTF-8 form.
abbrev Bytes := List UInt8

abbrev RowKey := Bytes

abbrev Qualifier := Bytes

namespace Bytes

def ofText (s : String) : Bytes :=
  s.toByteArray.data.toList

def text? (bs : Bytes) : Option String :=
  String.fromUTF8? ⟨bs.toArray⟩

@[simp]
theorem text?_ofText (s : String) : text? (ofText s) = some s :=
  dif_pos s.isValidUTF8

theorem ofText_of_text? {bs : Bytes} {s : String} (h : text? bs = some s) : ofText s = bs := by
  simp only [text?, String.fromUTF8?] at h
  split at h
  case isTrue => cases h; rfl
  case isFalse => contradiction

theorem ofText_inj {s t : String} : ofText s = ofText t ↔ s = t where
  mp h := by simpa using congrArg text? h
  mpr  := congrArg ofText

end Bytes

class ByteKey (κ : Type) where
  bytes : κ → Bytes
  bytes_inj : ∀ {a b : κ}, bytes a = bytes b → a = b

namespace ByteKey

instance : ByteKey Bytes where
  bytes := id
  bytes_inj := id

instance : ByteKey String where
  bytes := Bytes.ofText
  bytes_inj := Bytes.ofText_inj.mp

variable {κ : Type} [ByteKey κ]

def Before (a b : κ) : Prop :=
  bytes a < bytes b

instance : DecidableRel (Before (κ := κ)) :=
  fun a b => inferInstanceAs (Decidable (bytes a < bytes b))

theorem Before.trans {a b c : κ} (h₁ : Before a b) (h₂ : Before b c) : Before a c :=
  List.lt_trans h₁ h₂

theorem Before.irrefl (a : κ) : ¬Before a a :=
  List.lt_irrefl _

theorem Before.asymm {a b : κ} (h : Before a b) : ¬Before b a :=
  List.lt_asymm h

theorem Before.ne {a b : κ} (h : Before a b) : a ≠ b :=
  fun e => Before.irrefl b (e ▸ h)

theorem eq_of_not_before {a b : κ} (h₁ : ¬Before a b) (h₂ : ¬Before b a) : a = b :=
  bytes_inj (List.le_antisymm (List.not_lt.mp h₂) (List.not_lt.mp h₁))

end ByteKey
end WideTable
