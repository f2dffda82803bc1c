import WideTable.Proofs.Text.Quoted
import WideTable.Row

namespace WideTable.RowKey

open Text

-- What stands in the parentheses, as bytes or as the text that the bytes are.
def ofShown? (s : String) : Option RowKey :=
  (unquoteBytes? s).or ((unquote? s).map Bytes.ofText)

theorem ofShown?_quoteBytes (key : RowKey) : ofShown? (quoteBytes key) = some key := by
  simp [ofShown?, unquoteBytes?_quoteBytes]

theorem ofShown?_quote (s : String) : ofShown? (quote s) = some (Bytes.ofText s) := by
  simp [ofShown?, unquoteBytes?_quote, unquote?_quote]

-- What comes before the key has seven characters, what comes after it has one.
def ofDescription? (s : String) : Option RowKey :=
  ofShown? (.ofList (s.toList.drop 7).dropLast)

theorem ofDescription?_describe (key : RowKey) : ofDescription? key.describe = some key := by
  have hd (s : String) : ofDescription? ("RowKey(" ++ s ++ ")") = ofShown? s := by
    simp [ofDescription?]
  rw [describe, hd]
  split
  case h_1 s h => rw [ofShown?_quote, Bytes.ofText_of_text? h]
  case h_2 => exact ofShown?_quoteBytes key

-- The two ways to show a key are never the same, and each of them can be undone.
theorem describe_unambiguous (key other : RowKey) (s : String) :
    (key.describe = other.describe ↔ key = other) ∧ ofDescription? key.describe = some key ∧
      quote s ≠ quoteBytes key ∧ unquote? (quote s) = some s ∧
      unquoteBytes? (quoteBytes key) = some key := by
  refine ⟨⟨fun h => ?_, congrArg describe⟩, ofDescription?_describe key,
    quote_ne_quoteBytes s key, unquote?_quote s, unquoteBytes?_quoteBytes key⟩
  have hk := ofDescription?_describe key
  rw [h, ofDescription?_describe] at hk
  exact (Option.some.inj hk).symm

end WideTable.RowKey
