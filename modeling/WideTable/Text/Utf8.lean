import WideTable.Bytes

namespace WideTable.Utf8

def isTail (b : UInt8) : Bool :=
  0x80 ≤ b && b < 0xc0

def width? (b : UInt8) : Option Nat :=
  if b < 0x80 then some 1
  else if b < 0xc0 then none
  else if b < 0xe0 then some 2
  else if b < 0xf0 then some 3
  else if b < 0xf8 then some 4
  else none

def spell : Bytes → Nat
  | [a] => a.toNat
  | [a, b] => (a.toNat % 32) * 64 + b.toNat % 64
  | [a, b, c] => ((a.toNat % 16) * 64 + b.toNat % 64) * 64 + c.toNat % 64
  | [a, b, c, d] => (((a.toNat % 8) * 64 + b.toNat % 64) * 64 + c.toNat % 64) * 64 + d.toNat % 64
  | _ => 0

def first? (bs : Bytes) : Option (Char × Nat) := do
  let width ← width? (← bs.head?)
  let c := Char.ofNat (spell (bs.take width))
  if String.utf8EncodeChar c = bs.take width then some (c, width) else none

theorem take_of_first? {bs : Bytes} {c : Char} {n : Nat} (h : first? bs = some (c, n)) :
    bs.take n = String.utf8EncodeChar c := by
  cases bs with
  | nil => simp [first?] at h
  | cons b bs =>
    simp only [first?, List.head?_cons, Option.bind_eq_bind, Option.bind_some] at h
    cases hw : width? b <;> simp [hw] at h
    obtain ⟨he, rfl, rfl⟩ := h
    exact he.symm

-- A character is looked for at the nearest byte that can start one, at most four bytes back.
def last? (before : Bytes) : Option Char :=
  let tail := (before.take 3).takeWhile isTail
  (first? (before.take (tail.length + 1)).reverse).map (·.1)

end WideTable.Utf8
