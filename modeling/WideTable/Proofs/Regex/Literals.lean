import WideTable.Proofs.Regex.Exact
import WideTable.Proofs.Regex.Reading

namespace WideTable

namespace Pattern

namespace Reader

variable {r r₁ r₂ : Reader} {text text' : List Char}

-- The text takes the reader from `r` to `r₁`, whatever follows.
def Reads (r : Reader) (text : List Char) (r₁ : Reader) : Prop :=
  ∃ rounds ≤ text.length, ∀ fuel rest, read? (fuel + rounds) r (text ++ rest) = read? fuel r₁ rest

namespace Reads

theorem nil : Reads r [] r :=
  ⟨0, Nat.le_refl _, fun _ _ => rfl⟩

theorem append (h : Reads r text r₁) (h' : Reads r₁ text' r₂) : Reads r (text ++ text') r₂ := by
  have ⟨m, hm, h⟩ := h
  have ⟨n, hn, h'⟩ := h'
  refine ⟨n + m, by rw [List.length_append]; omega, fun fuel rest => ?_⟩
  rw [List.append_assoc, ← Nat.add_assoc, h, h']

theorem of_token {t : Token} (hne : text ≠ [])
    (ht : ∀ rest, Token.read? r.flags (text ++ rest) = some (t, rest))
    (hr : r.take? t = some r₁) : Reads r text r₁ := by
  refine ⟨1, List.length_pos_iff.mpr hne, fun fuel rest => ?_⟩
  -- The end is no token that can be taken, so the reader goes on.
  rw [read?, ht]
  cases t <;> simp_all [take?]

-- A reader that is given enough rounds gets to the end.
theorem read?_eq (h : Reads r text r₁) : read? (text.length + 1) r text = r₁.finish? := by
  have ⟨n, hn, h⟩ := h
  -- At least one round is left over to find the end.
  have hf : text.length + 1 = text.length - n + 1 + n := by omega
  have h := h (text.length - n + 1) []
  rw [List.append_nil] at h
  have hd : Token.read? r₁.flags [] = some (.done, []) := by
    cases hs : r₁.flags.spaced <;> simp [Token.read?, hs, skip, skipAll]
  rw [hf, h, read?, hd]
  rfl

end Reads

end Reader

namespace Level

def addBytes (l : Level) (bs : Bytes) : Level :=
  { l with items := (bs.map fun b => some (bytePiece b)).reverse ++ l.items }

-- The level after an alternation, of which some branches were read before.
def ofLiterals (branches : List Piece) : List Bytes → Level
  | [] => { branches }
  | [l] => Level.addBytes { branches } l
  | l :: ls => ofLiterals ((Level.addBytes { branches } l).branch :: branches) ls

def spelledPiece (l : Bytes) : Piece :=
  .sequence (l.map bytePiece)

theorem branch_addBytes (branches : List Piece) (l : Bytes) :
    (Level.addBytes { branches } l).branch = spelledPiece l := by
  simp [addBytes, branch, spelledPiece, Function.comp_def]

theorem value_ofLiterals {ls : List Bytes} (h : ls ≠ []) (branches : List Piece) :
    (ofLiterals branches ls).value = .oneOf (branches.reverse ++ ls.map spelledPiece) := by
  fun_induction ofLiterals branches ls
  case case1 => contradiction
  case case2 branches l =>
    rw [value, branch_addBytes]
    simp [addBytes]
  case case3 branches l ls hls ih =>
    rw [ih fun h => hls h]
    simp [branch_addBytes]

end Level

theorem escapeByte_ne_nil (b : UInt8) : escapeByte b ≠ [] := by
  rw [escapeByte]
  split
  case isTrue => exact List.cons_ne_nil _ _
  case isFalse => split <;> exact List.cons_ne_nil _ _

namespace Reader

variable {r : Reader}

theorem reads_escape (hf : r.flags = .bytewise) (l : Bytes) :
    Reads r (escape l) { r with level := r.level.addBytes l } := by
  -- The reader differs from byte to byte, in what it has read.
  induction l generalizing r
  case nil => exact .nil
  case cons b l ih =>
    let r₁ : Reader := { r with level := r.level.add (some (bytePiece b)) }
    have hb : Reads r (escapeByte b) r₁ :=
      .of_token (escapeByte_ne_nil b) (fun rest => hf ▸ Token.read?_escapeByte b rest) rfl
    have hl := hb.append (ih (r := r₁) hf)
    simpa [escape, Level.addBytes, Level.add, r₁] using hl

theorem reads_bar (hf : r.flags = .bytewise) :
    Reads r ['|'] { r with level := r.level.nextBranch } := by
  refine .of_token (t := .bar) (List.cons_ne_nil _ _) (fun rest => ?_) rfl
  rw [hf]
  rfl

theorem reads_alternation (hf : r.flags = .bytewise) (branches : List Piece) (ls : List Bytes) :
    Reads { r with level := { branches } } (alternation ls)
      { r with level := .ofLiterals branches ls } := by
  let start (branches : List Piece) : Reader := { r with level := { branches } }
  have hl (branches : List Piece) (l : Bytes) := reads_escape (r := start branches) hf l
  -- A bar ends a branch and leaves an empty one, so what follows is an alternation again.
  fun_induction Level.ofLiterals branches ls
  case case1 => exact .nil
  case case2 branches l => exact hl branches l
  case case3 branches l ls hls ih =>
    have ha : alternation (l :: ls) = escape l ++ (['|'] ++ alternation ls) := by
      cases ls
      case nil => exact absurd rfl (hls ·)
      case cons => rfl
    have hbar : Reads { r with level := .addBytes { branches } l } ['|'] (start _) := reads_bar hf
    exact ha ▸ (hl branches l).append (hbar.append ih)

end Reader

namespace Piece

theorem jointDepth_le {ps : List Piece} {n : Nat} (h : ∀ p ∈ ps, p.depth ≤ n) :
    jointDepth ps ≤ n + 1 := by
  fun_cases jointDepth ps
  case case1 => exact Nat.zero_le _
  case case2 p => exact Nat.le_succ_of_le (h p (List.mem_singleton_self p))
  case case3 =>
    refine Nat.succ_le_succ ((List.max?_le_iff List.max?_cons').mpr fun d hd => ?_)
    rcases List.mem_cons.mp hd with rfl | hd
    case inl => exact Nat.zero_le _
    case inr =>
      have ⟨p, hp, he⟩ := List.mem_map.mp hd
      exact he ▸ h p hp

-- What is searched for when a whole word has to match the piece.
def anchored (p : Piece) : Piece :=
  .oneOf [.sequence [{ regex := .empty }, { regex := .atom (.look .textStart) }, p.group none,
    { regex := .atom (.look .textStop) }]]

theorem depth_anchored (p : Piece) : p.anchored.depth = p.depth + 2 := by
  simp [anchored, oneOf, sequence, group, jointDepth]

end Piece

theorem piece?_whole {ls : List Bytes} (h : ls ≠ []) :
    piece? {} (whole (alternation ls)) = some (.anchored (.oneOf (ls.map Level.spelledPiece))) := by
  -- The reader after each part of the pattern.
  let r₁ : Reader := { flags := .bytewise, level := Level.add {} none }
  let r₂ : Reader := { r₁ with level := r₁.level.add (some { regex := .atom (.look .textStart) }) }
  let r₃ : Reader := { r₂ with level := {}, outer := [⟨r₂.level, .bytewise, none⟩] }
  let r₄ : Reader := { r₃ with level := .ofLiterals [] ls }
  let r₅ : Reader := { r₂ with level := r₂.level.add (some (r₄.level.value.group none)) }
  let r₆ : Reader := { r₅ with level := r₅.level.add (some { regex := .atom (.look .textStop) }) }
  have hflags : Reader.Reads { flags := {} } "(?s-u)".toList r₁ :=
    .of_token (t := .flags .bytewise) (List.cons_ne_nil _ _) (fun _ => rfl) rfl
  have hstart : Reader.Reads r₁ ['^'] r₂ :=
    .of_token (t := .piece _) (List.cons_ne_nil _ _) (fun _ => rfl) rfl
  have hopen : Reader.Reads r₂ "(?:".toList r₃ :=
    .of_token (t := .opening .bytewise .plain) (List.cons_ne_nil _ _) (fun _ => rfl) rfl
  have hliterals : Reader.Reads r₃ (alternation ls) r₄ :=
    Reader.reads_alternation (r := r₃) rfl [] ls
  have hclose : Reader.Reads r₄ [')'] r₅ :=
    .of_token (t := .closing) (List.cons_ne_nil _ _) (fun _ => rfl) rfl
  have hstop : Reader.Reads r₅ ['$'] r₆ :=
    .of_token (t := .piece _) (List.cons_ne_nil _ _) (fun _ => rfl) rfl
  have hall := hflags.append (hstart.append (hopen.append (hliterals.append (hclose.append hstop))))
  have hv : r₄.level.value = .oneOf (ls.map Level.spelledPiece) := Level.value_ofLiterals h []
  have hw : whole (alternation ls) =
      "(?s-u)".toList ++ (['^'] ++ ("(?:".toList ++ (alternation ls ++ ([')'] ++ ['$'])))) := rfl
  rw [piece?, hw, hall.read?_eq, ← hv]
  rfl

theorem depth_literals_le (ls : List Bytes) :
    (Piece.oneOf (ls.map Level.spelledPiece)).depth ≤ 2 := by
  refine Piece.jointDepth_le fun p hp => ?_
  have ⟨l, _, hl⟩ := List.mem_map.mp hp
  refine hl ▸ Piece.jointDepth_le fun q hq => ?_
  have ⟨b, _, hb⟩ := List.mem_map.mp hq
  exact hb ▸ Nat.le_refl 0

theorem wholeRegex?_alternation {ls : List Bytes} (h : ls ≠ []) :
    wholeRegex? (.ofList (alternation ls)) = some (.exactly ls) := by
  have hd : (Piece.anchored (.oneOf (ls.map Level.spelledPiece))).depth ≤ maxDepth :=
    Piece.depth_anchored _ ▸
      Nat.le_trans (Nat.add_le_add_right (depth_literals_le ls) 2) (by decide)
  have hr : (Piece.anchored (.oneOf (ls.map Level.spelledPiece))).regex = .exactly ls := by
    have hs : Piece.regex ∘ Level.spelledPiece = Regex.spelled := by
      funext l
      simp [Level.spelledPiece, Piece.sequence, Regex.spelled, bytePiece, Function.comp_def]
    simp [Piece.anchored, Piece.oneOf, Piece.sequence, Piece.group, Regex.exactly, Regex.anchored,
      hs]
  rw [wholeRegex?, String.toList_ofList, regex?, piece?_whole h]
  simp [hd, hr]

end Pattern
end WideTable
