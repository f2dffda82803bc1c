import WideTable.Filter.Apply
import WideTable.Proofs.Regex.Groups
import WideTable.Proofs.Regex.Literals

namespace WideTable.Pattern

-- All that has been read at this level is.
structure Level.Proper (l : Level) : Prop where
  branches : ∀ p ∈ l.branches, p.regex.Proper
  items    : ∀ p, some p ∈ l.items → p.regex.Proper

namespace Level.Proper

variable {l l' : Level}

theorem empty : Level.Proper {} where
  branches := by simp
  items := by simp

theorem add (h : l.Proper) {item : Option Piece} (hi : ∀ p ∈ item, p.regex.Proper) :
    (l.add item).Proper where
  branches := h.branches
  items p hp := by
    rcases List.mem_cons.mp hp with he | hp
    · exact hi p he.symm
    · exact h.items p hp

theorem branch (h : l.Proper) : l.branch.regex.Proper := by
  refine Regex.proper_sequence fun r hr => ?_
  simp only [List.map_map, List.mem_map, List.mem_reverse, Function.comp_apply] at hr
  obtain ⟨item, hm, rfl⟩ := hr
  cases item with
  | none => trivial
  | some p => exact h.items p hm

theorem nextBranch (h : l.Proper) : l.nextBranch.Proper where
  branches := List.forall_mem_cons.mpr ⟨h.branch, h.branches⟩
  items := by simp [Level.nextBranch]

theorem value (h : l.Proper) : l.value.regex.Proper := by
  refine Regex.proper_oneOf fun r hr => ?_
  simp only [List.mem_map, List.mem_reverse] at hr
  obtain ⟨p, hm, rfl⟩ := hr
  exact (List.forall_mem_cons (p := (·.regex.Proper))).mpr ⟨h.branch, h.branches⟩ p hm

theorem repeat? (h : l.Proper) {least : Nat} {most : Option Nat} {lazy : Bool}
    (hm : ∀ m ∈ most, least ≤ m) (hr : l.repeat? least most lazy = some l') : l'.Proper := by
  rw [Level.repeat?] at hr
  split at hr
  case h_1 p items hi =>
    cases hr
    have hp : p.regex.Proper := h.items p (hi ▸ .head _)
    refine ⟨h.branches, fun q hq => ?_⟩
    rcases List.mem_cons.mp hq with hq | hq
    · cases hq
      exact ⟨hm, hp⟩
    · exact h.items q (hi ▸ .tail _ hq)
  case h_2 => cases hr

end Level.Proper

theorem Piece.proper_group (number : Option Nat) {p : Piece} (h : p.regex.Proper) :
    (p.group number).regex.Proper := by
  cases number <;> exact h

namespace Reader

variable {r r' s : Reader} {t : Token} {cs : List Char}

structure Proper (r : Reader) : Prop where
  level : r.level.Proper
  outer : ∀ e ∈ r.outer, e.level.Proper

theorem Proper.open? (h : r.Proper) {f : Flags} {kind : Grouping} (ho : r.open? f kind = some r') :
    r'.Proper := by
  have houter (number : Option Nat) :
      ∀ e ∈ (⟨r.level, r.flags, number⟩ :: r.outer : List Enclosing), e.level.Proper :=
    List.forall_mem_cons.mpr ⟨h.level, h.outer⟩
  cases kind
  case named name =>
    by_cases hn : name ∈ r.names <;> simp only [Reader.open?, hn, if_true, if_false] at ho
    · cases ho
    · cases ho
      exact ⟨.empty, houter _⟩
  all_goals
    cases ho
    exact ⟨.empty, houter _⟩

theorem Proper.take? (h : r.Proper) (ht : t.Sound ∨ t = .closing) (hr : r.take? t = some r') :
    r'.Proper := by
  cases t
  case done => cases hr
  case piece p =>
    cases hr
    have hp : p.regex.Proper := ht.resolve_right Token.noConfusion
    exact ⟨h.level.add (by simpa using hp), h.outer⟩
  case flags f =>
    cases hr
    exact ⟨h.level.add (by simp), h.outer⟩
  case opening => exact h.open? hr
  case bar =>
    cases hr
    exact ⟨h.level.nextBranch, h.outer⟩
  case repetition least most lazy =>
    obtain ⟨l, hl, hr⟩ := Option.bind_eq_some_iff.mp hr
    cases hr
    exact ⟨h.level.repeat? (ht.resolve_right Token.noConfusion) hl, h.outer⟩
  case closing =>
    cases ho : r.outer with
    | nil => cases (take?_closing ho).symm.trans hr
    | cons up outer =>
      simp only [Reader.take?, ho] at hr
      cases hr
      obtain ⟨hup, houter⟩ := List.forall_mem_cons.mp (ho ▸ h.outer)
      refine ⟨hup.add fun p hp => ?_, houter⟩
      cases hp
      exact Piece.proper_group up.number h.level.value

theorem Ends.proper (h : Ends r cs s) (hr : r.Proper) : s.Proper := by
  induction h
  case stop => exact hr
  case next r r' s cs rest t ht htake _ ih =>
    refine ih (hr.take? ?_ htake)
    by_cases hc : t = .closing
    case pos => exact .inr hc
    case neg =>
      refine .inl (Token.sound_of_read? ht ?_ hc)
      rintro rfl
      cases htake

end Reader

theorem piece?_eq_some_iff {f : Flags} {cs : List Char} {p : Piece} :
    piece? f cs = some p ↔ ∃ s, Reader.Ends { flags := f } cs s ∧ s.finish? = some p :=
  Reader.read?_eq_some_iff (Nat.lt_succ_self _)

theorem finish?_eq_some_iff {r : Reader} {p : Piece} :
    r.finish? = some p ↔ r.outer = [] ∧ r.level.value = p := by
  simp [Reader.finish?]

theorem proper_of_piece? {f : Flags} {cs : List Char} {p : Piece} (h : piece? f cs = some p) :
    p.regex.Proper := by
  have ⟨s, hs, hp⟩ := piece?_eq_some_iff.mp h
  have ⟨_, hv⟩ := finish?_eq_some_iff.mp hp
  exact hv ▸ (hs.proper ⟨.empty, by simp⟩).level.value

namespace Reader

variable {s s' : Reader} {cs : List Char}

-- The reader at the beginning of a pattern on its own, and the group that is opened after the anchor.
def alone : Reader where
  flags := .bytewise

def anchoring : Enclosing where
  level := Level.add (Level.add {} none) (some { regex := .atom (.look .textStart) })
  flags := .bytewise
  number := none

theorem ends_whole : Ends { flags := {} } (whole cs) s ↔
    Ends (alone.inside anchoring) (cs ++ [')', '$']) s := by
  let r₁ : Reader := { flags := .bytewise, level := Level.add {} none }
  let r₂ : Reader := { r₁ with level := anchoring.level }
  have hflags (rest : List Char) :
      Token.read? {} ("(?s-u)".toList ++ rest) = some (.flags .bytewise, rest) := rfl
  have hstart (rest : List Char) : Token.read? .bytewise ('^' :: rest) =
      some (.piece { regex := .atom (.look .textStart) }, rest) := rfl
  have hopen (rest : List Char) : Token.read? .bytewise ("(?:".toList ++ rest) =
      some (.opening .bytewise .plain, rest) := rfl
  have hw : whole cs = "(?s-u)".toList ++ ('^' :: ("(?:".toList ++ (cs ++ [')', '$']))) := rfl
  have hr₁ : Reader.take? { flags := {} } (.flags .bytewise) = some r₁ := rfl
  have hr₂ : r₁.take? (.piece { regex := .atom (.look .textStart) }) = some r₂ := rfl
  rw [hw, Ends.next_iff (hflags _) hr₁, Ends.next_iff (hstart _) hr₂]
  exact Ends.next_iff (hopen _) rfl

-- The anchor at the end is all that is left to read.
theorem ends_stop (s : Reader) :
    ∃ s', Ends (s.closed anchoring) ['$'] s' ∧ s'.finish? = some s.level.value.anchored := by
  have hstop : Token.read? .bytewise ['$'] =
      some (.piece { regex := .atom (.look .textStop) }, []) := rfl
  exact ⟨_, .next hstop rfl (.stop rfl), rfl⟩

end Reader

open Reader (Closes alone)

variable {cs : List Char} {p : Piece} {s : Reader}

theorem piece?_whole_of_closes (h : Closes alone cs s) :
    piece? {} (whole cs) = some s.level.value.anchored := by
  have ⟨s', hs, hp⟩ := s.ends_stop
  exact piece?_eq_some_iff.mpr ⟨s', Reader.ends_whole.mpr (h.goes_on.mpr hs), hp⟩

theorem piece?_eq_none_of_closes (h : Closes alone cs s) (rest : List Char) :
    piece? .bytewise (cs ++ ')' :: rest) = none := by
  refine Option.eq_none_iff_forall_ne_some.mpr fun p hp => ?_
  have ⟨_, hs, _⟩ := piece?_eq_some_iff.mp hp
  exact h.refused hs

theorem piece?_of_closes (h : Closes alone cs s) : piece? .bytewise cs = some s.level.value :=
  piece?_eq_some_iff.mpr ⟨s, h.ends, finish?_eq_some_iff.mpr ⟨h.outer, rfl⟩⟩

-- The group is closed at the end of the pattern, or before.
theorem exists_closes_of_piece?_whole (h : piece? {} (whole cs) = some p) :
    (∃ s, Closes alone cs s) ∨
      ∃ before after s, cs = before ++ ')' :: after ∧ Closes alone before s := by
  have ⟨s', hs, hp⟩ := piece?_eq_some_iff.mp h
  have ⟨before, after, s, he, hc⟩ :=
    Reader.exists_closes (Reader.ends_whole.mp hs) (finish?_eq_some_iff.mp hp).left
  rcases List.append_eq_append_iff.mp he with ⟨extra, rfl, hx⟩ | ⟨extra, rfl, hx⟩
  · rcases extra with _ | ⟨c, _ | ⟨d, extra⟩⟩
    · exact .inl ⟨s, by simpa using hc⟩
    · simp at hx
    · simp at hx
  · cases extra with
    | nil => exact .inl ⟨s, by simpa using hc⟩
    | cons c extra =>
      cases hx
      exact .inr ⟨before, extra, s, rfl, hc⟩

-- A pattern on its own is taken, unless a comment at its end hides the `)`.
theorem piece?_whole_of_piece? (h : piece? .bytewise cs = some p) :
    piece? {} (whole cs) =
      if piece? .bytewise (cs ++ [')']) = none then some p.anchored else none := by
  have ⟨s, hs, hp⟩ := piece?_eq_some_iff.mp h
  have ⟨ho, hv⟩ := finish?_eq_some_iff.mp hp
  rcases hs.closes_or_swallows ho with hc | hswallow
  case inl => rw [if_pos (piece?_eq_none_of_closes hc []), piece?_whole_of_closes hc, hv]
  case inr =>
    have hsome : piece? .bytewise (cs ++ [')']) = some p := piece?_eq_some_iff.mpr ⟨s, hswallow, hp⟩
    rw [if_neg (by simp [hsome])]
    refine Option.eq_none_iff_forall_ne_some.mpr fun q hq => ?_
    rcases exists_closes_of_piece?_whole hq with ⟨_, hc⟩ | ⟨before, after, _, rfl, hc⟩
    · exact hc.refused hswallow
    · exact hc.refused hs

theorem wholeRegex?_of_piece? {pattern : String} (h : piece? .bytewise pattern.toList = some p) :
    wholeRegex? pattern =
      if piece? .bytewise (pattern.toList ++ [')']) = none ∧ p.depth + 2 ≤ maxDepth then
        some p.regex.anchored
      else none := by
  have hr : p.anchored.regex = p.regex.anchored := rfl
  rw [wholeRegex?, regex?, piece?_whole_of_piece? h]
  by_cases hn : piece? .bytewise (pattern.toList ++ [')']) = none
  case pos => simp [hn, Piece.depth_anchored, hr]
  case neg => simp [hn]

theorem compile_eq_ok_iff {pattern : String} {r : Regex} :
    compile (Bytes.ofText pattern) = .ok r ↔ wholeRegex? pattern = some r ∧ r.fits = true := by
  rw [compile, Bytes.text?_ofText]
  dsimp only
  cases wholeRegex? pattern with
  | none => exact iff_of_false (by rintro ⟨⟩) (by rintro ⟨⟨⟩, _⟩)
  | some r' =>
    cases hf : r'.fits <;> simpa [hf, pure, Except.pure] using fun h : r' = r => h ▸ hf

theorem exists_piece?_of_regex? {f : Flags} {inner : Regex} (h : regex? f cs = some inner) :
    ∃ p, piece? f cs = some p ∧ p.regex = inner := by
  have ⟨p, hp, h⟩ := Option.bind_eq_some_iff.mp h
  split at h <;> cases h
  exact ⟨p, hp, rfl⟩

-- The anchors are put around the pattern as it is on its own.
theorem eq_anchored_of_compile {pattern : String} {inner r : Regex}
    (hi : regex? .bytewise pattern.toList = some inner)
    (hc : compile (Bytes.ofText pattern) = .ok r) : r = inner.anchored ∧ inner.Proper := by
  obtain ⟨p, hp, rfl⟩ := exists_piece?_of_regex? hi
  have hw := (compile_eq_ok_iff.mp hc).left
  rw [wholeRegex?_of_piece? hp] at hw
  split at hw <;> cases hw
  exact ⟨rfl, proper_of_piece? hp⟩

-- The text stands inside of a group, and nothing keeps it from closing the group by itself, or from
-- hiding the `)` after it in a comment.
-- A text that is no pattern on its own is taken between anchors as well, if it closes the group around
-- it.
theorem isSome_wholeRegex?_of_alone_or_split (pattern : String) :
    (∀ p, piece? .bytewise pattern.toList = some p →
      ((wholeRegex? pattern).isSome ↔
        p.depth + 2 ≤ maxDepth ∧ piece? .bytewise (pattern.toList ++ [')']) = none)) ∧
    (piece? .bytewise pattern.toList = none → (wholeRegex? pattern).isSome →
      ∃ before after, pattern.toList = before ++ ')' :: after ∧
        (piece? .bytewise before).isSome ∧
        ∀ rest, piece? .bytewise (before ++ ')' :: rest) = none) := by
  refine ⟨fun p hp => ?alone, fun hn hs => ?split⟩
  case alone =>
    rw [wholeRegex?_of_piece? hp, and_comm (a := p.depth + 2 ≤ maxDepth)]
    split
    case isTrue h => simp [h]
    case isFalse h => simpa using h
  case split =>
    have ⟨r, hr⟩ := Option.isSome_iff_exists.mp hs
    have ⟨p, hp, _⟩ := Option.bind_eq_some_iff.mp hr
    rcases exists_closes_of_piece?_whole hp with ⟨s, hc⟩ | ⟨before, after, s, he, hc⟩
    · rw [piece?_of_closes hc] at hn
      cases hn
    · exact ⟨before, after, he, by rw [piece?_of_closes hc]; rfl, piece?_eq_none_of_closes hc⟩

-- The first text is no pattern, and what is made of it matches a part of a word. The second one is a
-- pattern that is refused.
theorem wholeRegex?_of_split_and_hidden :
    (∃ r, regex? .bytewise "a)|(?:b".toList = none ∧ compile (Bytes.ofText "a)|(?:b") = .ok r ∧
      r.occursIn (Bytes.ofText "ax") = true) ∧
    ∃ p, piece? .bytewise "(?x)a #c".toList = some p ∧ p.depth + 2 ≤ maxDepth ∧
      wholeRegex? "(?x)a #c" = none := by
  constructor
  · have hn : (regex? .bytewise "a)|(?:b".toList).isNone := by decide +kernel
    have hs : ((compile (Bytes.ofText "a)|(?:b")).toOption.any
      (·.occursIn (Bytes.ofText "ax"))) = true := by decide +kernel
    cases hc : compile (Bytes.ofText "a)|(?:b") <;> rw [hc] at hs
    · cases hs
    · exact ⟨_, Option.isNone_iff_eq_none.mp hn, rfl, hs⟩
  · have hs : ((piece? .bytewise "(?x)a #c".toList).any (·.depth + 2 ≤ maxDepth)) = true := by
      decide +kernel
    have hn : (wholeRegex? "(?x)a #c").isNone := by decide +kernel
    have ⟨p, hp, hd⟩ := Option.any_eq_true _ _ |>.mp hs
    exact ⟨p, hp, of_decide_eq_true hd, Option.isNone_iff_eq_none.mp hn⟩

end WideTable.Pattern
