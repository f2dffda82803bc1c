import WideTable.Proofs.Regex.Delimited
import WideTable.Regex.Pattern

namespace WideTable.Pattern

open Reading

variable {f : Flags} {spaced : Bool}

namespace Symbol

theorem hexDigits?_succ (spaced : Bool) (count n : Nat) :
    hexDigits? spaced (count + 1) n = uncons fun c =>
      match Hex.value? c with
      | some d => afterSkip spaced (hexDigits? spaced count (16 * n + d))
      | none => ofOption none := by
  funext cs
  cases cs with
  | nil => rfl
  | cons c cs =>
    rw [hexDigits?, uncons]
    cases Hex.value? c <;> rfl

theorem delimited_hexDigits? (spaced : Bool) (count n : Nat) :
    Delimited 0 (hexDigits? spaced count n) := by
  induction count generalizing n
  case zero => exact .ofOption (some n)
  case succ count ih =>
    rw [hexDigits?_succ]
    refine .uncons fun c => ?_
    cases Hex.value? c with
    | none => exact .ofOption none
    | some d => exact (ih _).afterSkip

theorem readHex?_eq (spaced : Bool) (digits : Nat) :
    readHex? spaced digits = afterSkip spaced (onHead '\x7b'
      (upTo spaced '\x7d' fun number =>
        afterSkip spaced (ofOption ((Hex.number? number).bind char? |>.map (literal · false))))
      (andThen (hexDigits? spaced digits 0) fun n =>
        ofOption ((char? n).map (literal · (digits = 2))))) := by
  funext cs
  rw [readHex?, afterSkip]
  split
  case h_1 cs' h =>
    rw [h, onHead_cons]
    split
    case h_1 number rest hc =>
      rw [upTo_of_eq hc]
      cases Hex.number? number with
      | none => rfl
      | some n => cases hn : char? n <;> simp [afterSkip, ofOption, hn]
    case h_2 hc => exact (upTo_eq_none hc).symm
  case h_2 h =>
    rw [onHead_of_ne h, andThen]
    cases hexDigits? spaced digits 0 (skip spaced cs) with
    | none => rfl
    | some x => cases hn : char? x.1 <;> simp [ofOption, hn]

theorem delimited_readHex? (spaced : Bool) (digits : Nat) :
    Delimited 0 (readHex? spaced digits) := by
  rw [readHex?_eq]
  refine .afterSkip (.onHead (by decide) (.upTo (by decide) fun number => ?_) ?_)
  · exact (Delimited.ofOption _).afterSkip
  · exact (delimited_hexDigits? spaced digits 0).andThen fun n => .ofOption _

theorem readProperty?_eq (spaced negated : Bool) :
    readProperty? spaced negated = afterSkip spaced (onHead '\x7b'
      (upTo spaced '\x7d' fun query =>
        ofOption ((Text.Property.ofText? query).map (property · negated)))
      (uncons fun c =>
        afterSkip spaced (ofOption ((Text.Property.ofLetter? c).map (property · negated))))) := by
  funext cs
  rw [readProperty?, afterSkip]
  split
  case h_1 h => rw [h]; rfl
  case h_2 h =>
    rw [h, onHead_cons]
    split
    case h_1 query rest hc =>
      rw [upTo_of_eq hc]
      cases Text.Property.ofText? query <;> rfl
    case h_2 hc => exact (upTo_eq_none hc).symm
  case h_3 c cs hne h =>
    rw [h, onHead_of_ne fun ds he => hne (List.cons.inj he).left, uncons]
    cases Text.Property.ofLetter? c <;> rfl

theorem delimited_readProperty? (spaced negated : Bool) :
    Delimited 0 (readProperty? spaced negated) := by
  rw [readProperty?_eq]
  refine .afterSkip (.onHead (by decide) (.upTo (by decide) fun query => .ofOption _) ?_)
  exact .uncons fun c => (Delimited.ofOption _).afterSkip

-- After `\b`, a brace that only blanks and comments follow hangs on what comes next.
def Dangling (spaced : Bool) (cs : List Char) : Prop :=
  ∃ inner, cs = '\x7b' :: inner ∧ skip spaced inner = []

-- The name of an edge between braces.
def readEdgeName? (spaced : Bool) : Reading Symbol :=
  onHead '\x7b'
    (andThen (collecting spaced isEdgeLetter) fun name =>
      onHead '\x7d' (ofOption ((edge? name).map wordEdge)) (ofOption none))
    (ofOption none)

theorem delimited_readEdgeName? (spaced : Bool) : Delimited 0 (readEdgeName? spaced) := by
  refine .onHead (by decide) (.andThen (.collecting rfl) fun name => ?_) (.ofOption none)
  exact .onHead (by decide) (.ofOption _) (.ofOption none)

theorem readEdge?_of_ne {cs : List Char} (h : ∀ inner, cs ≠ '\x7b' :: inner) :
    readEdge? spaced cs = some (wordEdge .boundary, cs) := by
  rw [readEdge?]
  exact h

theorem readEdge?_of_skip_nil {inner : List Char} (h : skip spaced inner = []) :
    readEdge? spaced ('\x7b' :: inner) = none := by
  simp [readEdge?, h]

theorem readEdge?_of_skip_cons {inner rest : List Char} {c : Char}
    (h : skip spaced inner = c :: rest) :
    readEdge? spaced ('\x7b' :: inner) =
      if isEdgeLetter c then readEdgeName? spaced ('\x7b' :: inner)
      else some (wordEdge .boundary, '\x7b' :: inner) := by
  rw [readEdge?]
  simp only [h]
  split
  case isTrue =>
    rw [readEdgeName?, onHead_cons, andThen, collecting, Option.bind_some]
    split
    case h_1 name rest hc =>
      rw [hc, onHead_cons]
      cases edge? name <;> rfl
    case h_2 hc =>
      rw [onHead_of_ne fun ds he => hc _ _ (Prod.ext rfl he)]
      rfl
  case isFalse => rfl

theorem suffix_of_readEdge? {cs : List Char} {x : Symbol × List Char}
    (h : readEdge? spaced cs = some x) : x.2 <:+ cs := by
  by_cases hb : ∃ inner, cs = '\x7b' :: inner
  case neg =>
    rw [readEdge?_of_ne fun inner hi => hb ⟨inner, hi⟩] at h
    cases h
    exact List.suffix_rfl
  case pos =>
    obtain ⟨inner, rfl⟩ := hb
    cases hs : skip spaced inner
    case nil =>
      rw [readEdge?_of_skip_nil hs] at h
      cases h
    case cons c rest =>
      rw [readEdge?_of_skip_cons hs] at h
      split at h
      case isTrue => exact (delimited_readEdgeName? spaced).suffix h
      case isFalse =>
        cases h
        exact List.suffix_rfl

theorem within_or_beyond_readEdge? {cs : List Char} (h : ¬Dangling spaced cs) :
    Within (readEdge? spaced) cs ∨ Beyond 0 (readEdge? spaced) cs := by
  by_cases hb : ∃ inner, cs = '\x7b' :: inner
  case neg =>
    -- The `)` is no brace either.
    have hn : ∀ inner, cs ≠ '\x7b' :: inner := fun inner hi => hb ⟨inner, hi⟩
    refine .inl fun t => ?_
    rw [readEdge?_of_ne hn, readEdge?_of_ne]
    · rfl
    · intro inner hi
      cases cs with
      | nil => cases hi
      | cons c cs => exact hn cs (congrArg (· :: cs) (List.cons.inj hi).left)
  case pos =>
    obtain ⟨inner, rfl⟩ := hb
    cases hs : skip spaced inner
    case nil => exact absurd ⟨inner, rfl, hs⟩ h
    case cons c rest =>
      have ht (t : List Char) : skip spaced (inner ++ ')' :: t) = c :: rest ++ ')' :: t := by
        rw [skip_append_of_ne (by simp [hs]), hs]
      by_cases hc : isEdgeLetter c = true
      case pos =>
        refine within_or_beyond_congr
          ((delimited_readEdgeName? spaced).within_or_beyond ('\x7b' :: inner)) ?_ fun t => ?_
        · rw [readEdge?_of_skip_cons hs, if_pos hc]
        · rw [List.cons_append, readEdge?_of_skip_cons (ht t), if_pos hc]
      case neg =>
        refine .inl fun t => ?_
        rw [List.cons_append, readEdge?_of_skip_cons (ht t), readEdge?_of_skip_cons hs, if_neg hc,
          if_neg hc]
        rfl

-- Either the letters of a name come after the `)`, or the brace is left to be read again.
theorem readEdge?_of_dangling {cs : List Char} (h : Dangling spaced cs) :
    readEdge? spaced cs = none ∧ ∀ {t x}, readEdge? spaced (cs ++ ')' :: t) = some x →
      x.2.length ≤ t.length ∨ x = (wordEdge .boundary, cs ++ ')' :: t) := by
  obtain ⟨inner, rfl, hn⟩ := h
  refine ⟨readEdge?_of_skip_nil hn, fun {t x} hx => ?_⟩
  rw [List.cons_append] at hx ⊢
  cases hs : skip spaced (inner ++ ')' :: t)
  case nil =>
    rw [readEdge?_of_skip_nil hs] at hx
    cases hx
  case cons c rest =>
    rw [readEdge?_of_skip_cons hs] at hx
    split at hx
    case isFalse =>
      cases hx
      exact .inr rfl
    case isTrue =>
      have hi : readEdgeName? spaced ('\x7b' :: inner) = none := by
        rw [readEdgeName?, onHead_cons, andThen, collecting, collect_of_skip_nil hn]
        rfl
      rcases (delimited_readEdgeName? spaced).within_or_beyond ('\x7b' :: inner) with hw | hb
      · have hw := hw t
        rw [hi, List.cons_append, hx] at hw
        cases hw
      · exact .inl (hb.past hx)

theorem exists_readEscape?_eq {c : Char} (hc : c ≠ 'b') (spaced : Bool) :
    ∃ g, Delimited 0 g ∧ ∀ cs, readEscape? spaced (c :: cs) = g cs := by
  simp only [readEscape?]
  split
  case h_1 => exact ⟨_, delimited_readHex? spaced 2, fun _ => rfl⟩
  case h_2 => exact ⟨_, delimited_readHex? spaced 4, fun _ => rfl⟩
  case h_3 => exact ⟨_, delimited_readHex? spaced 8, fun _ => rfl⟩
  case h_4 => exact ⟨_, delimited_readProperty? spaced false, fun _ => rfl⟩
  case h_5 => exact ⟨_, delimited_readProperty? spaced true, fun _ => rfl⟩
  case h_6 => contradiction
  case h_7 =>
    cases readEscape?.simple? c with
    | some symbol => exact ⟨_, .ofOption (some symbol), fun _ => rfl⟩
    | none =>
      refine ⟨_, .ofOption (if isEscapable c then some (literal c false) else none), fun _ => ?_⟩
      dsimp only
      split <;> rfl

theorem suffix_of_readEscape? {cs : List Char} {x : Symbol × List Char}
    (h : readEscape? spaced cs = some x) : x.2 <:+ cs.tail := by
  cases cs with
  | nil => cases h
  | cons c cs =>
    by_cases hc : c = 'b'
    case pos =>
      subst hc
      exact suffix_of_readEdge? h
    case neg =>
      have ⟨g, hg, he⟩ := exists_readEscape?_eq hc spaced
      exact hg.suffix (he cs ▸ h)

theorem within_or_beyond_readEscape? {cs : List Char}
    (h : ∀ ds, cs = 'b' :: ds → ¬Dangling spaced ds) :
    Within (readEscape? spaced) cs ∨ Beyond 0 (readEscape? spaced) cs := by
  cases cs with
  | nil => exact .inr (.of_none rfl fun hx => (suffix_of_readEscape? hx).length_le)
  | cons c cs =>
    by_cases hc : c = 'b'
    case pos =>
      subst hc
      exact within_or_beyond_congr (within_or_beyond_readEdge? (h cs rfl)) rfl fun t => rfl
    case neg =>
      have ⟨g, hg, he⟩ := exists_readEscape?_eq hc spaced
      exact within_or_beyond_congr (hg.within_or_beyond cs) (he cs) fun t => he _

end Symbol

namespace Flags

-- The flags after those that were seen, and what they ask for.
def reading (f : Flags) (seen : List Char) : Reading (Flags × Bool × Bool) :=
  fun cs => (read?.go f seen cs).map fun s => ((s.flags, s.given, s.opens), s.rest)

theorem reading_stop (f : Flags) (seen : List Char) {c : Char} (hc : c = ')' ∨ c = ':')
    (cs : List Char) :
    reading f seen (c :: cs) =
      if seen.head? = some '-' then none else some ((f, !seen.isEmpty, decide (c = ':')), cs) := by
  rw [reading, read?.go, if_pos hc]
  split <;> rfl

-- Without a stop there is one reading for what follows a flag or a sign.
theorem exists_reading_eq (f : Flags) (seen : List Char) {c : Char} (hc : ¬(c = ')' ∨ c = ':')) :
    (∀ cs, reading f seen (c :: cs) = none) ∨
      ∃ f' seen', ∀ cs, reading f seen (c :: cs) = reading f' seen' cs := by
  simp only [reading, read?.go, if_neg hc]
  split
  case isTrue => exact .inl fun _ => rfl
  case isFalse =>
    split
    case isTrue => exact .inr ⟨f, c :: seen, fun _ => rfl⟩
    case isFalse =>
      cases f.set? ('-' ∉ seen) c with
      | none => exact .inl fun _ => rfl
      | some f' => exact .inr ⟨f', c :: seen, fun _ => rfl⟩

theorem delimited_reading (f : Flags) (seen : List Char) : Delimited 0 (reading f seen) where
  suffix {cs x} hx := by
    induction cs generalizing f seen
    case nil => cases hx
    case cons c cs ih =>
      refine List.IsSuffix.trans ?_ (List.suffix_cons c cs)
      by_cases hc : c = ')' ∨ c = ':'
      case pos =>
        rw [reading_stop f seen hc] at hx
        split at hx <;> cases hx
        exact List.suffix_rfl
      case neg =>
        rcases exists_reading_eq f seen hc with hn | ⟨f', seen', he⟩
        · rw [hn] at hx
          cases hx
        · exact ih f' seen' (he cs ▸ hx)
  within_or_beyond cs := by
    induction cs generalizing f seen
    case nil =>
      -- The `)` ends the flags.
      refine .inr (.of_none rfl fun {t x} hx => ?_)
      rw [List.nil_append, reading_stop f seen (.inl rfl)] at hx
      split at hx <;> cases hx
      exact Nat.le_refl _
    case cons c cs ih =>
      by_cases hc : c = ')' ∨ c = ':'
      case pos =>
        refine .inl fun t => ?_
        rw [List.cons_append, reading_stop f seen hc, reading_stop f seen hc]
        split <;> rfl
      case neg =>
        rcases exists_reading_eq f seen hc with hn | ⟨f', seen', he⟩
        · exact .inl fun t => by rw [List.cons_append, hn, hn]; rfl
        · exact within_or_beyond_congr (ih f' seen') (he cs) fun t => he _

end Flags

namespace Token

theorem readName?_eq (f : Flags) :
    readName? f = upTo false '>' fun name => ofOption <|
      match name with
      | c :: name =>
        if (c == '_' || Text.isAlphabetic c) && name.all isNameChar then
          some (opening f (.named (c :: name)))
        else none
      | [] => none := by
  funext cs
  rw [readName?]
  split
  case h_1 c name rest hc =>
    have hc : collect false (· != '>') cs = (c :: name, '>' :: rest) := hc
    rw [upTo_of_eq hc, ofOption]
    dsimp only
    split <;> rfl
  case h_2 hc =>
    by_cases hs : ∃ rest, collect false (· != '>') cs = ([], '>' :: rest)
    case pos =>
      have ⟨rest, hs⟩ := hs
      rw [upTo_of_eq hs]
      rfl
    case neg =>
      refine (upTo_eq_none fun name rest hn => ?_).symm
      cases name with
      | nil => exact hs ⟨rest, hn⟩
      | cons c name => exact hc _ _ _ hn

theorem delimited_readName? (f : Flags) : Delimited 0 (readName? f) := by
  rw [readName?_eq]
  exact .upTo (by decide) fun name => .ofOption _

-- What a list of flags is: the head of a group, or an item on its own if it holds something.
def ofFlags? : Flags × Bool × Bool → Option Token
  | (f, _, true) => some (opening f .plain)
  | (f, true, false) => some (flags f)
  | (_, false, false) => none

theorem readFlags?_eq (f : Flags) (cs : List Char) :
    (do
      let setting ← f.read? cs
      if setting.opens then return (opening setting.flags .plain, setting.rest)
      else if setting.given then return (flags setting.flags, setting.rest)
      else none) = andThen (f.reading []) (ofOption ∘ ofFlags?) cs := by
  have hr : f.reading [] cs = (f.read? cs).map fun s => ((s.flags, s.given, s.opens), s.rest) := rfl
  rw [andThen, hr]
  cases f.read? cs with
  | none => rfl
  | some s =>
    obtain ⟨g, given, opens, rest⟩ := s
    cases opens <;> cases given <;> rfl

theorem readOpening?_eq (f : Flags) :
    readOpening? f = afterSkip f.spaced (onHead '?'
      (onHead '=' (ofOption none) <| onHead '!' (ofOption none) <|
        onHead '<' (onHead '=' (ofOption none) <| onHead '!' (ofOption none) (readName? f)) <|
        onHead 'P' (onHead '<' (readName? f) (ofOption none)) <|
        andThen (f.reading []) (ofOption ∘ ofFlags?))
      (ofOption (some (opening f .numbered)))) := by
  funext cs
  rw [readOpening?, afterSkip]
  split
  case h_1 h | h_2 h | h_3 h | h_4 h | h_5 h => rw [h]; rfl
  case h_6 cs he hx h =>
    have hn : '<' ≠ '=' ∧ '<' ≠ '!' := by decide
    rw [h, onHead_cons, onHead_cons_of_ne hn.left, onHead_cons_of_ne hn.right, onHead_cons,
      onHead_of_ne fun ds hd => he ds (hd ▸ rfl), onHead_of_ne fun ds hd => hx ds (hd ▸ rfl)]
  case h_7 cs he hx hle hlx hP hl h =>
    rw [h, onHead_cons, onHead_of_ne fun ds hd => he ds (hd ▸ rfl),
      onHead_of_ne fun ds hd => hx ds (hd ▸ rfl), onHead_of_ne fun ds hd => hl ds (hd ▸ rfl),
      readFlags?_eq]
    by_cases hp : ∃ ds, cs = 'P' :: ds
    case pos =>
      obtain ⟨ds, rfl⟩ := hp
      rw [onHead_cons, onHead_of_ne fun es hd => hP es (hd ▸ rfl)]
      rfl
    case neg => rw [onHead_of_ne fun ds hd => hp ⟨ds, hd⟩]
  case h_8 hne => rw [onHead_of_ne hne]; rfl

theorem delimited_readOpening? (f : Flags) : Delimited 0 (readOpening? f) := by
  rw [readOpening?_eq]
  have hname := delimited_readName? f
  have hnone : Delimited 0 (ofOption none : Reading Token) := .ofOption none
  refine .afterSkip (.onHead (by decide) ?_ (.ofOption _))
  refine .onHead (by decide) hnone (.onHead (by decide) hnone (.onHead (by decide) ?_ ?_))
  · exact .onHead (by decide) hnone (.onHead (by decide) hnone hname)
  · refine .onHead (by decide) (.onHead (by decide) hname hnone) ?_
    exact (Flags.delimited_reading f []).andThen fun _ => .ofOption _

theorem ofCounts_eq (f : Flags) (least : Nat) (most : Option Nat) :
    (fun cs => some (ofCounts f least most cs)) =
      onHead '?' (ofOption (some (repetition least most (!f.swapGreed))))
        (ofOption (some (repetition least most f.swapGreed))) := by
  funext cs
  rw [ofCounts.eq_def]
  split
  case h_1 => rfl
  case h_2 h => rw [onHead_of_ne h]; rfl

theorem delimited_ofCounts (f : Flags) (least : Nat) (most : Option Nat) :
    Delimited 0 fun cs => some (ofCounts f least most cs) := by
  rw [ofCounts_eq]
  exact .onHead (by decide) (.ofOption _) (.ofOption _)

theorem readCount?_eq (f : Flags) :
    readCount? f = afterBlanks (andThen (collecting f.spaced isDigit) fun digits =>
      let n := digits.foldl (fun n d => 10 * n + (d.toNat - '0'.toNat)) 0
      afterBlanks (ofOption (if digits ≠ [] ∧ n < UInt32.size then some n else none))) := by
  funext cs
  rw [readCount?, afterBlanks, andThen, collecting, Option.bind_some]
  split
  case h_1 h => rw [h]; rfl
  case h_2 digits rest hne h =>
    have hd : digits ≠ [] := fun hd => hne (hd ▸ rfl)
    rw [h]
    simp only [afterBlanks, ofOption, hd, ne_eq, not_false_eq_true, true_and]
    split <;> rfl

theorem delimited_readCount? (f : Flags) : Delimited 0 (readCount? f) := by
  rw [readCount?_eq]
  exact .afterBlanks (.andThen (.collecting rfl) fun digits => (Delimited.ofOption _).afterBlanks)

-- What follows the least count: the most one, which is the same if there is no comma.
def readMost? (f : Flags) (least : Nat) : Reading (Option Nat) :=
  onHead ','
    (afterSkip f.spaced fun cs =>
      if cs.head? = some '\x7d' then ofOption (some none) cs
      else andThen (readCount? f) (fun most => ofOption (some (some most))) cs)
    (ofOption (some (some least)))

theorem delimited_readMost? (f : Flags) (least : Nat) : Delimited 0 (readMost? f least) := by
  refine .onHead (by decide) (.afterSkip (.ite (fun cs t => ?_) (.ofOption _) ?_)) (.ofOption _)
  · cases cs <;> simp
  · exact (delimited_readCount? f).andThen fun most => .ofOption _

-- The closing brace, and whether the repetition is lazy.
def readClosing? (f : Flags) (least : Nat) (most : Option Nat) : Reading Token :=
  onHead '\x7d'
    (if most.all (least ≤ ·) then afterSkip f.spaced fun cs => some (ofCounts f least most cs)
    else ofOption none)
    (ofOption none)

theorem readClosing?_eq (f : Flags) (least : Nat) (most : Option Nat) (cs : List Char) :
    readClosing? f least most cs =
      match cs with
      | '\x7d' :: rest =>
        if most.all (least ≤ ·) then return ofCounts f least most (skip f.spaced rest) else none
      | _ => none := by
  split
  case h_1 rest =>
    rw [readClosing?, onHead_cons]
    split <;> rfl
  case h_2 h =>
    rw [readClosing?, onHead_of_ne fun ds hd => h ds hd]
    rfl

theorem delimited_readClosing? (f : Flags) (least : Nat) (most : Option Nat) :
    Delimited 0 (readClosing? f least most) := by
  refine .onHead (by decide) ?_ (.ofOption none)
  split
  case isTrue => exact (delimited_ofCounts f least most).afterSkip
  case isFalse => exact .ofOption none

theorem readRepetition?_eq (f : Flags) :
    readRepetition? f = afterSkip f.spaced (andThen (readCount? f) fun least =>
      andThen (readMost? f least) (readClosing? f least)) := by
  funext cs
  rw [readRepetition?, afterSkip, andThen]
  cases readCount? f (skip f.spaced cs) with
  | none => rfl
  | some x =>
    obtain ⟨least, cs⟩ := x
    simp only [Option.bind_eq_bind, Option.bind_some]
    rw [andThen, readMost?]
    split
    case h_1 cs =>
      rw [onHead_cons, afterSkip]
      split
      case h_1 cs' h =>
        rw [h, if_pos (List.head?_cons ..)]
        exact (readClosing?_eq f least none ('\x7d' :: cs')).symm
      case h_2 h =>
        have hn : (skip f.spaced cs).head? ≠ some '\x7d' := by
          cases hs : skip f.spaced cs with
          | nil => simp
          | cons c rest => simpa using fun hc : c = '\x7d' => h rest (hc ▸ hs)
        rw [if_neg hn, andThen]
        cases readCount? f (skip f.spaced cs) with
        | none => rfl
        | some x => exact (readClosing?_eq f least (some x.1) x.2).symm
    case h_2 h =>
      rw [onHead_of_ne fun ds hd => h ds hd]
      exact (readClosing?_eq f least (some least) cs).symm

theorem delimited_readRepetition? (f : Flags) : Delimited 0 (readRepetition? f) := by
  rw [readRepetition?_eq]
  refine .afterSkip ((delimited_readCount? f).andThen fun least => ?_)
  exact (delimited_readMost? f least).andThen fun most => delimited_readClosing? f least most

end Token
end WideTable.Pattern
