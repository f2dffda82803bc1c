import WideTable.Proofs.Regex.Parts

namespace WideTable.Pattern

open Reading

variable {f : Flags} {spaced : Bool} {cs : List Char} {k : Nat}

-- The members that a class begins with, after the sign that negates it and its dashes.
-- A class does not end before its `]`, so one that is still open where the text ends takes the `)` as a
-- member.
def readBracket? (f : Flags) (negated : Bool) (dashes : List Char) : Reading ClassFrame :=
  let members := dashes.map fun _ => { codes := .single 0x2d }
  nonempty <|
    if dashes = [] then
      onHead ']'
        (afterSkip f.spaced (nonempty
          (ofOption (some { negated, members := [{ codes := .single 0x5d }] }))))
        (ofOption (some { negated, members }))
    else ofOption (some { negated, members })

theorem delimited_readBracket? (f : Flags) (negated : Bool) (dashes : List Char) :
    Delimited 1 (readBracket? f negated dashes) := by
  refine .nonempty ?_
  split
  case isTrue => exact .onHead (by decide) (.afterSkip (.nonempty (.ofOption _))) (.ofOption _)
  case isFalse => exact .ofOption _

theorem openClass?_eq (f : Flags) :
    openClass? f = afterSkip f.spaced
      (onHead '^'
        (afterSkip f.spaced
          (andThen (collecting f.spaced (· == '-')) (readBracket? f true)))
        (andThen (collecting f.spaced (· == '-')) (readBracket? f false))) := by
  funext cs
  rw [openClass?, afterSkip]
  split
  case h_1 negated rest hsign =>
    have hs : onHead '^'
        (afterSkip f.spaced (andThen (collecting f.spaced (· == '-')) (readBracket? f true)))
        (andThen (collecting f.spaced (· == '-')) (readBracket? f false)) (skip f.spaced cs) =
          andThen (collecting f.spaced (· == '-')) (readBracket? f negated) rest := by
      split at hsign
      case h_1 h =>
        cases hsign
        rw [h, onHead_cons, afterSkip]
      case h_2 h =>
        cases hsign
        exact onHead_of_ne fun ds hd => h ds hd
    -- A `]` that comes first, without dashes before it, is a member.
    rw [hs, andThen, collecting, Option.bind_some]
    split
    case h_1 hc => rw [hc, readBracket?, nonempty]
    case h_2 cs hc =>
      rw [hc, readBracket?, if_pos rfl, nonempty, onHead_cons, afterSkip]
      cases skip f.spaced cs <;> rfl
    case h_3 dashes cs hn hne hc =>
      rw [hc]
      cases cs with
      | nil => exact absurd rfl hn
      | cons c cs =>
        by_cases hd : dashes = []
        case neg => simp [readBracket?, nonempty, hd, ofOption]
        case pos =>
          subst hd
          have hc : c ≠ ']' := fun hc => hne cs rfl (hc ▸ rfl)
          simp [readBracket?, nonempty, hc, ofOption]

theorem delimited_openClass? (f : Flags) : Delimited 1 (openClass? f) := by
  have hb (negated : Bool) : Delimited 1
      (andThen (collecting f.spaced (· == '-')) (readBracket? f negated)) :=
    .andThen (.collecting rfl) (delimited_readBracket? f negated)
  rw [openClass?_eq]
  exact .afterSkip (.onHead (by decide) (hb true).afterSkip (hb false))

theorem not_mem_of_asciiClass? {name : List Char} {set : Text.CodeSet}
    (h : asciiClass? name = some set) : ')' ∉ name := by
  rw [asciiClass?] at h
  split at h
  case h_15 => cases h
  all_goals
    rename_i hn
    have hl := congrArg String.toList hn
    rw [String.toList_ofList] at hl
    rw [hl]
    decide

-- The name up to the next colon, and what closes it.
def readAsciiName? (f : Flags) (negated : Bool) : Reading ClassSet :=
  upTo false ':' fun name =>
    onHead ']'
      (ofOption ((asciiClass? name).map fun set => { codes := f.flip negated (f.spread set) }))
      (ofOption none)

theorem readAsciiClass?_eq (f : Flags) :
    readAsciiClass? f =
      onHead ':' (onHead '^' (readAsciiName? f true) (readAsciiName? f false)) (ofOption none) := by
  funext cs
  rw [readAsciiClass?.eq_def]
  split
  case h_2 hne => rw [onHead_of_ne fun ds hd => hne ds hd]; rfl
  case h_1 cs =>
    rw [onHead_cons]
    split
    case h_1 negated rest hsign =>
      have hs : onHead '^' (readAsciiName? f true) (readAsciiName? f false) cs =
          readAsciiName? f negated rest := by
        split at hsign
        case h_1 =>
          cases hsign
          exact onHead_cons ..
        case h_2 h =>
          cases hsign
          exact onHead_of_ne fun ds hd => h ds hd
      rw [hs]
      split
      case h_1 name rest hc =>
        have hc : collect false (· != ':') _ = (name, ':' :: ']' :: rest) := hc
        rw [readAsciiName?, upTo_of_eq hc, onHead_cons]
        cases asciiClass? name <;> rfl
      case h_2 hne =>
        by_cases hc : ∃ name rest', collect false (· != ':') rest = (name, ':' :: rest')
        case pos =>
          obtain ⟨name, rest', hc⟩ := hc
          rw [readAsciiName?, upTo_of_eq hc, onHead_of_ne fun ds hd => hne _ _ (hd ▸ hc)]
          rfl
        case neg => exact (upTo_eq_none fun name rest' hn => hc ⟨name, rest', hn⟩).symm

theorem within_readAsciiName? (f : Flags) (negated : Bool) (cs : List Char) :
    Within (readAsciiName? f negated) cs := by
  intro t
  cases collected false (· != ':') cs
  case within hw =>
    rw [readAsciiName?, upTo, upTo, hw t]
    refine within_onHead (by decide) (within_onHead (by decide) ?_ ?_) ?_ _ t
    all_goals exact within_ofOption _
  case beyond hn _ _ =>
    -- A name that is not over where the text ends holds the `)`.
    have hl : readAsciiName? f negated cs = none := congrArg (onHead ':' _ _) hn
    rw [hl, Option.map_none, Option.eq_none_iff_forall_ne_some]
    intro x hx
    obtain ⟨name, rest, hc, hx⟩ := exists_of_upTo hx
    have hp : ∀ c ∈ cs, (c != ':') = true := by simpa [collect] using hn
    have hm : ')' ∈ name := by
      have hc : (cs ++ ')' :: t).takeWhile (· != ':') = name := by
        simpa [collect] using congrArg Prod.fst hc
      rw [← hc, List.takeWhile_append_of_pos hp]
      simp
    cases hs : asciiClass? name with
    | some set => exact not_mem_of_asciiClass? hs hm
    | none =>
      rw [hs] at hx
      cases rest with
      | nil => cases hx
      | cons d rest =>
        rw [onHead] at hx
        split at hx <;> cases hx

theorem delimited_readAsciiClass? (f : Flags) : Delimited 0 (readAsciiClass? f) := by
  have hname (negated : Bool) : Delimited 0 (readAsciiName? f negated) :=
    .upTo (by decide) fun name => .onHead (by decide) (.ofOption _) (.ofOption none)
  rw [readAsciiClass?_eq]
  exact .onHead (by decide) (.onHead (by decide) (hname true) (hname false)) (.ofOption none)

-- Moreover it stays within the text, so what is no name stays so.
theorem within_readAsciiClass? (f : Flags) (cs : List Char) : Within (readAsciiClass? f) cs := by
  rw [readAsciiClass?_eq]
  refine within_onHead (by decide) (within_onHead (by decide) ?_ ?_) (within_ofOption none) cs
  · exact within_readAsciiName? f true
  · exact within_readAsciiName? f false

def Symbol.member? : Symbol → Option Symbol
  | wordEdge _ => none
  | symbol => some symbol

theorem Symbol.member?_eq (a : Symbol) : a.member? = none ∨ a.member? = some a := by
  cases a <;> simp [member?]

def readProperMember? (f : Flags) : Reading Symbol :=
  andThen (readMember? f) fun symbol => ofOption symbol.member?

theorem suffix_of_readMember? {x : Symbol × List Char} (h : readMember? f cs = some x) :
    x.2 <:+ cs.tail := by
  rw [readMember?.eq_def] at h
  split at h
  case h_1 => cases h
  case h_2 => exact (Symbol.suffix_of_readEscape? h).trans (List.tail_suffix _)
  case h_3 =>
    cases h
    exact List.suffix_rfl

theorem suffix_of_readProperMember? {x : Symbol × List Char}
    (h : readProperMember? f cs = some x) : x.2 <:+ cs.tail := by
  have ⟨y, hy, hx⟩ := andThen_eq_some.mp h
  exact ((Delimited.ofOption (k := 0) _).suffix hx).trans (suffix_of_readMember? hy)

theorem readMember?_of_ne {c : Char} (hc : c ≠ '\\') (cs : List Char) :
    readMember? f (c :: cs) = some (.literal c false, cs) := by
  rw [readMember?]
  exact hc

theorem delimited_readProperMember? (f : Flags) : Delimited 0 (readProperMember? f) where
  suffix hx := (suffix_of_readProperMember? hx).trans (List.tail_suffix _)
  within_or_beyond cs := by
    have hm (symbol : Symbol) : Delimited 0 (ofOption symbol.member?) := .ofOption _
    cases cs with
    | nil => exact .inr (.of_none rfl fun hx => (suffix_of_readProperMember? hx).length_le)
    | cons c cs =>
      by_cases hc : c = '\\'
      case neg =>
        refine within_or_beyond_andThen (.inl fun t => ?_) hm
        rw [List.cons_append, readMember?_of_ne hc, readMember?_of_ne hc]
        rfl
      case pos =>
        subst hc
        by_cases hd : ∃ ds, cs = 'b' :: ds ∧ Symbol.Dangling f.spaced ds
        case neg =>
          refine within_or_beyond_andThen (within_or_beyond_congr
            (Symbol.within_or_beyond_readEscape? fun ds he hn => hd ⟨ds, he, hn⟩) rfl fun t => rfl) hm
        case pos =>
          obtain ⟨ds, rfl, hd⟩ := hd
          have ⟨hn, ht⟩ := Symbol.readEdge?_of_dangling hd
          refine .inr (.of_none (congrArg (Option.bind · _) hn) fun {t x} hx => ?_)
          have ⟨y, hy, hx⟩ := andThen_eq_some.mp hx
          rcases ht hy with hl | rfl
          · exact ((hm y.1).suffix hx).length_le.trans hl
          · cases hx

theorem peek?_append (cs t : List Char) {c : Char} (hc : c = ']' ∨ c = '-') :
    peek? spaced (cs ++ ')' :: t) = some c ↔ peek? spaced cs = some c := by
  have hne : ')' ≠ c := by rcases hc with rfl | rfl <;> decide
  cases spaced
  case false => cases cs <;> simp [peek?, hne]
  case true =>
    -- If all is hidden, the first character is not `c` but hidden itself.
    have hhead (hh : cs.dropWhile Text.isBlank = [] ∨
        ∃ rest, cs.dropWhile Text.isBlank = '#' :: rest) : cs.head? ≠ some c := by
      intro he
      cases cs with
      | nil => cases he
      | cons d ds =>
        cases Option.some.inj he
        have hb : Text.isBlank c = false := by rcases hc with rfl | rfl <;> rfl
        have hd : c ≠ '#' := by rcases hc with rfl | rfl <;> decide
        have hw : (c :: ds).dropWhile Text.isBlank = c :: ds :=
          List.dropWhile_cons_of_neg (by simp [hb])
        simp [hw, hd] at hh
    simp only [peek?, if_true, dropBlanks_append]
    cases hd : cs.dropWhile Text.isBlank with
    | nil => simp [hne, hhead (.inl hd)]
    | cons d rest =>
      by_cases he : d = '#'
      case neg => simp [he]
      case pos =>
        subst he
        simp only [List.cons_append, dropBlanks_append]
        cases rest.dropWhile Text.isBlank with
        | nil => simp [hne, hhead (.inr ⟨rest, hd⟩)]
        | cons => simp

-- A dash that makes no range.
def IsBareDash (f : Flags) (cs : List Char) : Prop :=
  cs.head? = some '-' ∧ (peek? f.spaced cs.tail = some ']' ∨ peek? f.spaced cs.tail = some '-')

instance (f : Flags) : DecidablePred (IsBareDash f) :=
  fun _ => inferInstanceAs (Decidable (_ ∧ _))

theorem isBareDash_append (cs t : List Char) : IsBareDash f (cs ++ ')' :: t) ↔ IsBareDash f cs := by
  cases cs with
  | nil => simp [IsBareDash]
  | cons c cs => simp [IsBareDash, peek?_append]

-- What one member is, once it is read: on its own, or with the end of a range.
def readRangeEnd? (f : Flags) (a : Symbol) : Reading ClassSet :=
  let single := ofOption ((a.codes? f).map fun codes => { codes := f.spread codes })
  afterSkip f.spaced <| nonempty fun cs =>
    if IsBareDash f cs then single cs
    else
      onHead '-'
        (afterSkip f.spaced (andThen (readProperMember? f) fun b => ofOption (range? f a b))) single cs

theorem delimited_readRangeEnd? (f : Flags) (a : Symbol) : Delimited 1 (readRangeEnd? f a) := by
  have hm := (delimited_readProperMember? f).mono (Nat.zero_le 1)
  refine .afterSkip (.nonempty (.ite isBareDash_append (.ofOption _) ?_))
  exact .onHead (by decide) (.afterSkip (hm.andThen fun b => .ofOption _)) (.ofOption _)

theorem range?_eq_none {a b : Symbol} (h : a.member? = none ∨ b.member? = none) :
    range? f a b = none := by
  rcases h with h | h
  · cases a <;> cases h
    rfl
  · cases b <;> cases h
    cases a <;> rfl

theorem codes?_eq_none {a : Symbol} (h : a.member? = none) : a.codes? f = none := by
  cases a <;> cases h
  rfl

theorem readRangeEnd?_eq (f : Flags) (a : Symbol) (cs : List Char) :
    readRangeEnd? f a cs =
      let single : Option ClassSet := (a.codes? f).map fun codes => { codes := f.spread codes }
      match skip f.spaced cs with
      | [] => none
      | '-' :: rest =>
        if peek? f.spaced rest = some ']' ∨ peek? f.spaced rest = some '-' then do
          return (← single, '-' :: rest)
        else do
          let (b, rest) ← readMember? f (skip f.spaced rest)
          return (← range? f a b, rest)
      | cs => do return (← single, cs) := by
  have hsingle (cs : List Char) :
      (do return (← (a.codes? f).map fun codes => ({ codes := f.spread codes } : ClassSet), cs)) =
        ofOption ((a.codes? f).map fun codes => { codes := f.spread codes }) cs := by
    cases a.codes? f <;> rfl
  dsimp only
  rw [readRangeEnd?, afterSkip]
  split
  case h_1 h => rw [h]; rfl
  case h_2 rest h =>
    rw [h, nonempty]
    have hbare : IsBareDash f ('-' :: rest) ↔
        peek? f.spaced rest = some ']' ∨ peek? f.spaced rest = some '-' :=
      ⟨And.right, fun hp => ⟨rfl, hp⟩⟩
    by_cases hd : IsBareDash f ('-' :: rest)
    case pos => rw [if_pos hd, if_pos (hbare.mp hd), hsingle]
    case neg =>
      rw [if_neg hd, if_neg (mt hbare.mpr hd), onHead_cons, afterSkip, andThen, readProperMember?,
        andThen]
      cases readMember? f (skip f.spaced rest) with
      | none => rfl
      | some x =>
        obtain ⟨b, rest⟩ := x
        rcases b.member?_eq with hb | hb
        · simp [hb, ofOption, range?_eq_none (.inr hb)]
        · cases hr : range? f a b <;> simp [hb, ofOption, hr]
  case h_3 hn hne =>
    rw [hsingle]
    generalize skip f.spaced cs = cs at hn hne
    have hd : ¬IsBareDash f cs := fun hd => by
      cases cs with
      | nil => exact hn rfl
      | cons c cs => exact hne cs (congrArg (· :: cs) (Option.some.inj hd.left))
    cases cs with
    | nil => exact absurd rfl hn
    | cons c cs => rw [nonempty, if_neg hd, onHead_of_ne fun ds hc => hne ds hc]

theorem readRangeEnd?_eq_none {a : Symbol} (h : a.member? = none) (cs : List Char) :
    readRangeEnd? f a cs = none := by
  have hr (b : Symbol) : range? f a b = none := range?_eq_none (.inl h)
  rw [readRangeEnd?_eq]
  simp only [codes?_eq_none h, hr, Option.map_none]
  split
  case h_1 => rfl
  case h_2 =>
    split
    case isTrue => rfl
    case isFalse rest _ _ => cases readMember? f (skip f.spaced rest) <;> rfl
  case h_3 => rfl

theorem readRange?_eq (f : Flags) :
    readRange? f = andThen (readProperMember? f) (readRangeEnd? f) := by
  funext cs
  rw [readRange?, andThen, readProperMember?, andThen]
  cases readMember? f cs with
  | none => rfl
  | some x =>
    obtain ⟨a, rest⟩ := x
    refine (readRangeEnd?_eq f a rest).symm.trans ?_
    rcases a.member?_eq with ha | ha
    · simp [ha, ofOption, readRangeEnd?_eq_none ha]
    · simp [ha, ofOption]

theorem delimited_readRange? (f : Flags) : Delimited 1 (readRange? f) := by
  rw [readRange?_eq]
  exact ((delimited_readProperMember? f).mono (Nat.zero_le 1)).andThen (delimited_readRangeEnd? f)

theorem suffix_of_readRange? {x : ClassSet × List Char} (h : readRange? f cs = some x) :
    x.2 <:+ cs.tail := by
  rw [readRange?_eq] at h
  have ⟨y, hy, hx⟩ := andThen_eq_some.mp h
  exact ((delimited_readRangeEnd? f y.1).suffix hx).trans (suffix_of_readProperMember? hy)

-- A member that begins with `c`.
def readPlain? (f : Flags) (frame : ClassFrame) (outer : List ClassFrame) (c : Char) :
    Reading (ClassFrame × List ClassFrame) :=
  andThen (fun cs => readRange? f (c :: cs)) fun s => ofOption (some (frame.add s, outer))

-- A sign that is an operator if it comes twice.
def readSign? (f : Flags) (frame : ClassFrame) (outer : List ClassFrame) (c : Char)
    (op : ClassSet.Operator) : Reading (ClassFrame × List ClassFrame) :=
  onHead c (ofOption (some (frame.operator op, outer))) (readPlain? f frame outer c)

-- A class inside of the class, named or with brackets of its own.
def readInner? (f : Flags) (frame : ClassFrame) (outer : List ClassFrame) :
    Reading (ClassFrame × List ClassFrame) :=
  fun cs =>
    match readAsciiClass? f cs with
    | some (s, rest) => some ((frame.add s, outer), rest)
    | none => andThen (openClass? f) (fun inner => ofOption (some (inner, frame :: outer))) cs

-- What the character `c` stands for, and perhaps those after it. Here `]` closes an inner class.
def readItem? (f : Flags) (frame : ClassFrame) (outer : List ClassFrame) (c : Char) :
    Reading (ClassFrame × List ClassFrame) :=
  match c with
  | '[' => readInner? f frame outer
  | ']' => ofOption (outer.head?.map fun up => (up.add (frame.close f), outer.tail))
  | '&' => readSign? f frame outer c .intersection
  | '-' => readSign? f frame outer c .difference
  | '~' => readSign? f frame outer c .symmetricDifference
  | _ => readPlain? f frame outer c

theorem delimited_readPlain? (f : Flags) (frame : ClassFrame) (outer : List ClassFrame) (c : Char) :
    Delimited 1 (readPlain? f frame outer c) := by
  refine .andThen ⟨suffix_of_readRange?, fun cs => ?_⟩ fun s => .ofOption _
  exact within_or_beyond_congr ((delimited_readRange? f).within_or_beyond (c :: cs)) rfl fun t => rfl

theorem delimited_readInner? (f : Flags) (frame : ClassFrame) (outer : List ClassFrame) :
    Delimited 1 (readInner? f frame outer) := by
  have hopen : Delimited 1 (andThen (openClass? f) fun inner =>
      ofOption (some (inner, frame :: outer))) :=
    (delimited_openClass? f).andThen fun inner => .ofOption _
  have hnamed := delimited_readAsciiClass? f
  refine ⟨fun {cs x} hx => ?_, fun cs => ?_⟩
  · rw [readInner?] at hx
    split at hx
    case h_1 s rest hs =>
      cases hx
      exact hnamed.suffix hs
    case h_2 => exact hopen.suffix hx
  · cases hs : readAsciiClass? f cs with
    | some x =>
      refine .inl fun t => ?_
      simp [readInner?, within_readAsciiClass? f cs t, hs]
    | none =>
      refine within_or_beyond_congr (hopen.within_or_beyond cs) ?_ fun t => ?_
      · simp [readInner?, hs]
      · simp [readInner?, within_readAsciiClass? f cs t, hs]

theorem delimited_readItem? (f : Flags) (frame : ClassFrame) (outer : List ClassFrame) (c : Char) :
    Delimited 1 (readItem? f frame outer c) := by
  have hplain := delimited_readPlain? f frame outer
  rw [readItem?.eq_def]
  split
  case h_1 => exact delimited_readInner? f frame outer
  case h_2 => exact .ofOption _
  case h_3 | h_4 | h_5 => exact .onHead (by decide) (.ofOption _) (hplain _)
  case h_6 => exact hplain c

theorem readClassBody?_of_nil (h : skip f.spaced cs = []) (fuel : Nat) (frame : ClassFrame)
    (outer : List ClassFrame) : readClassBody? f fuel frame outer cs = none := by
  cases fuel with
  | zero => rfl
  | succ fuel => rw [readClassBody?, h]

-- What is neither a bracket nor a pair of signs is a member.
theorem readItem?_eq_readPlain? (f : Flags) (frame : ClassFrame) (outer : List ClassFrame)
    {c : Char} {rest : List Char} (ho : c ≠ '[') (hc : c ≠ ']')
    (hp : ∀ sign ∈ ['&', '-', '~'], ∀ ds, c :: rest ≠ sign :: sign :: ds) :
    readItem? f frame outer c rest = readPlain? f frame outer c rest := by
  rw [readItem?.eq_def]
  split
  case h_1 | h_2 => contradiction
  case h_3 => exact onHead_of_ne fun ds hd => hp '&' (by simp) ds (hd ▸ rfl)
  case h_4 => exact onHead_of_ne fun ds hd => hp '-' (by simp) ds (hd ▸ rfl)
  case h_5 => exact onHead_of_ne fun ds hd => hp '~' (by simp) ds (hd ▸ rfl)
  case h_6 => rfl

theorem readClassBody?_of_cons {c : Char} {rest : List Char} (h : skip f.spaced cs = c :: rest)
    (fuel : Nat) (frame : ClassFrame) (outer : List ClassFrame) :
    readClassBody? f (fuel + 1) frame outer cs =
      if c = ']' ∧ outer = [] then some (frame.close f, rest)
      else (readItem? f frame outer c rest).bind fun x =>
        readClassBody? f fuel x.1.1 x.1.2 x.2 := by
  rw [readClassBody?, h]
  split
  case h_1 h => cases h
  case h_2 h =>
    cases h
    rw [if_neg (by simp), readItem?, readInner?]
    cases readAsciiClass? f rest with
    | some x => rfl
    | none =>
      rw [andThen]
      cases openClass? f rest <;> rfl
  case h_3 h =>
    cases h
    cases outer with
    | nil => rw [if_pos ⟨rfl, rfl⟩]
    | cons up outer =>
      rw [if_neg (by simp), readItem?]
      rfl
  case h_4 h | h_5 h | h_6 h =>
    cases h
    rw [if_neg (by simp), readItem?, readSign?, onHead_cons]
    rfl
  case h_7 ho hc ha hd ht =>
    have hp : ∀ sign ∈ ['&', '-', '~'], ∀ ds, c :: rest ≠ sign :: sign :: ds :=
      List.forall_mem_cons.mpr ⟨ha, List.forall_mem_cons.mpr ⟨hd, List.forall_mem_singleton.mpr ht⟩⟩
    have hc : c ≠ ']' := fun he => hc rest (he ▸ rfl)
    rw [if_neg fun he => hc he.left,
      readItem?_eq_readPlain? f frame outer (fun he => ho rest (he ▸ rfl)) hc hp, readPlain?, andThen]
    cases readRange? f (c :: rest) <;> rfl

-- A class takes at least its closing bracket.
theorem suffix_of_readClassBody? {fuel : Nat} {frame : ClassFrame} {outer : List ClassFrame}
    {x : ClassSet × List Char} (h : readClassBody? f fuel frame outer cs = some x) :
    x.2 <:+ (skip f.spaced cs).tail := by
  induction fuel generalizing frame outer cs
  case zero => cases h
  case succ fuel ih =>
    cases hs : skip f.spaced cs with
    | nil =>
      rw [readClassBody?_of_nil hs] at h
      cases h
    | cons c rest =>
      rw [readClassBody?_of_cons hs] at h
      split at h
      case isTrue =>
        cases h
        exact List.suffix_rfl
      case isFalse =>
        have ⟨y, hy, hx⟩ := Option.bind_eq_some_iff.mp h
        have hr := (delimited_readItem? f frame outer c).suffix hy
        exact (ih hx).trans ((List.tail_suffix _).trans ((skip_suffix _ _).trans hr))

-- What an item leaves is less than there was.
theorem length_lt_of_readItem? {c : Char} {rest : List Char} (h : skip f.spaced cs = c :: rest)
    {frame : ClassFrame} {outer : List ClassFrame} {x : (ClassFrame × List ClassFrame) × List Char}
    (hx : readItem? f frame outer c rest = some x) : x.2.length < cs.length := by
  have hle := ((delimited_readItem? f frame outer c).suffix hx).length_le
  have hskip := (h ▸ skip_suffix f.spaced cs).length_le
  rw [List.length_cons] at hskip
  omega

-- There are rounds enough if there is one for each character.
theorem readClassBody?_eq_of_lt {fuel fuel' : Nat} (h : cs.length < fuel) (h' : cs.length < fuel')
    (frame : ClassFrame) (outer : List ClassFrame) :
    readClassBody? f fuel frame outer cs = readClassBody? f fuel' frame outer cs := by
  induction fuel generalizing fuel' frame outer cs
  case zero => cases h
  case succ fuel ih =>
    obtain ⟨fuel', rfl⟩ := Nat.exists_eq_succ_of_ne_zero (Nat.ne_zero_of_lt h')
    cases hs : skip f.spaced cs with
    | nil => rw [readClassBody?_of_nil hs, readClassBody?_of_nil hs]
    | cons c rest =>
      rw [readClassBody?_of_cons hs, readClassBody?_of_cons hs]
      refine if_congr .rfl rfl (Option.bind_congr fun x hx => ?_)
      have hlt := length_lt_of_readItem? hs hx
      exact ih (by omega) (by omega) x.1.1 x.1.2

-- The members of a class up to the bracket that closes it.
def readMembers? (f : Flags) (x : ClassFrame × List ClassFrame) : Reading ClassSet :=
  fun cs => readClassBody? f (cs.length + 1) x.1 x.2 cs

theorem readMembers?_of_cons {c : Char} {rest : List Char} (h : skip f.spaced cs = c :: rest)
    (x : ClassFrame × List ClassFrame) :
    readMembers? f x cs =
      if c = ']' ∧ x.2 = [] then some (x.1.close f, rest)
      else andThen (readItem? f x.1 x.2 c) (readMembers? f) rest := by
  rw [readMembers?, readClassBody?_of_cons h]
  refine if_congr .rfl rfl (Option.bind_congr fun y hy => ?_)
  exact readClassBody?_eq_of_lt (length_lt_of_readItem? h hy) (Nat.lt_succ_self _) y.1.1 y.1.2

theorem readMembers?_nil (x : ClassFrame × List ClassFrame) : readMembers? f x [] = none :=
  readClassBody?_of_nil (by cases f.spaced <;> rfl) _ x.1 x.2

theorem suffix_of_readMembers? (x : ClassFrame × List ClassFrame) {cs : List Char}
    {y : ClassSet × List Char} (h : readMembers? f x cs = some y) : y.2 <:+ cs.tail :=
  (suffix_of_readClassBody? h).trans (tail_skip_suffix f.spaced cs)

theorem within_or_beyond_readMembers? (f : Flags) (x : ClassFrame × List ClassFrame)
    (cs : List Char) : Within (readMembers? f x) cs ∨ Beyond 0 (readMembers? f x) cs := by
  induction hl : cs.length using Nat.strong_induction_on generalizing x cs
  case h n ih =>
    subst hl
    cases hs : skip f.spaced cs with
    | nil =>
      refine .inr (.of_none (readClassBody?_of_nil hs _ x.1 x.2) fun {t y} hy => ?_)
      have hlen := (suffix_of_readClassBody? hy).length_le
      have hle := length_skip_append_le hs t
      rw [List.length_tail] at hlen
      omega
    | cons c rest =>
      have hn := readMembers?_of_cons hs x
      have hskip (t : List Char) : skip f.spaced (cs ++ ')' :: t) = c :: (rest ++ ')' :: t) := by
        rw [skip_append_of_ne (by simp [hs]), hs, List.cons_append]
      have ht (t : List Char) := readMembers?_of_cons (hskip t) x
      by_cases hclose : c = ']' ∧ x.2 = []
      case pos => exact .inl fun t => by rw [ht, hn, if_pos hclose, if_pos hclose]; rfl
      case neg =>
        rw [if_neg hclose] at hn
        refine within_or_beyond_congr ?_ hn fun t => (ht t).trans (if_neg hclose)
        have hitem := delimited_readItem? f x.1 x.2 c
        rcases hitem.within_or_beyond rest with hw | hb
        · exact hw.followed fun y hy => ih _ (length_lt_of_readItem? hs hy) y.1 y.2 rfl
        · exact .inr (hb.followed_tail suffix_of_readMembers? readMembers?_nil)

theorem readClass?_eq (f : Flags) :
    readClass? f = andThen (openClass? f) fun frame => readMembers? f (frame, []) := by
  funext cs
  rw [readClass?, andThen]
  rfl

theorem delimited_readClass? (f : Flags) : Delimited 0 (readClass? f) := by
  have hopen := delimited_openClass? f
  rw [readClass?_eq]
  refine ⟨fun hx => ?_, fun cs => ?_⟩
  · have ⟨y, hy, hx⟩ := andThen_eq_some.mp hx
    exact (suffix_of_readMembers? _ hx).trans ((List.tail_suffix _).trans (hopen.suffix hy))
  · rcases hopen.within_or_beyond cs with hw | hb
    · exact hw.followed fun y _ => within_or_beyond_readMembers? f (y.1, []) y.2
    · exact .inr (hb.followed_tail (fun frame => suffix_of_readMembers? (frame, []))
        fun frame => readMembers?_nil (frame, []))

end WideTable.Pattern
