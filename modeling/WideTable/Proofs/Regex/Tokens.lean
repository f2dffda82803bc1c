import WideTable.Proofs.Regex.Classes
import WideTable.Proofs.Regex.Exact

namespace WideTable.Pattern

open Reading

theorem Flags.proper_atomOf (f : Flags) (set : Text.CodeSet) : (f.atomOf set).Proper :=
  trivial

theorem Symbol.proper_of_regex? {f : Flags} {symbol : Symbol} {r : Regex}
    (h : symbol.regex? f = some r) : r.Proper := by
  have hb (bs : Bytes) : (Regex.bytes bs).Proper := by
    refine Regex.proper_sequence fun r hr => ?_
    have ⟨b, _, hb⟩ := List.mem_map.mp hr
    exact hb ▸ trivial
  rw [regex?.eq_def] at h
  split at h
  case h_1 =>
    cases h
    rw [literalRegex]
    split
    case h_1 => exact hb _
    case h_2 =>
      dsimp only
      split
      case isTrue => exact f.proper_atomOf _
      case isFalse => split <;> exact hb _
  case h_8 | h_9 =>
    have ⟨_, _, hr⟩ := Option.map_eq_some_iff.mp h
    exact hr ▸ f.proper_atomOf _
  all_goals
    cases h
    trivial

namespace Token

variable {f : Flags} {cs rest : List Char} {c : Char}

-- The token that begins with `c`.
def readFrom? (f : Flags) (c : Char) : Reading Token :=
  match c with
  | '(' => readOpening? f
  | ')' => ofOption (some closing)
  | '|' => ofOption (some bar)
  | '[' => andThen (readClass? f) fun s =>
    ofOption (some (piece { regex := f.atomOf s.codes, depth := s.depth }))
  | '?' => fun cs => some (ofCounts f 0 (some 1) cs)
  | '*' => fun cs => some (ofCounts f 0 none cs)
  | '+' => fun cs => some (ofCounts f 1 none cs)
  | '\x7b' => readRepetition? f
  | '\\' => andThen (Symbol.readEscape? f.spaced) fun symbol => ofOption (ofSymbol? f symbol)
  | '.' => ofOption (ofSymbol? f .any)
  | '^' => ofOption (ofSymbol? f .lineStart)
  | '$' => ofOption (ofSymbol? f .lineStop)
  | _ => ofOption (ofSymbol? f (.literal c false))

theorem read?_of_nil (h : skip f.spaced cs = []) : read? f cs = some (done, []) := by
  rw [read?, h]

theorem read?_of_cons (h : skip f.spaced cs = c :: rest) : read? f cs = readFrom? f c rest := by
  have hs (symbol : Symbol) (cs : List Char) :
      (do return (← ofSymbol? f symbol, cs)) = ofOption (ofSymbol? f symbol) cs := by
    cases ofSymbol? f symbol <;> rfl
  rw [read?, h]
  split
  case h_1 he => cases he
  case h_2 he | h_3 he | h_4 he | h_6 he | h_7 he | h_8 he | h_9 he =>
    cases he
    rfl
  case h_5 he =>
    cases he
    rw [readFrom?, andThen]
    cases readClass? f rest <;> rfl
  case h_10 he =>
    cases he
    rw [readFrom?, andThen]
    cases Symbol.readEscape? f.spaced rest with
    | none => rfl
    | some x => exact hs _ _
  case h_11 he | h_12 he | h_13 he =>
    cases he
    exact hs _ _
  case h_14 =>
    rename_i he
    cases he
    rw [readFrom?.eq_def]
    split
    case h_13 => exact hs _ _
    all_goals simp_all

theorem readFrom?_backslash (f : Flags) :
    readFrom? f '\\' =
      andThen (Symbol.readEscape? f.spaced) fun symbol => ofOption (ofSymbol? f symbol) :=
  rfl

theorem delimited_readFrom? (hc : c ≠ '\\') : Delimited 0 (readFrom? f c) := by
  rw [readFrom?.eq_def]
  split
  case h_1 => exact delimited_readOpening? f
  case h_4 => exact (delimited_readClass? f).andThen fun s => .ofOption _
  case h_5 | h_6 | h_7 => exact delimited_ofCounts f _ _
  case h_8 => exact delimited_readRepetition? f
  case h_9 => contradiction
  all_goals exact .ofOption _

-- Nothing is repeated more often than it may be.
def Sound : Token → Prop
  | done | closing => False
  | piece p => p.regex.Proper
  | repetition least most _ => ∀ m ∈ most, least ≤ m
  | _ => True

theorem sound_of_readOpening? {x : Token × List Char} (h : readOpening? f cs = some x) :
    x.1.Sound := by
  rw [readOpening?] at h
  split at h
  case h_5 | h_6 =>
    rw [readName?] at h
    split at h
    case h_1 =>
      split at h <;> cases h
      trivial
    case h_2 => cases h
  case h_7 =>
    rw [readFlags?_eq] at h
    obtain ⟨⟨⟨g, given, opens⟩, cs⟩, _, ho⟩ := andThen_eq_some.mp h
    cases opens <;> cases given <;> cases ho <;> trivial
  case h_8 =>
    cases h
    trivial
  all_goals cases h

theorem sound_ofCounts {least : Nat} {most : Option Nat} (h : ∀ m ∈ most, least ≤ m) :
    (ofCounts f least most cs).1.Sound := by
  rw [ofCounts.eq_def]
  split <;> exact h

theorem sound_of_readRepetition? {x : Token × List Char} (h : readRepetition? f cs = some x) :
    x.1.Sound := by
  rw [readRepetition?_eq] at h
  have ⟨_, _, h⟩ := andThen_eq_some.mp h
  have ⟨_, _, h⟩ := andThen_eq_some.mp h
  rw [readClosing?_eq] at h
  split at h
  case h_1 =>
    split at h
    case isTrue hm =>
      cases h
      exact sound_ofCounts fun m hm' => by simpa [Option.mem_def.mp hm'] using hm
    case isFalse => cases h
  case h_2 => cases h

theorem sound_of_ofSymbol? {symbol : Symbol} {x : Token × List Char}
    (h : ofOption (ofSymbol? f symbol) cs = some x) : x.1.Sound := by
  rw [ofSymbol?] at h
  cases hr : symbol.regex? f <;> rw [hr] at h <;> cases h
  exact Symbol.proper_of_regex? hr

theorem sound_or_closing_of_readFrom? {x : Token × List Char} (h : readFrom? f c cs = some x) :
    x.1.Sound ∨ c = ')' ∧ x = (closing, cs) := by
  rw [readFrom?.eq_def] at h
  split at h
  case h_1 => exact .inl (sound_of_readOpening? h)
  case h_2 =>
    cases h
    exact .inr ⟨rfl, rfl⟩
  case h_3 =>
    cases h
    exact .inl trivial
  case h_4 =>
    have ⟨s, _, h⟩ := andThen_eq_some.mp h
    cases h
    exact .inl (f.proper_atomOf s.1.codes)
  case h_5 | h_6 | h_7 =>
    cases h
    exact .inl (sound_ofCounts (by simp))
  case h_8 => exact .inl (sound_of_readRepetition? h)
  case h_9 =>
    have ⟨_, _, h⟩ := andThen_eq_some.mp h
    exact .inl (sound_of_ofSymbol? h)
  all_goals exact .inl (sound_of_ofSymbol? h)

theorem skip_of_read?_done (h : read? f cs = some (done, rest)) : skip f.spaced cs = [] := by
  cases hs : skip f.spaced cs with
  | nil => rfl
  | cons c tail =>
    rw [read?_of_cons hs] at h
    rcases sound_or_closing_of_readFrom? h with hf | ⟨_, hx⟩
    · exact hf.elim
    · cases hx

theorem skip_of_read?_closing (h : read? f cs = some (closing, rest)) :
    skip f.spaced cs = ')' :: rest := by
  cases hs : skip f.spaced cs with
  | nil =>
    rw [read?_of_nil hs] at h
    cases h
  | cons c tail =>
    rw [read?_of_cons hs] at h
    rcases sound_or_closing_of_readFrom? h with hf | ⟨rfl, hx⟩
    · exact hf.elim
    · cases hx
      rfl

theorem sound_of_read? {t : Token} (h : read? f cs = some (t, rest)) (hd : t ≠ done)
    (hc : t ≠ closing) : t.Sound := by
  cases hs : skip f.spaced cs with
  | nil =>
    rw [read?_of_nil hs] at h
    cases h
    exact absurd rfl hd
  | cons c tail =>
    rw [read?_of_cons hs] at h
    refine (sound_or_closing_of_readFrom? h).resolve_right fun ⟨_, hx⟩ => hc ?_
    exact congrArg Prod.fst hx

theorem suffix_of_readFrom? {x : Token × List Char} (h : readFrom? f c cs = some x) : x.2 <:+ cs := by
  by_cases hc : c = '\\'
  case neg => exact (delimited_readFrom? hc).suffix h
  case pos =>
    subst hc
    rw [readFrom?_backslash] at h
    have ⟨y, hy, hx⟩ := andThen_eq_some.mp h
    refine ((Delimited.ofOption (k := 0) _).suffix hx).trans ?_
    exact (Symbol.suffix_of_readEscape? hy).trans (List.tail_suffix cs)

-- A token takes at least a character, unless the text is over.
theorem suffix_of_read? {x : Token × List Char} (h : read? f cs = some x) :
    x.2 <:+ (skip f.spaced cs).tail := by
  cases hs : skip f.spaced cs with
  | nil =>
    rw [read?_of_nil hs] at h
    cases h
    exact List.suffix_rfl
  | cons c rest =>
    rw [read?_of_cons hs] at h
    exact suffix_of_readFrom? h

-- What comes of the first token of a text where a `)` follows.
-- If there is a token in the text, it is the same before every `)`, or it goes beyond the `)`. If there
-- is none, the `)` closes a group or is hidden by a comment.
inductive Met (f : Flags) (cs : List Char) : Prop
  | within (hs : skip f.spaced cs ≠ []) (hw : Within (read? f) cs)
  | beyond (hb : Beyond 0 (read? f) cs)
  | closing (hs : skip f.spaced cs = []) (ht : ∀ t, read? f (cs ++ ')' :: t) = some (closing, t))
  -- The braces after an edge of a word are not over where the text ends.
  | dangling (hn : read? f cs = none)
      (ht : ∀ {t x}, read? f (cs ++ ')' :: t) = some x →
        x.2.length ≤ t.length ∨
          ∃ p inner, x = (piece p, '\x7b' :: inner ++ ')' :: t) ∧ skip f.spaced inner = [])

theorem Met.of_within_or_beyond (hs : skip f.spaced cs ≠ [])
    (h : Within (read? f) cs ∨ Beyond 0 (read? f) cs) : Met f cs :=
  h.elim (.within hs) .beyond

theorem met_of_nil (hs : skip f.spaced cs = []) : Met f cs := by
  cases collected f.spaced (fun _ => false) cs
  case within hw =>
    refine .closing hs fun t => ?_
    have ht : skip f.spaced (cs ++ ')' :: t) = ')' :: t := by
      simpa [collect_none, hs] using hw t
    exact read?_of_cons ht
  case beyond _ ht hp =>
    refine .beyond ⟨fun {t x} hx => ?_, fun hx => ?_⟩
    · have hlen := ((suffix_of_read? hx).trans (List.tail_suffix _)).length_le
      exact hlen.trans (by simpa [collect_none] using ht t)
    · have hc : skip f.spaced (cs ++ [')']) = [] := by simpa [collect_none, hs] using hp rfl
      rw [read?_of_nil hs] at hx
      cases hx
      exact ⟨rfl, read?_of_nil hc⟩

theorem met_of_dangling {ds : List Char} (hs : skip f.spaced cs = '\\' :: 'b' :: ds)
    (hd : Symbol.Dangling f.spaced ds) : Met f cs := by
  have ⟨hn, ht⟩ := Symbol.readEdge?_of_dangling hd
  obtain ⟨inner, rfl, hi⟩ := hd
  refine .dangling ?_ fun {t x} hx => ?_
  · rw [read?_of_cons hs]
    exact congrArg (Option.bind · _) hn
  · rw [read?_of_cons (by rw [skip_append_of_ne (by simp [hs]), hs, List.cons_append]),
      readFrom?_backslash] at hx
    have ⟨y, hy, hx⟩ := andThen_eq_some.mp hx
    rcases ht hy with hl | rfl
    · exact .inl (((Delimited.ofOption (k := 0) _).suffix hx).length_le.trans hl)
    · cases hx
      exact .inr ⟨_, inner, rfl, hi⟩

theorem met (f : Flags) (cs : List Char) : Met f cs := by
  cases hs : skip f.spaced cs with
  | nil => exact met_of_nil hs
  | cons c rest =>
    have hne : skip f.spaced cs ≠ [] := by simp [hs]
    have ht (t : List Char) : read? f (cs ++ ')' :: t) = readFrom? f c (rest ++ ')' :: t) :=
      read?_of_cons (by rw [skip_append_of_ne hne, hs, List.cons_append])
    by_cases hc : c = '\\'
    case neg =>
      refine .of_within_or_beyond hne (within_or_beyond_congr ?_ (read?_of_cons hs) ht)
      exact (delimited_readFrom? hc).within_or_beyond rest
    case pos =>
      subst hc
      by_cases hd : ∃ ds, rest = 'b' :: ds ∧ Symbol.Dangling f.spaced ds
      case pos =>
        obtain ⟨ds, rfl, hd⟩ := hd
        exact met_of_dangling hs hd
      case neg =>
        refine .of_within_or_beyond hne (within_or_beyond_congr ?_ (read?_of_cons hs) ht)
        refine within_or_beyond_andThen ?_ fun symbol => .ofOption _
        exact Symbol.within_or_beyond_readEscape? fun ds he hn => hd ⟨ds, he, hn⟩

-- Only what is skipped stands before a `)` that is the first token.
theorem exists_of_read?_closing (h : read? f cs = some (closing, rest)) :
    ∃ blank, cs = blank ++ ')' :: rest ∧ read? f blank = some (done, []) ∧
      ∀ t, read? f (blank ++ ')' :: t) = some (closing, t) := by
  have hc := skip_of_read?_closing h
  have ⟨blank, hb⟩ := skip_suffix f.spaced cs
  rw [hc] at hb
  subst hb
  cases collected f.spaced (fun _ => false) blank
  case within hw =>
    have hw (t : List Char) : skip f.spaced (blank ++ ')' :: t) = skip f.spaced blank ++ ')' :: t := by
      simpa [collect_none] using hw t
    have hn : skip f.spaced blank = [] := by simpa [hw] using hc
    exact ⟨blank, rfl, read?_of_nil hn, fun t => read?_of_cons (by rw [hw, hn, List.nil_append])⟩
  case beyond _ ht _ =>
    have hlen := ht rest
    rw [collect_none, hc, List.length_cons] at hlen
    omega

theorem read?_brace_of_nil (h : skip f.spaced cs = []) : read? f ('\x7b' :: cs) = none := by
  have hs : skip f.spaced ('\x7b' :: cs) = '\x7b' :: cs := by
    cases f.spaced <;> rfl
  have hc : readCount? f [] = none := by
    rw [readCount?_eq, afterBlanks, List.dropWhile_nil, andThen, collecting,
      collect_of_skip_nil (by cases f.spaced <;> rfl)]
    rfl
  rw [read?_of_cons hs]
  change readRepetition? f cs = none
  rw [readRepetition?_eq, afterSkip, h, andThen, hc]
  rfl

end Token
end WideTable.Pattern
