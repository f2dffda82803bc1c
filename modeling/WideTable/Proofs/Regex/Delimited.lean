import Mathlib
import WideTable.Regex.Spacing

namespace WideTable.Pattern

-- Reads something off the front of a text.
abbrev Reading (α : Type) :=
  List Char → Option (α × List Char)

namespace Reading

variable {α β : Type} {k l : Nat} {g h : Reading α} {cs ds : List Char} {spaced : Bool}
  {p : Char → Bool}

-- What is read is the same before every `)`.
def Within (g : Reading α) (cs : List Char) : Prop :=
  ∀ t, g (cs ++ ')' :: t) = (g cs).map fun x => (x.1, x.2 ++ ')' :: t)

-- The `)` is read too, but for a slack of `k` characters. Where the text can be read without a `)`, the
-- `)` is swallowed.
structure Beyond (k : Nat) (g : Reading α) (cs : List Char) : Prop where
  past      : ∀ {t x}, g (cs ++ ')' :: t) = some x → x.2.length ≤ t.length + k
  swallowed : ∀ {x}, g cs = some x → x.2 = [] ∧ g (cs ++ [')']) = some x

-- A reading of a text that a `)` follows is delimited if it stays within the text, and then reads the
-- same whatever follows the `)`, or goes beyond it.
structure Delimited (k : Nat) (g : Reading α) : Prop where
  suffix           : ∀ {cs x}, g cs = some x → x.2 <:+ cs
  within_or_beyond : ∀ cs, Within g cs ∨ Beyond k g cs

-- Readings agree on what follows if they do so before every `)` and at the end.
theorem within_or_beyond_congr (hh : Within h ds ∨ Beyond k h ds) (hn : g cs = h ds)
    (ht : ∀ t, g (cs ++ ')' :: t) = h (ds ++ ')' :: t)) : Within g cs ∨ Beyond k g cs := by
  rcases hh with hw | hb
  · exact .inl fun t => by rw [ht, hn, hw]
  · exact .inr ⟨fun hx => hb.past (ht _ ▸ hx), fun hx => ht [] ▸ hb.swallowed (hn ▸ hx)⟩

-- What cannot be read without a `)` does not swallow it.
theorem Beyond.of_none (hn : g cs = none)
    (hp : ∀ {t x}, g (cs ++ ')' :: t) = some x → x.2.length ≤ t.length + k) : Beyond k g cs where
  past := hp
  swallowed hx := by
    rw [hn] at hx
    cases hx

theorem Delimited.mono (h : Delimited k g) (hk : k ≤ l) : Delimited l g where
  suffix := h.suffix
  within_or_beyond cs := (h.within_or_beyond cs).imp_right fun hb =>
    ⟨fun hx => (hb.past hx).trans (Nat.add_le_add_left hk _), hb.swallowed⟩

-- Reads nothing.
def ofOption (a : Option α) : Reading α :=
  fun cs => a.map (·, cs)

def andThen (g : Reading α) (h : α → Reading β) : Reading β :=
  fun cs => (g cs).bind fun x => h x.1 x.2

def onHead (c : Char) (g h : Reading α) : Reading α
  | [] => h []
  | d :: cs => if d = c then g cs else h (d :: cs)

def uncons (g : Char → Reading α) : Reading α
  | [] => none
  | c :: cs => g c cs

-- There has to be more.
def nonempty (g : Reading α) : Reading α
  | [] => none
  | c :: cs => g (c :: cs)

def afterBlanks (g : Reading α) : Reading α :=
  fun cs => g (cs.dropWhile Text.isBlank)

def collecting (spaced : Bool) (p : Char → Bool) : Reading (List Char) :=
  fun cs => some (collect spaced p cs)

def afterSkip (spaced : Bool) (g : Reading α) : Reading α :=
  fun cs => g (skip spaced cs)

-- Reads a name that ends where `stop` comes.
def upTo (spaced : Bool) (stop : Char) (g : List Char → Reading α) : Reading α :=
  fun cs =>
    let (name, rest) := collect spaced (· != stop) cs
    onHead stop (g name) (ofOption none) rest

theorem onHead_of_ne {c : Char} (hc : ∀ ds, cs = c :: ds → False) : onHead c g h cs = h cs := by
  cases cs with
  | nil => rfl
  | cons d ds => exact if_neg fun he : d = c => hc ds (he ▸ rfl)

theorem andThen_eq_some {g : Reading α} {h : α → Reading β} {x : β × List Char} :
    andThen g h cs = some x ↔ ∃ y, g cs = some y ∧ h y.1 y.2 = some x :=
  Option.bind_eq_some_iff

@[simp]
theorem onHead_cons (c : Char) (g h : Reading α) (cs : List Char) : onHead c g h (c :: cs) = g cs :=
  if_pos rfl

@[simp]
theorem onHead_cons_of_ne {c d : Char} (hd : d ≠ c) (g h : Reading α) (cs : List Char) :
    onHead c g h (d :: cs) = h (d :: cs) :=
  if_neg hd

theorem upTo_of_eq {stop : Char} {g : List Char → Reading α} {name rest : List Char}
    (h : collect spaced (· != stop) cs = (name, stop :: rest)) :
    upTo spaced stop g cs = g name rest := by
  rw [upTo, h]
  exact onHead_cons stop _ _ rest

theorem upTo_eq_none {stop : Char} {g : List Char → Reading α}
    (h : ∀ name rest, collect spaced (· != stop) cs = (name, stop :: rest) → False) :
    upTo spaced stop g cs = none :=
  onHead_of_ne fun _ hr => h _ _ (Prod.ext rfl hr)

theorem exists_of_upTo {stop : Char} {g : List Char → Reading α} {x : α × List Char}
    (h : upTo spaced stop g cs = some x) :
    ∃ name rest, collect spaced (· != stop) cs = (name, stop :: rest) ∧ g name rest = some x := by
  by_cases hc : ∃ name rest, collect spaced (· != stop) cs = (name, stop :: rest)
  case pos =>
    have ⟨name, rest, hc⟩ := hc
    rw [upTo_of_eq hc] at h
    exact ⟨name, rest, hc, h⟩
  case neg =>
    rw [upTo_eq_none fun name rest hn => hc ⟨name, rest, hn⟩] at h
    cases h

-- What is collected ends before the `)`. Or it does not end in the text: then the `)` is collected too,
-- unless it is hidden by a comment.
inductive Collected (c : List Char → List Char × List Char) (p : Char → Bool) (cs : List Char) : Prop
  | within (h : ∀ t, c (cs ++ ')' :: t) = ((c cs).1, (c cs).2 ++ ')' :: t))
  | beyond (hn : (c cs).2 = []) (ht : ∀ t, (c (cs ++ ')' :: t)).2.length ≤ t.length)
      (hp : p ')' = false → c (cs ++ [')']) = c cs)

-- One more character is collected or hidden.
theorem Collected.cons {c c' : List Char → List Char × List Char} (h : Collected c p cs) {d : Char}
    {f : List Char → List Char} (he : ∀ cs, c' (d :: cs) = (f (c cs).1, (c cs).2)) :
    Collected c' p (d :: cs) := by
  cases h
  case within h => exact .within fun t => by rw [List.cons_append, he, he, h]
  case beyond hn ht hp =>
    refine .beyond (by rw [he, hn]) (fun t => ?_) fun hd => ?_
    · rw [List.cons_append, he]
      exact ht t
    · rw [List.cons_append, he, he, hp hd]

theorem collectAll_suffix (comment : Bool) (p : Char → Bool) (cs : List Char) :
    (collectAll comment p cs).2 <:+ cs := by
  fun_induction collectAll comment p cs
  case case1 | case6 => exact List.suffix_rfl
  case case5 hc ih =>
    rw [hc] at ih
    exact ih.trans (List.suffix_cons _ _)
  all_goals
    rename_i ih
    exact ih.trans (List.suffix_cons _ _)

theorem collected_collectAll (comment : Bool) (p : Char → Bool) (cs : List Char) :
    Collected (collectAll comment p) p cs := by
  induction cs generalizing comment
  case nil =>
    cases comment
    case true =>
      refine .beyond rfl (fun t => ?_) fun _ => rfl
      exact (collectAll_suffix true p t).length_le
    case false =>
      cases hp : p ')'
      case true =>
        refine .beyond rfl (fun t => ?_) fun hf => by simp [hp] at hf
        simpa [collectAll, Text.isBlank, hp] using (collectAll_suffix false p t).length_le
      case false => exact .within fun t => by simp [collectAll, Text.isBlank, hp]
  case cons d cs ih =>
    cases comment
    case true => exact (ih (d != '\n')).cons (f := id) fun _ => rfl
    case false =>
      by_cases hb : Text.isBlank d = true
      case pos => exact (ih false).cons (f := id) fun _ => by simp [collectAll, hb]
      case neg =>
        by_cases hc : d = '#'
        case pos =>
          subst hc
          exact (ih true).cons (f := id) fun _ => rfl
        case neg =>
          cases hp : p d
          case true =>
            exact (ih false).cons (f := (d :: ·)) fun _ => by simp [collectAll, hb, hc, hp]
          case false => exact .within fun t => by simp [collectAll, hb, hc, hp]

theorem collected_span (p : Char → Bool) (cs : List Char) : Collected (·.span p) p cs := by
  simp only [List.span_eq_takeWhile_dropWhile]
  induction cs
  case nil =>
    cases hp : p ')'
    case true =>
      refine .beyond (by simp) (fun t => ?_) fun hf => by simp [hp] at hf
      simpa [hp] using (List.dropWhile_suffix p).length_le
    case false => exact .within fun t => by simp [hp]
  case cons d cs ih =>
    cases hp : p d
    case true => exact ih.cons (f := (d :: ·)) fun _ => by simp [hp]
    case false => exact .within fun t => by simp [hp]

theorem collected (spaced : Bool) (p : Char → Bool) (cs : List Char) :
    Collected (collect spaced p) p cs := by
  cases spaced
  case true => exact collected_collectAll false p cs
  case false => exact collected_span p cs

theorem collect_suffix (spaced : Bool) (p : Char → Bool) (cs : List Char) :
    (collect spaced p cs).2 <:+ cs := by
  rw [collect]
  split
  · exact collectAll_suffix false p cs
  · simpa using List.dropWhile_suffix p

-- To skip is to collect nothing.
theorem collectAll_none (comment : Bool) (cs : List Char) :
    collectAll comment (fun _ => false) cs = ([], skipAll comment cs) := by
  induction cs generalizing comment
  case nil => rfl
  case cons c cs ih =>
    rw [collectAll, skipAll]
    split
    case isTrue => exact ih _
    case isFalse =>
      split
      case isTrue => exact ih false
      case isFalse =>
        split
        case isTrue => exact ih true
        case isFalse => rfl

theorem collect_none (spaced : Bool) (cs : List Char) :
    collect spaced (fun _ => false) cs = ([], skip spaced cs) := by
  cases spaced
  case true => exact collectAll_none false cs
  case false => cases cs <;> rfl

theorem collectAll_of_skipAll_nil {comment : Bool} (h : skipAll comment cs = []) :
    collectAll comment p cs = ([], []) := by
  fun_induction skipAll comment cs
  case case1 => rfl
  case case2 ih => exact ih h
  case case5 => cases h
  all_goals simp_all [collectAll]

theorem collect_of_skip_nil (h : skip spaced cs = []) : collect spaced p cs = ([], []) := by
  cases spaced
  case true => exact collectAll_of_skipAll_nil h
  case false =>
    cases h
    rfl

theorem skip_suffix (spaced : Bool) (cs : List Char) : skip spaced cs <:+ cs := by
  simpa [collect_none] using collect_suffix spaced (fun _ => false) cs

theorem tail_skip_suffix (spaced : Bool) (cs : List Char) : (skip spaced cs).tail <:+ cs.tail := by
  have hs := skip_suffix spaced cs
  generalize skip spaced cs = rest at hs
  obtain ⟨hidden, rfl⟩ := hs
  cases hidden with
  | nil => exact List.suffix_rfl
  | cons c hidden => exact (List.tail_suffix rest).trans (List.suffix_append hidden rest)

theorem length_skip_append_le (h : skip spaced cs = []) (t : List Char) :
    (skip spaced (cs ++ ')' :: t)).length ≤ t.length + 1 := by
  cases collected spaced (fun _ => false) cs
  case within hw =>
    have hw : skip spaced (cs ++ ')' :: t) = skip spaced cs ++ ')' :: t := by
      simpa [collect_none] using hw t
    simp [hw, h]
  case beyond _ ht _ => simpa [collect_none] using (ht t).trans (Nat.le_succ _)

theorem dropBlanks_append (cs t : List Char) :
    (cs ++ ')' :: t).dropWhile Text.isBlank = cs.dropWhile Text.isBlank ++ ')' :: t := by
  have hb : Text.isBlank ')' = false := rfl
  rw [List.dropWhile_append]
  split
  case isTrue hn => simp_all
  case isFalse => rfl

-- What is not skipped in the text is found before any `)`.
theorem skip_append_of_ne (h : skip spaced cs ≠ []) (t : List Char) :
    skip spaced (cs ++ ')' :: t) = skip spaced cs ++ ')' :: t := by
  cases collected spaced (fun _ => false) cs
  case within hw => simpa [collect_none] using hw t
  case beyond hn _ _ => exact absurd (by simpa [collect_none] using hn) h

theorem within_ofOption (a : Option α) (cs : List Char) : Within (ofOption a) cs := by
  intro t
  cases a <;> rfl

theorem within_onHead {c : Char} (hc : ')' ≠ c) (hg : ∀ cs, Within g cs) (hh : ∀ cs, Within h cs)
    (cs : List Char) : Within (onHead c g h) cs := by
  intro t
  cases cs with
  | nil => exact (if_neg hc).trans (hh [] t)
  | cons d cs =>
    by_cases hd : d = c
    case pos => simpa [onHead, hd] using hg cs t
    case neg => simpa [onHead, hd] using hh (d :: cs) t

-- The second reading starts within the text,
theorem Within.followed {h : α → Reading β} (hg : Within g cs)
    (hh : ∀ y, g cs = some y → Within (h y.1) y.2 ∨ Beyond k (h y.1) y.2) :
    Within (andThen g h) cs ∨ Beyond k (andThen g h) cs := by
  cases hy : g cs
  case none => exact .inl fun t => by simp [andThen, hg t, hy]
  case some y =>
    refine within_or_beyond_congr (hh y hy) ?_ fun t => ?_
    · simp [andThen, hy]
    · simp [andThen, hg t, hy]

-- or the first one went beyond it.
theorem Beyond.followed {h : α → Reading β} (hg : Beyond k g cs)
    (hh : ∀ a {cs x}, h a cs = some x → x.2 <:+ cs) : Beyond k (andThen g h) cs where
  past hx := by
    have ⟨y, hy, hx⟩ := andThen_eq_some.mp hx
    exact (hh y.1 hx).length_le.trans (hg.past hy)
  swallowed hx := by
    have ⟨y, hy, hx⟩ := andThen_eq_some.mp hx
    have ⟨hn, ht⟩ := hg.swallowed hy
    refine ⟨List.suffix_nil.mp (hn ▸ hh y.1 hx), ?_⟩
    rw [andThen, ht]
    exact hx

-- A second reading that takes a character makes up for slack.
theorem Beyond.followed_tail {h : α → Reading β} (hg : Beyond (k + 1) g cs)
    (hh : ∀ a {cs x}, h a cs = some x → x.2 <:+ cs.tail) (hn : ∀ a, h a [] = none) :
    Beyond k (andThen g h) cs where
  past hx := by
    have ⟨y, hy, hx⟩ := andThen_eq_some.mp hx
    have hle := hg.past hy
    have hlen := (hh y.1 hx).length_le
    rw [List.length_tail] at hlen
    omega
  swallowed hx := by
    have ⟨y, hy, hx⟩ := andThen_eq_some.mp hx
    rw [(hg.swallowed hy).left, hn] at hx
    cases hx

theorem within_or_beyond_andThen {h : α → Reading β} (hg : Within g cs ∨ Beyond k g cs)
    (hh : ∀ a, Delimited k (h a)) : Within (andThen g h) cs ∨ Beyond k (andThen g h) cs := by
  rcases hg with hw | hb
  · exact hw.followed fun y _ => (hh y.1).within_or_beyond y.2
  · exact .inr (hb.followed fun a => (hh a).suffix)

namespace Delimited

theorem ofOption (a : Option α) : Delimited k (ofOption a) where
  suffix hx := by
    have ⟨_, _, hx⟩ := Option.map_eq_some_iff.mp hx
    exact hx ▸ List.suffix_rfl
  within_or_beyond cs := .inl (within_ofOption a cs)

theorem andThen {h : α → Reading β} (hg : Delimited k g) (hh : ∀ a, Delimited k (h a)) :
    Delimited k (andThen g h) where
  suffix hx := by
    have ⟨y, hy, hx⟩ := andThen_eq_some.mp hx
    exact ((hh y.1).suffix hx).trans (hg.suffix hy)
  within_or_beyond cs := within_or_beyond_andThen (hg.within_or_beyond cs) hh

-- Which of two readings it is does not hang on what follows.
theorem ite {q : List Char → Prop} [DecidablePred q] (hq : ∀ cs t, q (cs ++ ')' :: t) ↔ q cs)
    (hg : Delimited k g) (hh : Delimited k h) : Delimited k fun cs => if q cs then g cs else h cs where
  suffix {cs x} hx := by
    split at hx
    case isTrue => exact hg.suffix hx
    case isFalse => exact hh.suffix hx
  within_or_beyond cs := by
    by_cases hc : q cs
    case pos =>
      refine within_or_beyond_congr (hg.within_or_beyond cs) (if_pos hc) fun t => ?_
      exact if_pos ((hq cs t).mpr hc)
    case neg =>
      refine within_or_beyond_congr (hh.within_or_beyond cs) (if_neg hc) fun t => ?_
      exact if_neg (mt (hq cs t).mp hc)

theorem onHead {c : Char} (hc : ')' ≠ c) (hg : Delimited k g) (hh : Delimited k h) :
    Delimited k (onHead c g h) where
  suffix {cs x} hx := by
    cases cs with
    | nil => exact hh.suffix hx
    | cons d cs =>
      rw [Reading.onHead] at hx
      split at hx
      case isTrue => exact (hg.suffix hx).trans (List.suffix_cons d cs)
      case isFalse => exact hh.suffix hx
  within_or_beyond cs := by
    cases cs with
    | nil => exact within_or_beyond_congr (hh.within_or_beyond []) rfl fun t => if_neg hc
    | cons d cs =>
      by_cases hd : d = c
      case pos =>
        exact within_or_beyond_congr (hg.within_or_beyond cs) (if_pos hd) fun t => if_pos hd
      case neg =>
        exact within_or_beyond_congr (hh.within_or_beyond (d :: cs)) (if_neg hd) fun t => if_neg hd

theorem uncons {g : Char → Reading α} (h : ∀ c, Delimited k (g c)) : Delimited k (uncons g) where
  suffix {cs x} hx := by
    cases cs with
    | nil => cases hx
    | cons c cs => exact ((h c).suffix hx).trans (List.suffix_cons c cs)
  within_or_beyond cs := by
    cases cs with
    | nil =>
      refine .inr (.of_none rfl fun hx => ?_)
      exact ((h ')').suffix hx).length_le.trans (Nat.le_add_right _ _)
    | cons c cs =>
      exact within_or_beyond_congr ((h c).within_or_beyond cs) rfl fun t => rfl

theorem nonempty (h : Delimited (k + 1) g) : Delimited (k + 1) (nonempty g) where
  suffix {cs x} hx := by
    cases cs with
    | nil => cases hx
    | cons c cs => exact h.suffix hx
  within_or_beyond cs := by
    cases cs with
    | nil =>
      refine .inr (.of_none rfl fun hx => (h.suffix hx).length_le.trans ?_)
      rw [List.length_cons]
      omega
    | cons c cs => exact within_or_beyond_congr (h.within_or_beyond (c :: cs)) rfl fun t => rfl

theorem afterBlanks (h : Delimited k g) : Delimited k (afterBlanks g) where
  suffix hx := (h.suffix hx).trans (List.dropWhile_suffix _)
  within_or_beyond cs := by
    refine within_or_beyond_congr (h.within_or_beyond (cs.dropWhile Text.isBlank)) rfl fun t => ?_
    rw [Reading.afterBlanks, dropBlanks_append]

theorem collecting (hp : p ')' = false) : Delimited k (collecting spaced p) where
  suffix hx := by
    cases hx
    exact collect_suffix spaced p _
  within_or_beyond cs := by
    cases collected spaced p cs
    case within h => exact .inl fun t => congrArg some (h t)
    case beyond hn ht hc =>
      refine .inr ⟨fun {t x} hx => ?_, fun hx => ?_⟩
      · cases hx
        exact (ht t).trans (Nat.le_add_right _ _)
      · cases hx
        exact ⟨hn, congrArg some (hc hp)⟩

theorem afterSkip (h : Delimited k g) : Delimited k (afterSkip spaced g) := by
  have he : Reading.afterSkip spaced g =
      .andThen (.collecting spaced fun _ => false) fun _ => g := by
    funext cs
    simp [Reading.afterSkip, Reading.andThen, Reading.collecting, collect_none]
  rw [he]
  exact (collecting rfl).andThen fun _ => h

-- A name that does not end in the text takes the `)` with it.
theorem upTo {stop : Char} (hs : ')' ≠ stop) {g : List Char → Reading α}
    (h : ∀ name, Delimited k (g name)) : Delimited k (upTo spaced stop g) := by
  have hg (name : List Char) := (h name).onHead hs (ofOption none)
  refine ⟨fun hx => ((hg _).suffix hx).trans (collect_suffix spaced _ _), fun cs => ?_⟩
  cases collected spaced (· != stop) cs
  case within hw =>
    have hc := (hg (collect spaced (· != stop) cs).1).within_or_beyond
      (collect spaced (· != stop) cs).2
    refine within_or_beyond_congr hc rfl fun t => ?_
    rw [Reading.upTo, hw t]
  case beyond hn ht _ =>
    refine .inr (.of_none (congrArg (Reading.onHead stop _ _) hn) fun {t x} hx => ?_)
    exact ((hg _).suffix hx).length_le.trans ((ht t).trans (Nat.le_add_right _ _))

end Delimited
end Reading
end WideTable.Pattern
