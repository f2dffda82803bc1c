import WideTable.Proofs.Regex.Tokens

namespace WideTable.Pattern.Reader

open Reading

-- Read to its end, the text takes the reader from `r` to `s`.
inductive Ends : Reader → List Char → Reader → Prop
  | stop {r : Reader} {cs rest : List Char} (h : Token.read? r.flags cs = some (.done, rest)) :
    Ends r cs r
  | next {r r' s : Reader} {cs rest : List Char} {t : Token}
    (ht : Token.read? r.flags cs = some (t, rest)) (hr : r.take? t = some r') (h : Ends r' rest s) :
    Ends r cs s

variable {r r' s s' : Reader} {e : Enclosing} {cs rest : List Char} {t : Token} {p : Piece}
  {fuel : Nat}

namespace Ends

theorem next_iff (ht : Token.read? r.flags cs = some (t, rest)) (hr : r.take? t = some r') :
    Ends r cs s ↔ Ends r' rest s := by
  refine ⟨fun h => ?_, .next ht hr⟩
  cases h
  case stop hd =>
    cases ht.symm.trans hd
    cases hr
  case next hr' ht' h =>
    cases ht.symm.trans ht'
    cases hr.symm.trans hr'
    exact h

theorem not_of_none (ht : Token.read? r.flags cs = none) : ¬Ends r cs s := by
  intro h
  cases h
  case stop hd => cases ht.symm.trans hd
  case next ht' _ => cases ht.symm.trans ht'

theorem not_of_refused (ht : Token.read? r.flags cs = some (t, rest)) (hd : t ≠ .done)
    (hr : r.take? t = none) : ¬Ends r cs s := by
  intro h
  cases h
  case stop ht' =>
    cases ht.symm.trans ht'
    exact hd rfl
  case next hr' ht' _ =>
    cases ht.symm.trans ht'
    cases hr.symm.trans hr'

end Ends

theorem length_rest_lt (ht : Token.read? r.flags cs = some (t, rest)) (hr : r.take? t = some r') :
    rest.length < cs.length := by
  have hle := (Token.suffix_of_read? ht).length_le
  have hskip := (skip_suffix r.flags.spaced cs).length_le
  cases hs : skip r.flags.spaced cs with
  | nil =>
    rw [Token.read?_of_nil hs] at ht
    cases ht
    cases hr
  | cons c tail =>
    simp only [hs, List.tail_cons, List.length_cons] at hle hskip
    omega

theorem read?_succ_of_token (ht : Token.read? r.flags cs = some (t, rest))
    (hr : r.take? t = some r') : read? (fuel + 1) r cs = read? fuel r' rest := by
  rw [read?, ht]
  cases t <;> simp_all [take?]

-- A reader that is given enough rounds finds the pattern that the text is.
theorem read?_eq_some_iff (hf : cs.length < fuel) :
    read? fuel r cs = some p ↔ ∃ s, Ends r cs s ∧ s.finish? = some p := by
  constructor
  case mp =>
    intro h
    clear hf
    induction fuel generalizing r cs
    case zero => cases h
    case succ fuel ih =>
      rw [read?] at h
      have ⟨x, hx, h⟩ := Option.bind_eq_some_iff.mp h
      split at h
      case h_1 => exact ⟨r, .stop hx, h⟩
      case h_2 =>
        have ⟨r', hr, h⟩ := Option.bind_eq_some_iff.mp h
        have ⟨s, hs, hp⟩ := ih h
        exact ⟨s, .next hx hr hs, hp⟩
  case mpr =>
    rintro ⟨s, hs, hp⟩
    induction hs generalizing fuel
    all_goals obtain ⟨fuel, rfl⟩ := Nat.exists_eq_succ_of_ne_zero (Nat.ne_zero_of_lt hf)
    case stop hd =>
      rw [read?, hd]
      exact hp
    case next ht hr _ ih =>
      rw [read?_succ_of_token ht hr]
      have hlt := length_rest_lt ht hr
      exact ih (by omega) hp

-- The reader in a group that is open around all it has read.
def inside (r : Reader) (e : Enclosing) : Reader :=
  { r with outer := r.outer ++ [e] }

-- The reader where the group is closed.
def closed (r : Reader) (e : Enclosing) : Reader :=
  { r with
    flags := e.flags
    outer := []
    level := e.level.add (some (r.level.value.group e.number)) }

theorem take?_inside (h : t = .closing → r.outer ≠ []) :
    (r.inside e).take? t = (r.take? t).map (·.inside e) := by
  cases t
  case closing =>
    cases ho : r.outer with
    | nil => exact absurd ho (h rfl)
    | cons up outer => simp [take?, inside, ho]
  case opening f kind =>
    cases kind
    case named name =>
      by_cases hn : name ∈ r.names <;> simp [take?, open?, inside, hn]
    all_goals rfl
  case repetition least most lazy =>
    simp only [take?, inside]
    cases r.level.repeat? least most lazy <;> rfl
  all_goals rfl

theorem take?_closing_inside (h : r.outer = []) :
    (r.inside e).take? .closing = some (r.closed e) := by
  simp [take?, inside, closed, h]

theorem take?_closing (h : r.outer = []) : r.take? .closing = none := by
  simp [take?, h]

-- From `r` to `s` in the text, which the `)` after it closes if it stands in a group. On its own, the
-- text and the `)` are no pattern.
structure Closes (r : Reader) (cs : List Char) (s : Reader) : Prop where
  ends    : Ends r cs s
  outer   : s.outer = []
  goes_on : ∀ {e t s'}, Ends (r.inside e) (cs ++ ')' :: t) s' ↔ Ends (s.closed e) t s'
  refused : ∀ {t s'}, ¬Ends r (cs ++ ')' :: t) s'

namespace Closes

theorem stop (ho : r.outer = []) (h : Token.read? r.flags cs = some (.done, rest))
    (ht : ∀ t, Token.read? r.flags (cs ++ ')' :: t) = some (.closing, t)) : Closes r cs r where
  ends := .stop h
  outer := ho
  goes_on {e t _} := Ends.next_iff (r := r.inside e) (ht t) (take?_closing_inside ho)
  refused {t _} := Ends.not_of_refused (ht t) Token.noConfusion (take?_closing ho)

theorem next (h : Token.read? r.flags cs = some (t, rest))
    (ht : ∀ u, Token.read? r.flags (cs ++ ')' :: u) = some (t, rest ++ ')' :: u))
    (hr : r.take? t = some r') (hc : Closes r' rest s) : Closes r cs s where
  ends := .next h hr hc.ends
  outer := hc.outer
  goes_on {e u s'} := by
    have hne : t = .closing → r.outer ≠ [] := by
      rintro rfl ho
      cases (take?_closing ho).symm.trans hr
    have hi : (r.inside e).take? t = some (r'.inside e) := by rw [take?_inside hne, hr]; rfl
    exact (Ends.next_iff (r := r.inside e) (ht u) hi).trans hc.goes_on
  refused {u s'} := (Ends.next_iff (ht u) hr).not.mpr hc.refused

-- A token that ends before the `)` is the same without the `)`.
theorem of_token {before q : List Char}
    (ht : Token.read? r.flags (before ++ cs ++ ')' :: q) = some (t, cs ++ ')' :: q))
    (hr : r.take? t = some r') (hc : Closes r' cs s) : Closes r (before ++ cs) s := by
  have hlt : q.length < (cs ++ ')' :: q).length := by
    rw [List.length_append, List.length_cons]
    omega
  cases Token.met r.flags (before ++ cs)
  case within _ hw =>
    have ⟨⟨t', rest⟩, hn, hx⟩ := Option.map_eq_some_iff.mp ((hw q).symm.trans ht)
    simp only [Prod.mk.injEq, List.append_left_inj] at hx
    obtain ⟨rfl, rfl⟩ := hx
    exact .next hn (fun u => by rw [hw u, hn]; rfl) hr hc
  case beyond hb => exact absurd (hb.past ht) (Nat.not_le.mpr hlt)
  case closing _ hu =>
    have hq : cs ++ ')' :: q = q := congrArg Prod.snd (Option.some.inj (ht.symm.trans (hu q)))
    exact absurd (congrArg List.length hq) (Nat.ne_of_gt hlt)
  case dangling _ hd =>
    rcases hd ht with hle | ⟨p, inner, hx, hi⟩
    · exact absurd hle (Nat.not_le.mpr hlt)
    · -- The brace would have to begin a repetition that is not there.
      simp only [Prod.mk.injEq, List.append_left_inj] at hx
      obtain ⟨rfl, rfl⟩ := hx
      cases hr
      exact absurd hc.ends (Ends.not_of_none (Token.read?_brace_of_nil hi))

end Closes

-- A group that is read is closed by some `)`.
theorem exists_closes (h : Ends (r.inside e) cs s') (ho : s'.outer = []) :
    ∃ p q s, cs = p ++ ')' :: q ∧ Closes r p s := by
  -- Along the run, up to the first `)` that comes while no group inside of the text is open.
  generalize hi : r.inside e = i at h
  induction h generalizing r
  case stop i _ _ _ =>
    rw [← hi] at ho
    exact absurd (List.append_eq_nil_iff.mp ho).right (List.cons_ne_nil _ _)
  case next i _ s' cs rest t ht hr _ ih =>
    subst hi
    by_cases hc : t = .closing ∧ r.outer = []
    case pos =>
      obtain ⟨rfl, hn⟩ := hc
      have ⟨p, hp, hd, hu⟩ := Token.exists_of_read?_closing (f := r.flags) ht
      exact ⟨p, rest, r, hp, .stop hn hd hu⟩
    case neg =>
      rw [take?_inside fun ht hn => hc ⟨ht, hn⟩] at hr
      obtain ⟨r', hr', rfl⟩ := Option.map_eq_some_iff.mp hr
      obtain ⟨p, q, s, rfl, hs⟩ := ih ho rfl
      have ⟨before, hb⟩ := (Token.suffix_of_read? ht).trans
        ((List.tail_suffix _).trans (skip_suffix _ _))
      rw [← List.append_assoc] at hb
      subst hb
      exact ⟨before ++ p, q, s, rfl, .of_token ht hr' hs⟩

-- A text that can be read closes the group around it, or swallows the `)` in a comment.
theorem Ends.closes_or_swallows (h : Ends r cs s) (ho : s.outer = []) :
    Closes r cs s ∨ Ends r (cs ++ [')']) s := by
  induction h
  case stop r cs rest hd =>
    cases Token.met r.flags cs
    case within hs _ => exact absurd (Token.skip_of_read?_done hd) hs
    case beyond hb => exact .inr (.stop (hb.swallowed hd).right)
    case closing _ ht => exact .inl (.stop ho hd ht)
    case dangling hn _ => cases hn.symm.trans hd
  case next r r' s cs rest t hn hr h ih =>
    cases Token.met r.flags cs
    case within _ hw =>
      have ht (u : List Char) : Token.read? r.flags (cs ++ ')' :: u) = some (t, rest ++ ')' :: u) := by
        rw [hw u, hn]
        rfl
      exact (ih ho).imp (.next hn ht hr) (.next (ht []) hr)
    case beyond hb =>
      have ⟨hnil, ht⟩ := hb.swallowed hn
      exact .inr (.next ht hr h)
    case closing hs _ =>
      rw [Token.read?_of_nil hs] at hn
      cases hn
      cases hr
    case dangling hd _ => cases hd.symm.trans hn

end WideTable.Pattern.Reader
