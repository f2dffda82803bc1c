import WideTable.Proofs.Read.Reached

namespace WideTable

namespace State

variable {s t : State} {calls : List Call} {c : Call}

-- The state that calls lead to, if each of them is possible where it is made.
def run? (s : State) (calls : List Call) : Option State :=
  calls.foldlM next? s

theorem run?_append (s : State) (xs ys : List Call) :
    s.run? (xs ++ ys) = (s.run? xs).bind (·.run? ys) :=
  List.foldlM_append

theorem run?_cons (s : State) (c : Call) (calls : List Call) :
    s.run? (c :: calls) = (s.next? c).bind (·.run? calls) :=
  List.foldlM_cons

theorem run?_concat_eq_some :
    s.run? (calls ++ [c]) = some t ↔ ∃ u, s.run? calls = some u ∧ u.next? c = some t := by
  have hc (u : State) : u.run? [c] = u.next? c := by
    rw [run?_cons]
    cases u.next? c <;> rfl
  simp only [run?_append, Option.bind_eq_some_iff, hc]

-- Calls of a tier of their own can be repeated.
theorem run?_eq_self (h : ∀ c ∈ calls, s.next? c = some s) : s.run? calls = some s := by
  induction calls
  case nil => rfl
  case cons c calls ih =>
    rw [run?_cons, h c (.head _), Option.bind_some, ih fun d hd => h d (.tail _ hd)]

theorem next?_flatten {l : Level} (h : s.shape = .list l) (hl : l ≠ .cell) :
    s.next? .flatten = some (flatten s) := by
  have hn : s.shape.isNested = true := by
    rw [h]
    cases l
    case cell => contradiction
    all_goals rfl
  have he : s.next? .flatten = if s.shape.isNested then some (flatten s) else none := by
    rw [next?, nextOfKind?.eq_def]
    rfl
  rw [he, if_pos hn]

theorem run?_flattens {n : Nat}
    (h : ∀ m < n, ∃ l, (flatten^[m] s).shape = .list l ∧ l ≠ .cell) :
    s.run? (.replicate n .flatten) = some (flatten^[n] s) := by
  induction n
  case zero => rfl
  case succ n ih =>
    have ⟨l, hs, hl⟩ := h n (Nat.lt_succ_self n)
    rw [List.replicate_succ', Function.iterate_succ_apply']
    exact run?_concat_eq_some.mpr
      ⟨_, ih fun m hm => h m (Nat.lt_succ_of_lt hm), next?_flatten hs hl⟩

theorem exists_list_of_isNested {x : Shape} (h : x.isNested = true) :
    ∃ l, x = .list l ∧ l ≠ .cell := by
  cases x
  case optional => cases h
  case list l => exact ⟨l, rfl, by rintro rfl; cases h⟩

end State

-- Whether a call narrows to one part or to many.
def Call.cardinality (c : Call) : Cardinality :=
  match c.kind with
  | .oneFamily | .oneColumn | .latestCell => .one
  | _ => .many

-- How far down from its rows a read is narrowed, by the calls at each tier. There are no calls at a
-- tier before those at the tiers above.
inductive Descent
  | rows
  | family (f : Call)
  | column (f q : Call) (bounds : List Call)
  | cell (f q : Call) (bounds : List Call) (v : Call) (conditions : List Call)

namespace Descent

variable {b c : Cardinality} {f q v : Call} {bounds conditions : List Call} {d : Descent}

def calls : Descent → List Call
  | rows => []
  | family f => [f]
  | column f q bounds => f :: q :: bounds
  | cell f q bounds v conditions => f :: q :: bounds ++ v :: conditions

-- One call to the families, then those at the columns, then those at the cells.
theorem calls_cell (f q v : Call) (bounds conditions : List Call) :
    (cell f q bounds v conditions).calls = f :: ((q :: bounds) ++ v :: conditions) :=
  rfl

def ToFamilies (f : Call) : Prop :=
  f.kind = .oneFamily ∨ f.kind = .manyFamilies

-- One column is found in one family, and only of many columns there is a range.
def ToColumns (f q : Call) (bounds : List Call) : Prop :=
  (q.kind = .oneColumn ∧ f.kind = .oneFamily ∧ bounds = []) ∨
    (q.kind = .manyColumns ∧ ∀ c ∈ bounds, c.kind = .boundColumns)

-- The latest cell is not looked at any further.
def ToCells (v : Call) (conditions : List Call) : Prop :=
  (v.kind = .latestCell ∧ conditions = []) ∨
    (v.kind = .allCells ∧ ∀ c ∈ conditions, c.kind = .filterCells)

def Possible : Descent → Prop
  | rows => True
  | family f => ToFamilies f
  | column f q bounds => ToFamilies f ∧ ToColumns f q bounds
  | cell f q bounds v conditions => ToFamilies f ∧ ToColumns f q bounds ∧ ToCells v conditions

-- Where the calls lead to from the rows.
def state (b : Cardinality) : Descent → State
  | rows => .rows b
  | family f => .narrow .family f.cardinality (.rows b)
  | column f q _ => .narrow .column q.cardinality (.narrow .family f.cardinality (.rows b))
  | cell f q _ v _ =>
    .narrow .cell v.cardinality
      (.narrow .column q.cardinality (.narrow .family f.cardinality (.rows b)))

theorem next?_family (h : ToFamilies f) :
    (State.rows b).next? f = some ((family f).state b) := by
  rcases h with h | h <;> simp [State.next?, State.nextOfKind?, state, Call.cardinality, h]

theorem run?_columns (h : ToColumns f q bounds) :
    ((family f).state b).run? (q :: bounds) = some ((column f q bounds).state b) := by
  rcases h with ⟨hq, hf, rfl⟩ | ⟨hq, hbounds⟩
  case inl =>
    simp [State.run?, State.next?, State.nextOfKind?, state, Call.cardinality, hq, hf]
  case inr =>
    have hn : ((family f).state b).next? q = some ((column f q bounds).state b) := by
      simp [State.next?, State.nextOfKind?, state, Call.cardinality, hq]
    rw [State.run?_cons, hn]
    refine State.run?_eq_self fun c hc => ?_
    simp [State.next?, State.nextOfKind?, state, Call.cardinality, hq, hbounds c hc]

theorem run?_cells (h : ToCells v conditions) :
    ((column f q bounds).state b).run? (v :: conditions) =
      some ((cell f q bounds v conditions).state b) := by
  rcases h with ⟨hv, rfl⟩ | ⟨hv, hconditions⟩
  case inl => simp [State.run?, State.next?, State.nextOfKind?, state, Call.cardinality, hv]
  case inr =>
    have hn : ((column f q bounds).state b).next? v =
        some ((cell f q bounds v conditions).state b) := by
      simp [State.next?, State.nextOfKind?, state, Call.cardinality, hv]
    rw [State.run?_cons, hn]
    refine State.run?_eq_self fun c hc => ?_
    simp [State.next?, State.nextOfKind?, state, Call.cardinality, hv, hconditions c hc]

theorem Possible.run? (h : d.Possible) : (State.rows b).run? d.calls = some (d.state b) := by
  cases d
  case rows => rfl
  case family f =>
    rw [calls, State.run?_cons, next?_family h]
    rfl
  case column f q bounds =>
    have ⟨hf, hq⟩ := h
    rw [calls, State.run?_cons, next?_family hf]
    exact run?_columns hq
  case cell f q bounds v conditions =>
    have ⟨hf, hq, hv⟩ := h
    rw [calls_cell, State.run?_cons, next?_family hf, Option.bind_some, State.run?_append,
      run?_columns hq]
    exact run?_cells hv

-- What a call adds to the calls so far, if it neither selects rows nor flattens lists.
theorem Possible.concat (h : d.Possible) {a : Call} {t : State} (hn : (d.state b).Next a.kind t) :
    a.kind = .flatten ∨ (a.kind = .selectRows ∧ b = .many ∧ d = rows ∧ t = .rows b) ∨
      ∃ e : Descent, e.Possible ∧ e.calls = d.calls ++ [a] ∧ e.state b = t := by
  generalize hk : a.kind = k at hn ⊢
  cases d
  case rows =>
    rw [state] at hn
    cases hn
    case selectRows => exact .inr (.inl ⟨rfl, rfl, rfl, rfl⟩)
    case oneFamily | manyFamilies =>
      refine .inr (.inr ⟨family a, ?_, rfl, ?_⟩)
      · simp [Possible, ToFamilies, hk]
      · simp [state, Call.cardinality, hk]
    case flatten => exact .inl rfl
  case family f =>
    have hq (g : Call) (hg : ToColumns f g []) : (column f g []).Possible := ⟨h, hg⟩
    rw [state] at hn
    generalize hf : f.cardinality = c at hn
    cases hn
    case oneColumn =>
      have hf' : f.kind = .oneFamily := by
        rcases h with h | h
        · exact h
        · simp [Call.cardinality, h] at hf
      refine .inr (.inr ⟨column f a [], hq a (.inl ⟨hk, hf', rfl⟩), rfl, ?_⟩)
      simp [state, Call.cardinality, hk, hf']
    case manyColumns =>
      refine .inr (.inr ⟨column f a [], hq a (.inr ⟨hk, nofun⟩), rfl, ?_⟩)
      rw [state, hf]
      simp [Call.cardinality, hk]
    case flatten => exact .inl rfl
  case column f q bounds =>
    have ⟨hf, hq⟩ := h
    rw [state] at hn
    generalize hc : q.cardinality = c at hn
    cases hn
    case boundColumns =>
      rcases hq with ⟨hq, _, _⟩ | ⟨hq, hbounds⟩
      case inl => simp [Call.cardinality, hq] at hc
      case inr =>
        refine .inr (.inr ⟨column f q (bounds ++ [a]), ⟨hf, .inr ⟨hq, ?_⟩⟩, rfl, ?_⟩)
        · simpa [or_imp, forall_and, hk] using hbounds
        · rw [state, hc]
    case latestCell =>
      refine .inr (.inr ⟨cell f q bounds a [], ⟨hf, hq, .inl ⟨hk, rfl⟩⟩, rfl, ?_⟩)
      rw [state, hc]
      simp [Call.cardinality, hk]
    case allCells =>
      refine .inr (.inr ⟨cell f q bounds a [], ⟨hf, hq, .inr ⟨hk, nofun⟩⟩, rfl, ?_⟩)
      rw [state, hc]
      simp [Call.cardinality, hk]
    case flatten => exact .inl rfl
  case cell f q bounds v conditions =>
    have ⟨hf, hq, hv⟩ := h
    rw [state] at hn
    generalize hc : v.cardinality = c at hn
    cases hn
    case filterCells =>
      rcases hv with ⟨hv, _⟩ | ⟨hv, hconditions⟩
      case inl => simp [Call.cardinality, hv] at hc
      case inr =>
        refine .inr (.inr ⟨cell f q bounds v (conditions ++ [a]), ⟨hf, hq, .inr ⟨hv, ?_⟩⟩, ?_, ?_⟩)
        · simpa [or_imp, forall_and, hk] using hconditions
        · simp [calls]
        · rw [state, hc]
    case flatten => exact .inl rfl

end Descent

-- The calls of a read, in the three parts that they come in.
structure Stages where
  rows     : List Call
  descent  : Descent
  flattens : Nat

namespace Stages

variable {b : Cardinality} {p : Stages}

def calls (p : Stages) : List Call :=
  p.rows ++ p.descent.calls ++ .replicate p.flattens .flatten

def state (b : Cardinality) (p : Stages) : State :=
  State.flatten^[p.flattens] (p.descent.state b)

-- Whether a read of one row or of many has the calls. Rows are only selected where there are many,
-- and lists are only flattened where there are lists of what has parts.
structure Possible (b : Cardinality) (p : Stages) : Prop where
  rows     : ∀ c ∈ p.rows, c.kind = .selectRows ∧ b = .many
  descent  : p.descent.Possible
  flattens : ∀ n < p.flattens, ∃ l : Level,
    (State.flatten^[n] (p.descent.state b)).shape = .list l ∧ l ≠ .cell

theorem Possible.run? (h : p.Possible b) : (State.rows b).run? p.calls = some (p.state b) := by
  have hrows : (State.rows b).run? p.rows = some (.rows b) := by
    refine State.run?_eq_self fun c hc => ?_
    have ⟨hk, hb⟩ := h.rows c hc
    simp [State.next?, State.nextOfKind?, hk, hb]
  rw [calls, State.run?_append, State.run?_append, hrows, Option.bind_some, h.descent.run?,
    Option.bind_some]
  exact State.run?_flattens h.flattens

-- One more call is one more of its stage.
theorem Possible.concat (h : p.Possible b) {c : Call} {t : State}
    (hc : (p.state b).next? c = some t) :
    ∃ q : Stages, q.Possible b ∧ q.calls = p.calls ++ [c] ∧ q.state b = t := by
  have hn := State.Next.of_eq_some hc
  obtain ⟨rows, descent, n⟩ := p
  by_cases hk : c.kind = .flatten
  case pos =>
    rw [hk] at hn
    cases c <;> cases hk
    generalize hu : state b ⟨rows, descent, n⟩ = u at hn
    cases hn
    case flatten hs =>
      subst hu
      refine ⟨⟨rows, descent, n + 1⟩, ⟨h.rows, h.descent, fun m hm => ?_⟩, ?_, ?_⟩
      · rcases Nat.lt_succ_iff_lt_or_eq.mp hm with hm | rfl
        · exact h.flattens m hm
        · exact State.exists_list_of_isNested hs
      · simp [calls, List.replicate_succ']
      · exact Function.iterate_succ_apply' ..
  case neg =>
    cases n
    case succ n =>
      -- After a list was flattened there is no other call.
      have hs : state b ⟨rows, descent, n + 1⟩ = .flatten (state b ⟨rows, descent, n⟩) :=
        Function.iterate_succ_apply' ..
      rw [hs] at hn
      generalize c.kind = k at hn hk
      cases hn
      contradiction
    case zero =>
      rcases h.descent.concat hn with hk' | ⟨hk', rfl, rfl, rfl⟩ | ⟨e, he, hcalls, rfl⟩
      case inl => contradiction
      case inr.inl =>
        refine ⟨⟨rows ++ [c], .rows, 0⟩, ⟨?_, h.descent, nofun⟩, ?_, rfl⟩
        · simpa [or_imp, forall_and, hk'] using h.rows
        · simp [calls, Descent.calls]
      case inr.inr =>
        refine ⟨⟨rows, e, 0⟩, ⟨h.rows, he, nofun⟩, ?_, rfl⟩
        simp [calls, hcalls]

theorem exists_of_run? {calls : List Call} {t : State} (h : (State.rows b).run? calls = some t) :
    ∃ p : Stages, p.Possible b ∧ p.calls = calls ∧ p.state b = t := by
  induction calls using List.reverseRecOn generalizing t
  case nil =>
    cases h
    exact ⟨⟨[], .rows, 0⟩, ⟨nofun, trivial, nofun⟩, rfl, rfl⟩
  case append_singleton calls c ih =>
    have ⟨u, hu, hc⟩ := State.run?_concat_eq_some.mp h
    obtain ⟨p, hp, rfl, rfl⟩ := ih hu
    exact hp.concat hc

end Stages

theorem Read.Reached.run?_eq {table : TableName} {profile : Option String} {e : Start}
    {calls : List Call} {s : State} {r : Read s} (h : Reached table profile e calls r) :
    e.state.run? calls = some s := by
  induction h
  case start => rfl
  case call hc _ _ ih => exact State.run?_concat_eq_some.mpr ⟨_, ih, hc⟩

end WideTable
