import WideTable.Proofs.Except
import WideTable.Proofs.Filter.Limit
import WideTable.Proofs.Filter.Refusal

namespace WideTable

theorem take_filter_of_pairwise {α : Type} {p : α → Bool} {l : List α}
    (h : l.Pairwise fun a b => p b → p a) (n : Nat) :
    (l.filter p).take n = (l.take n).filter p := by
  induction l generalizing n
  case nil => simp
  case cons a l ih =>
    obtain ⟨ha, hl⟩ := List.pairwise_cons.mp h
    cases n
    case zero => rfl
    case succ n =>
      rw [List.take_succ_cons]
      by_cases hp : p a
      case pos => rw [List.filter_cons_of_pos hp, List.filter_cons_of_pos hp, List.take_succ_cons, ih hl]
      case neg =>
        -- Nothing that comes later is kept either.
        have hnone : l.filter p = [] := List.filter_eq_nil_iff.mpr fun b hb hpb => hp (ha b hb hpb)
        have hnone' : (l.take n).filter p = [] := by rw [← ih hl, hnone, List.take_nil]
        rw [List.filter_cons_of_neg hp, List.filter_cons_of_neg hp, hnone, hnone', List.take_nil]

namespace Entry

-- Entries in order, no more of a column than a limit can count.
structure Regular (es : List Entry) : Prop where
  ordered   : es.Pairwise Before
  countable : ∀ x, (es.filter (·.column = x)).length < UInt32.size

theorem Regular.thinned {es fs : List Entry} (h : Regular es) {stripping : Bool}
    (ht : Thinned stripping es fs) : Regular fs where
  ordered := ht.pairwise h.ordered
  countable x := (ht.length_filter_column_le x).trans_lt (h.countable x)

theorem Regular.sublist {es fs : List Entry} (h : Regular es) (hs : fs.Sublist es) : Regular fs :=
  have ht : Thinned false es fs := .of_sublist hs
  h.thinned ht

-- What keeps an entry keeps those that stand before it in its column.
def Upward (p : Entry → Bool) : Prop :=
  ∀ a b : Entry, a.column = b.column → a.Before b → p b → p a

theorem upward_of_column {p : Entry → Bool} (h : ∀ a b : Entry, a.column = b.column → p a = p b) :
    Upward p :=
  fun a b hc _ hb => h a b hc ▸ hb

-- Later versions come first.
theorem Before.timestamp_lt {a b : Entry} (h : a.Before b) (hc : a.column = b.column) :
    b.cell.timestamp < a.cell.timestamp := by
  obtain ⟨f, q, _⟩ := a
  obtain ⟨rfl, rfl⟩ := Prod.mk.inj hc
  exact before_in_column.mp h

theorem upward_start (start : Int64) : Upward fun e => start ≤ e.cell.timestamp := by
  intro a b hc hab hb
  have hlt := hab.timestamp_lt hc
  grind

end Entry

namespace Sieve

open Entry

variable {es : List Entry} {n : UInt32} {p : Entry → Bool}

theorem regular_cellsPerColumn (h : Regular es) (n : UInt32) (key : RowKey) :
    Regular (cellsPerColumn n key es) :=
  h.sublist (firstOfRuns_sublist n none 0 es)

-- Which filters may change places with a limit per column: those that never drop an entry and keep an
-- older one of its column.
theorem cellsPerColumn_filter (h : Regular es) (hp : Upward p) (n : UInt32) (key : RowKey) :
    cellsPerColumn n key (es.filter p) = (cellsPerColumn n key es).filter p := by
  have hf : Regular (es.filter p) := h.sublist List.filter_sublist
  have hc := regular_cellsPerColumn h n key
  refine eq_of_filter_column (regular_cellsPerColumn hf n key).ordered (hc.ordered.filter p) fun x => ?_
  -- In one column, both take the first of those that are kept.
  have hx : (es.filter (·.column = x)).Pairwise fun a b => p b → p a := by
    refine (h.ordered.filter _).imp_of_mem fun {a b} ha hb hab => hp a b ?_ hab
    simp only [List.mem_filter, decide_eq_true_eq] at ha hb
    exact ha.right.trans hb.right.symm
  calc (cellsPerColumn n key (es.filter p)).filter (·.column = x)
    _ = ((es.filter (·.column = x)).filter p).take n.toNat := by
      rw [filter_cellsPerColumn n key hf.ordered (hf.countable x), List.filter_comm]
    _ = ((es.filter (·.column = x)).take n.toNat).filter p := take_filter_of_pairwise hx _
    _ = ((cellsPerColumn n key es).filter p).filter (·.column = x) := by
      rw [← filter_cellsPerColumn n key h.ordered (h.countable x), List.filter_comm]

theorem timestampRange_start (start : Int64) (key : RowKey) (es : List Entry) :
    timestampRange (some start) none key es = es.filter fun e => start ≤ e.cell.timestamp := by
  simp [timestampRange, keep]

theorem cellsPerColumn_cellsPerColumn (h : Regular es) (m n : UInt32) (key : RowKey) :
    cellsPerColumn n key (cellsPerColumn m key es) = cellsPerColumn (min m n) key es := by
  have hm := regular_cellsPerColumn h m key
  refine eq_of_filter_column (regular_cellsPerColumn hm n key).ordered
    (regular_cellsPerColumn h _ key).ordered fun x => ?_
  rw [filter_cellsPerColumn n key hm.ordered (hm.countable x),
    filter_cellsPerColumn m key h.ordered (h.countable x),
    filter_cellsPerColumn _ key h.ordered (h.countable x), List.take_take, min_comm,
    UInt32.toNat_min]

end Sieve

namespace Filter

variable {fs fs' gs gs' : List Filter} {sieve : Sieve} {P : List Entry → Prop}

theorem inTurn_append_eq_ok :
    inTurn (fs ++ gs) = .ok sieve ↔
      ∃ first second, inTurn fs = .ok first ∧ inTurn gs = .ok second ∧
        sieve = first.andThen second := by
  simp [inTurn_append, Except.bind_eq_ok_iff, @eq_comm _ sieve]

theorem thins_of_inTurn (h : inTurn fs = .ok sieve) : ∃ stripping, sieve.Thins stripping := by
  rw [inTurn] at h
  cases hc : compileAll fs <;> rw [hc] at h <;> cases h
  exact ⟨_, thins_of_compileAll fs hc⟩

-- What holds of all that one of the filters leaves, and does not hang on values, holds of the rest.
theorem forall_mem_of_inTurn (h : inTurn fs = .ok sieve) {f : Filter} (hf : f ∈ fs)
    {p : Entry → Prop} (hstrip : ∀ e, p e → p e.strip)
    (hp : ∀ keep, f.compile = .ok keep → ∀ key es, ∀ e ∈ keep key es, p e) (key : RowKey)
    (es : List Entry) : ∀ e ∈ sieve key es, p e := by
  rw [inTurn] at h
  cases hc : compileAll fs <;> rw [hc] at h <;> cases h
  obtain ⟨keep, hkeep, hbetween⟩ := exists_between hc hf
  obtain ⟨before, _, hafter⟩ := hbetween key es
  exact hafter.forall_mem hstrip (hp keep hkeep key before)

-- What the one filters do to entries like these, the other ones do too.
def SameOn (P : List Entry → Prop) (fs gs : List Filter) : Prop :=
  ∀ s, inTurn fs = .ok s → ∃ t, inTurn gs = .ok t ∧ ∀ key es, P es → s key es = t key es

theorem sameOn_of_eq {first second : Sieve} (hf : inTurn fs = .ok first)
    (hg : inTurn gs = .ok second) (h : ∀ key es, P es → first key es = second key es) :
    SameOn P fs gs := by
  intro s hs
  cases hf.symm.trans hs
  exact ⟨second, hg, h⟩

theorem SameOn.append (hP : ∀ {stripping es rest}, Thinned stripping es rest → P es → P rest)
    (h : SameOn P fs gs) (h' : SameOn P fs' gs') : SameOn P (fs ++ fs') (gs ++ gs') := by
  intro s hs
  obtain ⟨first, second, hfirst, hsecond, rfl⟩ := inTurn_append_eq_ok.mp hs
  obtain ⟨t, ht, hsame⟩ := h first hfirst
  obtain ⟨t', ht', hsame'⟩ := h' second hsecond
  obtain ⟨_, hthins⟩ := thins_of_inTurn hfirst
  refine ⟨_, inTurn_append_eq_ok.mpr ⟨t, t', ht, ht', rfl⟩, fun key es hes => ?_⟩
  rw [Sieve.andThen, Sieve.andThen, ← hsame key es hes, hsame' key _ (hP (hthins key es) hes)]

end Filter
end WideTable
