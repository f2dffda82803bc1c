import WideTable.Proofs.Filter.Refusal
import WideTable.Proofs.Store.Selection

namespace WideTable

namespace Filter

-- One change to the form of a list of filters, be it in the list itself or in a chain inside.
inductive Reshapes : List Filter → List Filter → Prop
  | splice (fs gs hs : List Filter) : Reshapes (fs ++ chain gs :: hs) (fs ++ gs ++ hs)
  | wrap (fs : List Filter) (f : Filter) (hs : List Filter) :
      Reshapes (fs ++ f :: hs) (fs ++ chain [f] :: hs)
  | dropPassAll (fs hs : List Filter) : Reshapes (fs ++ passAll :: hs) (fs ++ hs)
  | dropEmpty (fs hs : List Filter) : Reshapes (fs ++ chain [] :: hs) (fs ++ hs)
  | inside (fs hs : List Filter) {gs gs' : List Filter} :
      Reshapes gs gs' → Reshapes (fs ++ chain gs :: hs) (fs ++ chain gs' :: hs)

variable {fs gs : List Filter}

theorem inTurn_chain (fs : List Filter) : inTurn [chain fs] = inTurn fs := by
  rw [inTurn_singleton, compile_chain_eq]

-- Filters between others may be replaced by those that have the same effect.
theorem inTurn_congr {gs gs' : List Filter} (h : inTurn gs = inTurn gs') (fs hs : List Filter) :
    inTurn (fs ++ gs ++ hs) = inTurn (fs ++ gs' ++ hs) := by
  rw [inTurn_append, inTurn_append fs, inTurn_append, inTurn_append fs, h]

theorem Reshapes.inTurn_eq (h : Reshapes fs gs) : inTurn fs = inTurn gs := by
  induction h
  case splice fs gs hs =>
    rw [List.append_cons]
    exact inTurn_congr (inTurn_chain gs) fs hs
  case wrap fs f hs =>
    rw [List.append_cons, List.append_cons fs (chain [f])]
    exact inTurn_congr (inTurn_chain [f]).symm fs hs
  case dropPassAll fs hs =>
    have hp : inTurn [passAll] = inTurn [] := rfl
    rw [List.append_cons, inTurn_congr hp, List.append_nil]
  case dropEmpty fs hs =>
    rw [List.append_cons, inTurn_congr (inTurn_chain []), List.append_nil]
  case inside fs hs gs gs' _ ih =>
    rw [List.append_cons, List.append_cons fs (chain gs')]
    refine inTurn_congr ?_ fs hs
    rw [inTurn_chain, inTurn_chain, ih]

theorem inTurn_eq_of_eqvGen (h : Relation.EqvGen Reshapes fs gs) : inTurn fs = inTurn gs := by
  induction h
  case rel h => exact h.inTurn_eq
  case refl => rfl
  case symm ih => exact ih.symm
  case trans ih₁ ih₂ => exact ih₁.trans ih₂

theorem compileAll_eq_mapM (fs : List Filter) : compileAll fs = fs.mapM compile := by
  induction fs
  case nil => rfl
  case cons f fs ih => rw [compileAll, List.mapM_cons, ih]

-- What comes after a leaf that keeps nothing is given nothing.
theorem eq_nil_of_blockAll_mem {sieve : Sieve} (h : inTurn fs = .ok sieve)
    (hb : blockAll ∈ fs.flatMap leaves) (key : RowKey) (es : List Entry) : sieve key es = [] := by
  rw [← inTurn_leavesOfAll, leavesOfAll_eq_flatMap, inTurn] at h
  cases hc : compileAll (fs.flatMap leaves) <;> rw [hc] at h <;> cases h
  obtain ⟨block, hblock, hbetween⟩ := exists_between hc hb
  cases hblock
  obtain ⟨_, _, ht⟩ := hbetween key es
  exact ht.eq_nil

end Filter

namespace Store

theorem read_collapse? (s : Store) (r : Request) (fs : List Filter) :
    s.read { r with filter := Filter.collapse? fs } = (Filter.inTurn fs).map fun sieve =>
      limited r.limit
        ((s.rows.entries.filter fun e => r.rows.admits e.1).filterMap sieve.row?) := by
  rw [read_eq, Filter.compileOptional_collapse?]
  rfl

theorem read_reshaped (s : Store) (r : Request) :
    let answer (fs : List Filter) := s.read { r with filter := Filter.collapse? fs }
    (∀ fs, answer fs = (fs.mapM Filter.compile).map fun sieves =>
      let selected := s.rows.entries.filter fun (key, _) => r.rows.admits key
      let filtered := selected.map fun (key, stored) =>
        (key, sieves.foldl (fun es sieve => sieve key es) (StoredRow.entries stored))
      let rows := (filtered.filter (·.2 ≠ [])).map fun (key, es) => Row.ofEntries key es
      if r.limit = 0 then rows else rows.take r.limit) ∧
    (∀ fs gs, Relation.EqvGen Filter.Reshapes fs gs → answer fs = answer gs) ∧
    ∀ fs, (∀ p ∈ fs.flatMap Filter.patterns, ∃ regex, Pattern.compile p = .ok regex) →
      .blockAll ∈ fs.flatMap Filter.leaves → answer fs = .ok [] := by
  intro answer
  have ha (fs : List Filter) : answer fs = _ := s.read_collapse? r fs
  refine ⟨fun fs => ?turns, fun fs gs h => ?same, fun fs hp hb => ?blocked⟩
  case turns =>
    rw [ha, Filter.inTurn, Filter.compileAll_eq_mapM]
    simp only [filterMap_row?]
    cases fs.mapM Filter.compile <;> rfl
  case same => rw [ha, ha, Filter.inTurn_eq_of_eqvGen h]
  case blocked =>
    obtain ⟨sieve, hs⟩ := Filter.exists_inTurn_eq_ok hp
    have hrow : sieve.row? = fun _ => none :=
      funext fun _ => if_pos (Filter.eq_nil_of_blockAll_mem hs hb _ _)
    simp [ha, hs, hrow, Except.map, limited]

-- A chain in a chain that keeps everything, and one that keeps nothing behind a pattern.
theorem read_reshaped_of_nested :
    let large : Filter := .valueRange ⟨.included [7], .unbounded⟩
    let nested : List Filter := [.chain [large, .chain [.passAll]], .cellsPerRow 1]
    let blocked : List Filter := [.matching .value "a", .chain [.blockAll]]
    let s := ofWrites [⟨[1], "f", [], ⟨0, [7], []⟩⟩]
    let r : Request := { table := "t", rows := .keys [[1]], limit := 1 }
    s.read { r with filter := Filter.collapse? nested } =
      s.read { r with filter := Filter.collapse? [large, .cellsPerRow 1] } ∧
    s.read { r with filter := Filter.collapse? blocked } = .ok [] := by
  intro large nested blocked s r
  have ⟨_, hsame, hblocked⟩ := s.read_reshaped r
  have hopen : Filter.Reshapes nested [large, .chain [.passAll], .cellsPerRow 1] :=
    .splice [] [large, .chain [.passAll]] [.cellsPerRow 1]
  have hopen' : Filter.Reshapes [large, .chain [.passAll], .cellsPerRow 1]
      [large, .passAll, .cellsPerRow 1] := .splice [large] [.passAll] [.cellsPerRow 1]
  have hdrop : Filter.Reshapes [large, .passAll, .cellsPerRow 1] [large, .cellsPerRow 1] :=
    .dropPassAll [large] [.cellsPerRow 1]
  have hsteps : Relation.EqvGen Filter.Reshapes nested [large, .cellsPerRow 1] :=
    .trans _ _ _ (.rel _ _ hopen) (.trans _ _ _ (.rel _ _ hopen') (.rel _ _ hdrop))
  refine ⟨hsame _ _ hsteps, hblocked _ (fun p hp => ?_) (.tail _ (.head _))⟩
  cases List.mem_singleton.mp hp
  exact Pattern.isRefused_eq_false_iff.mp (by decide +kernel)

end Store
end WideTable
