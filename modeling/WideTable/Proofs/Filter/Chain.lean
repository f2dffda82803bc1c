import WideTable.Proofs.Except
import WideTable.Proofs.Filter.Thinning

namespace WideTable

namespace Sieve

theorem chain_cons (sieve : Sieve) (sieves : List Sieve) (key : RowKey) (es : List Entry) :
    chain (sieve :: sieves) key es = chain sieves key (sieve key es) :=
  rfl

theorem chain_append (sieves₁ sieves₂ : List Sieve) (key : RowKey) (es : List Entry) :
    chain (sieves₁ ++ sieves₂) key es = chain sieves₂ key (chain sieves₁ key es) :=
  List.foldl_append

end Sieve

namespace Filter

variable {f : Filter} {fs gs : List Filter} {sieves : List Sieve}

theorem compileAll_cons_eq_ok :
    compileAll (f :: fs) = .ok sieves ↔
      ∃ sieve rest, f.compile = .ok sieve ∧ compileAll fs = .ok rest ∧ sieves = sieve :: rest := by
  simp [compileAll, Except.bind_eq_ok_iff, @eq_comm _ sieves]

theorem compileAll_append_eq_ok :
    compileAll (fs ++ gs) = .ok sieves ↔
      ∃ first rest, compileAll fs = .ok first ∧ compileAll gs = .ok rest ∧
        sieves = first ++ rest := by
  induction fs generalizing sieves
  case nil => simp [compileAll]
  case cons f fs ih =>
    simp only [List.cons_append, compileAll_cons_eq_ok, ih]
    grind

theorem compileAll_concat {sieve : Sieve} (h : f.compile = .ok sieve) (fs : List Filter) :
    compileAll (fs ++ [f]) = (compileAll fs).map (· ++ [sieve]) := by
  induction fs
  case nil =>
    simp only [List.nil_append, compileAll, h]
    rfl
  case cons g gs ih =>
    rw [List.cons_append, compileAll, compileAll, ih]
    cases g.compile
    case error => rfl
    case ok => cases compileAll gs <;> rfl

-- Whether a list of filters is sent as a chain, as it is, or not at all makes no difference.
theorem compileOptional_collapse? (fs : List Filter) :
    compileOptional (collapse? fs) = (compileAll fs).map Sieve.chain := by
  cases fs
  case nil => rfl
  case cons f fs =>
    cases fs
    case cons => rfl
    case nil =>
      have hc : compileOptional (collapse? [f]) = f.compile := rfl
      rw [hc, compileAll]
      cases f.compile <;> rfl

theorem compileOptional_collapse?_eq_ok {sieve : Sieve} :
    compileOptional (collapse? fs) = .ok sieve ↔
      ∃ sieves, compileAll fs = .ok sieves ∧ sieve = .chain sieves := by
  rw [compileOptional_collapse?]
  cases compileAll fs <;> simp [Except.map, eq_comm]

-- A filter of a chain is given what is left before it, and what it leaves is thinned out further.
theorem exists_between (h : compileAll fs = .ok sieves) (hf : f ∈ fs) :
    ∃ sieve, f.compile = .ok sieve ∧ ∀ key es, ∃ before, Thinned (fs.any strips) es before ∧
      Thinned (fs.any strips) (sieve key before) (Sieve.chain sieves key es) := by
  obtain ⟨gs, hs, rfl⟩ := List.append_of_mem hf
  obtain ⟨first, _, hg, hr, rfl⟩ := compileAll_append_eq_ok.mp h
  obtain ⟨sieve, rest, hc, hrest, rfl⟩ := compileAll_cons_eq_ok.mp hr
  refine ⟨sieve, hc, fun key es => ⟨Sieve.chain first key es, ?_, ?_⟩⟩
  · exact (thins_of_compileAll gs hg key es).mono fun ht => by simp [← anyStrips_eq_any, ht]
  · rw [Sieve.chain_append, Sieve.chain_cons]
    exact (thins_of_compileAll hs hrest key _).mono fun ht => by simp [← anyStrips_eq_any, ht]

end Filter
end WideTable
