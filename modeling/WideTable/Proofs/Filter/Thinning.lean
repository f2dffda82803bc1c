import WideTable.Filter.Apply
import WideTable.Proofs.Row.WellFormed

namespace WideTable

def Entry.strip (e : Entry) : Entry :=
  { e with cell := { e.cell with value := [] } }

@[simp]
theorem Entry.strip_strip (e : Entry) : e.strip.strip = e.strip :=
  rfl

-- Some of the entries are left, in order, and stripped of their values only if they may be.
def Thinned (stripping : Bool) (es rest : List Entry) : Prop :=
  ∃ kept, kept.Sublist es ∧ (rest = kept ∨ stripping = true ∧ rest = kept.map Entry.strip)

namespace Thinned

variable {s t : Bool} {es fs gs : List Entry}

theorem of_sublist (h : fs.Sublist es) : Thinned s es fs :=
  ⟨fs, h, .inl rfl⟩

theorem refl : Thinned s es es :=
  of_sublist (.refl es)

theorem mono (h : Thinned s es fs) (hst : s = true → t = true) : Thinned t es fs := by
  have ⟨kept, hk, hf⟩ := h
  exact ⟨kept, hk, hf.imp_right (.imp_left hst)⟩

theorem eq_nil (h : Thinned s [] fs) : fs = [] := by
  have ⟨kept, hk, hf⟩ := h
  cases List.sublist_nil.mp hk
  exact hf.elim id And.right

-- What does not hang on values holds of all that is left.
theorem forall_mem {p : Entry → Prop} (h : Thinned s es fs) (hp : ∀ e, p e → p e.strip)
    (he : ∀ e ∈ es, p e) : ∀ e ∈ fs, p e := by
  have ⟨kept, hk, hf⟩ := h
  have hkept : ∀ e ∈ kept, p e := fun e hm => he e (hk.subset hm)
  rcases hf with rfl | ⟨_, rfl⟩
  · exact hkept
  · intro e hm
    have ⟨d, hd, hde⟩ := List.mem_map.mp hm
    exact hde ▸ hp d (hkept d hd)

theorem sublist (h : Thinned false es fs) : fs.Sublist es := by
  have ⟨kept, hk, hf⟩ := h
  exact hf.resolve_right (by simp) ▸ hk

theorem trans (h₁ : Thinned s es fs) (h₂ : Thinned t fs gs) : Thinned (s || t) es gs := by
  have ⟨kept₁, hk₁, hf⟩ := h₁
  have ⟨kept₂, hk₂, hg⟩ := h₂
  cases hf
  case inl hf =>
    cases hf
    exact ⟨kept₂, hk₂.trans hk₁, hg.imp_right (.imp_left (by simp [·]))⟩
  case inr hf =>
    -- What is kept of stripped entries are the stripped ones of those kept before.
    have ⟨kept, hk, he⟩ := List.sublist_map_iff.mp (hf.right ▸ hk₂)
    refine ⟨kept, hk.trans hk₁, .inr ⟨by simp [hf.left], ?_⟩⟩
    cases hg
    case inl hg => rw [hg, he]
    case inr hg => simp [hg.right, he]

theorem pairwise (h : Thinned s es fs) (hb : es.Pairwise Entry.Before) :
    fs.Pairwise Entry.Before := by
  have ⟨kept, hk, hf⟩ := h
  have hb := hb.sublist hk
  cases hf
  case inl hf => exact hf ▸ hb
  case inr hf => exact hf.right ▸ List.pairwise_map.mpr hb

end Thinned

namespace Sieve

-- Thins out the entries of any row.
def Thins (stripping : Bool) (sieve : Sieve) : Prop :=
  ∀ key es, Thinned stripping es (sieve key es)

theorem thins_keep (p : Entry → Bool) : Thins false (keep p) :=
  fun _ _ => .of_sublist List.filter_sublist

theorem thins_keepRow (p : RowKey → Bool) : Thins false (keepRow p) := by
  intro key es
  rw [keepRow]
  split
  case isTrue => exact .refl
  case isFalse => exact .of_sublist (List.nil_sublist es)

theorem thins_matching (r : Regex) (field : Field) : Thins false (matching r field) := by
  cases field
  case rowKey => exact thins_keepRow _
  all_goals exact thins_keep _

theorem firstOfRuns_sublist (limit : UInt32) (column : Option (String × Qualifier)) (seen : UInt32)
    (es : List Entry) : (firstOfRuns limit column seen es).Sublist es := by
  induction es generalizing column seen
  case nil => exact .refl _
  case cons e es ih =>
    rw [firstOfRuns]
    generalize (if column = some (e.family, e.qualifier) then seen + 1 else 1) = count
    split
    case isTrue => exact (ih _ _).cons_cons e
    case isFalse => exact (ih _ _).cons e

theorem thins_chain_nil : Thins false (chain []) :=
  fun _ _ => .refl

theorem thins_chain_cons {s t : Bool} {sieve : Sieve} {sieves : List Sieve} (h : Thins s sieve)
    (hs : Thins t (chain sieves)) : Thins (s || t) (chain (sieve :: sieves)) :=
  fun key es => (h key es).trans (hs key (sieve key es))

end Sieve

namespace Filter

mutual

-- Whether values are stripped somewhere in the filter.
def strips : Filter → Bool
  | stripValue => true
  | chain filters => anyStrips filters
  | _ => false

def anyStrips : List Filter → Bool
  | [] => false
  | f :: fs => strips f || anyStrips fs

end

theorem anyStrips_eq_any (fs : List Filter) : anyStrips fs = fs.any strips := by
  induction fs with
  | nil => rfl
  | cons f fs ih => rw [anyStrips, ih, List.any_cons]

mutual

-- One case for each kind of filter. Chains lead back to filters.
theorem thins_of_compile : (f : Filter) → {sieve : Sieve} → f.compile = .ok sieve →
    sieve.Thins f.strips
  | passAll, _, h => by cases h; exact fun _ _ => .refl
  | blockAll, _, h => by cases h; exact fun _ es => .of_sublist (List.nil_sublist es)
  | regex field pattern, _, h => by
    cases hp : Pattern.compile pattern <;> rw [compile, hp] at h <;> cases h
    exact Sieve.thins_matching _ field
  | qualifierRange .., _, h => by cases h; exact Sieve.thins_keep _
  | valueRange .., _, h => by cases h; exact Sieve.thins_keep _
  | timestampRange .., _, h => by cases h; exact Sieve.thins_keep _
  | cellsPerColumn limit, _, h => by
    cases h
    exact fun _ es => .of_sublist (Sieve.firstOfRuns_sublist limit none 0 es)
  | cellsPerRow limit, _, h => by cases h; exact fun _ es => .of_sublist (List.take_sublist _ es)
  | cellsOffset count, _, h => by cases h; exact fun _ es => .of_sublist (List.drop_sublist _ es)
  | stripValue, _, h => by cases h; exact fun _ es => ⟨es, .refl es, .inr ⟨rfl, rfl⟩⟩
  | chain filters, _, h => by
    cases hf : compileAll filters <;> rw [compile, hf] at h <;> cases h
    exact thins_of_compileAll filters hf

theorem thins_of_compileAll : (fs : List Filter) → {sieves : List Sieve} →
    compileAll fs = .ok sieves → (Sieve.chain sieves).Thins (anyStrips fs)
  | [], _, h => by cases h; exact Sieve.thins_chain_nil
  | f :: fs, _, h => by
    cases hf : compile f <;> rw [compileAll, hf] at h
    case error => cases h
    case ok =>
      cases hfs : compileAll fs <;> rw [hfs] at h <;> cases h
      exact Sieve.thins_chain_cons (thins_of_compile f hf) (thins_of_compileAll fs hfs)

end

theorem thins_of_compileOptional : {f : Option Filter} → {sieve : Sieve} →
    compileOptional f = .ok sieve → sieve.Thins (f.any strips)
  | none, _, h => by cases h; exact fun _ _ => .refl
  | some f, _, h => thins_of_compile f h

end Filter
end WideTable
