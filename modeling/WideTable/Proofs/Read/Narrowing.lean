import WideTable.Proofs.Filter.Exact
import WideTable.Proofs.Regex.LiteralSize
import WideTable.Proofs.Row.Lookup
import WideTable.Proofs.Store.Selection
import WideTable.Proofs.Store.Stored
import WideTable.Read.Basic

namespace WideTable

namespace Pattern

-- The first literal that cannot be matched.
def tooLong? (ls : List Bytes) : Option Bytes :=
  ls.find? (maxLiteral < ·.length)

theorem tooLong?_cons (l : Bytes) (ls : List Bytes) :
    tooLong? (l :: ls) = if l.length ≤ maxLiteral then tooLong? ls else some l := by
  by_cases h : l.length ≤ maxLiteral
  case pos => simp [tooLong?, h]
  case neg => simp [tooLong?, h, Nat.lt_of_not_le h]

end Pattern

namespace Sieve

def only (field : Field) (l : Bytes) : Sieve :=
  fun key es => es.filter (field.content key · = l)

-- The columns with this name, in the families with that name.
def onColumn (f : String) (q : Qualifier) : Sieve :=
  chain [only .family (Bytes.ofText f), only .qualifier q]

def onLatest (f : String) (q : Qualifier) : Sieve :=
  chain [only .family (Bytes.ofText f), only .qualifier q, cellsPerColumn 1]

theorem only_family (f : String) (key : RowKey) (es : List Entry) :
    only .family (Bytes.ofText f) key es = es.filter (·.family = f) :=
  List.filter_congr fun e _ => by simp [Field.content, Bytes.ofText_inj]

-- What is left of a row, unless nothing is.
def ofRow? (sieve : Sieve) (r : Row) : Option Row :=
  if sieve r.key r.entries = [] then none else some (.ofEntries r.key (sieve r.key r.entries))

variable {sieve : Sieve} {r : Row}

theorem ofRow?_eq_none (h : sieve r.key r.entries = []) : sieve.ofRow? r = none :=
  if_pos h

theorem ofRow?_eq_some {fs : List Family} (hr : (Row.mk r.key fs).WellFormed)
    (h : sieve r.key r.entries = (Row.mk r.key fs).entries) :
    sieve.ofRow? r = some ⟨r.key, fs⟩ := by
  rw [ofRow?, h, if_neg hr.entries_ne_nil, hr.ofEntries_entries]

theorem ofRow?_eq_family {g : Family} (hg : g.WellFormed) (h : sieve r.key r.entries = g.entries) :
    sieve.ofRow? r = some ⟨r.key, [g]⟩ :=
  ofRow?_eq_some (hg.row r.key) (h.trans (Row.entries_mk_singleton r.key g).symm)

theorem ofRow?_eq_column {c : Column} (hc : c.WellFormed) {f : String}
    (h : sieve r.key r.entries = c.entries f) : sieve.ofRow? r = some ⟨r.key, [⟨f, [c]⟩]⟩ :=
  ofRow?_eq_family (hc.family f) (h.trans (c.entries_mk_singleton f).symm)

end Sieve

namespace Filter

theorem compile_exact (field : Field) (l : Bytes) :
    (exact field l).compile =
      if l.length ≤ Pattern.maxLiteral then .ok (Sieve.only field l)
      else .error (.refused (Pattern.ofLiteral l)) := by
  have hs : Sieve.matching (.exactly [l]) field = Sieve.only field l := by
    funext key es
    rw [Sieve.matching_exactly]
    simp only [List.mem_singleton]
    rfl
  have hc := compile_exactAny field (List.cons_ne_nil l [])
  simp only [Regex.fits_exactly_iff, hs] at hc
  exact hc

theorem eq_only_of_compile {field : Field} {l : Bytes} {sieve : Sieve}
    (h : (exact field l).compile = .ok sieve) : sieve = .only field l := by
  rw [compile_exact] at h
  split at h <;> cases h
  rfl

-- Filters are read from the left, so the first name that is too long is the one refused.
theorem compileAll_exact (names : List (Field × Bytes)) {fs : List Filter} {sieves : List Sieve}
    (h : compileAll fs = .ok sieves) :
    compileAll (names.map (fun x => exact x.1 x.2) ++ fs) =
      match Pattern.tooLong? (names.map (·.2)) with
      | none => .ok (names.map (fun x => Sieve.only x.1 x.2) ++ sieves)
      | some l => .error (.refused (Pattern.ofLiteral l)) := by
  induction names
  case nil => exact h
  case cons x names ih =>
    rw [List.map_cons, List.cons_append, compileAll, compile_exact, ih, List.map_cons,
      Pattern.tooLong?_cons]
    by_cases hx : x.2.length ≤ Pattern.maxLiteral
    case neg => simp only [if_neg hx]; rfl
    case pos =>
      simp only [if_pos hx]
      cases Pattern.tooLong? (names.map (·.2)) <;> rfl

theorem compile_only (field : Field) (l : Bytes) :
    compileOptional (collapse? [exact field l]) =
      match Pattern.tooLong? [l] with
      | none => .ok (Sieve.only field l)
      | some l => .error (.refused (Pattern.ofLiteral l)) := by
  have hc : compileOptional (collapse? [exact field l]) = (exact field l).compile := rfl
  rw [hc, compile_exact, Pattern.tooLong?_cons]
  split <;> rfl

theorem compile_chain {fs : List Filter} {sieves : List Sieve} (h : compileAll fs = .ok sieves)
    (x y : Field × Bytes) :
    compileOptional (collapse? (exact x.1 x.2 :: exact y.1 y.2 :: fs)) =
      match Pattern.tooLong? [x.2, y.2] with
      | none => .ok (Sieve.chain (.only x.1 x.2 :: .only y.1 y.2 :: sieves))
      | some l => .error (.refused (Pattern.ofLiteral l)) := by
  have hc : compileOptional (collapse? (exact x.1 x.2 :: exact y.1 y.2 :: fs)) =
      (compileAll ([x, y].map (fun x => exact x.1 x.2) ++ fs)).map Sieve.chain := rfl
  rw [hc, compileAll_exact _ h]
  simp only [List.map_cons, List.map_nil]
  cases Pattern.tooLong? [x.2, y.2] <;> rfl

end Filter

namespace Store

theorem read_row (s : Store) (k : RowKey) (table : String) (profile : Option String)
    (filter : Option Filter) :
    s.read { table, profile, rows := .keys [k], filter, limit := 1 } =
      (Filter.compileOptional filter).map fun sieve => ((s.row? k).bind sieve.ofRow?).toList := by
  rw [read]
  cases Filter.compileOptional filter
  case error => rfl
  case ok sieve =>
    refine congrArg Except.ok ?_
    -- At most one row is selected, so the limit cuts nothing off.
    have hs : s.select (.keys [k]) = ((s.rows.find? k).map (k, ·)).toList := by
      have hk : orderedKeys [k] = [k] := rfl
      rw [select, hk]
      cases h : s.rows.find? k <;> simp [h]
    simp only [hs]
    rw [if_neg Nat.one_ne_zero, survivors_some, row?]
    cases s.rows.find? k
    case none => rfl
    case some stored =>
      have he : (Row.mk k stored.families).entries = StoredRow.entries stored :=
        (StoredRow.entries_eq stored).symm
      by_cases hn : sieve k (StoredRow.entries stored) = [] <;>
        simp [Sieve.row?, Sieve.ofRow?, he, hn]

end Store

namespace Row

variable {r : Row}

theorem WellFormed.ofRow?_family (h : r.WellFormed) (f : String) :
    (Sieve.only .family (Bytes.ofText f)).ofRow? r =
      (r.family f).map fun g => ⟨r.key, [g]⟩ := by
  have hs := Sieve.only_family f r.key r.entries
  rw [h.filter_family] at hs
  cases hg : r.family f <;> rw [hg] at hs
  case none => exact Sieve.ofRow?_eq_none hs
  case some g => exact Sieve.ofRow?_eq_family (h.of_family hg).left hs

theorem WellFormed.onColumn_eq (h : r.WellFormed) (f : String) (q : Qualifier) :
    Sieve.onColumn f q r.key r.entries =
      ((r.family f).bind (·.column q)).elim [] (·.entries f) :=
  (congrArg (Sieve.only .qualifier q r.key) (Sieve.only_family f r.key r.entries)).trans
    (h.filter_column f q)

theorem WellFormed.onLatest_eq (h : r.WellFormed) (f : String) (q : Qualifier) :
    Sieve.onLatest f q r.key r.entries =
      Sieve.firstOfRuns 1 none 0 (((r.family f).bind (·.column q)).elim [] (·.entries f)) :=
  congrArg (Sieve.firstOfRuns 1 none 0) (h.onColumn_eq f q)

theorem WellFormed.ofRow?_column (h : r.WellFormed) (f : String) (q : Qualifier) :
    (Sieve.onColumn f q).ofRow? r =
      ((r.family f).bind (·.column q)).map fun c => ⟨r.key, [⟨f, [c]⟩]⟩ := by
  have hs := h.onColumn_eq f q
  cases hc : (r.family f).bind (·.column q) <;> rw [hc] at hs
  case none => exact Sieve.ofRow?_eq_none hs
  case some c => exact Sieve.ofRow?_eq_column (h.of_column hc).left hs

-- A limit of one version may leave more of them, but none before the latest.
theorem WellFormed.ofRow?_latest (h : r.WellFormed) (f : String) (q : Qualifier) :
    ∃ d? : Option Column,
      (Sieve.onLatest f q).ofRow? r =
        d?.map (fun d => ⟨r.key, [⟨f, [d]⟩]⟩) ∧
      d?.bind (·.latest) = ((r.family f).bind (·.column q)).bind (·.latest) := by
  have hs := h.onLatest_eq f q
  cases hc : (r.family f).bind (·.column q) <;> rw [hc] at hs
  case none => exact ⟨none, Sieve.ofRow?_eq_none hs, rfl⟩
  case some c =>
    have ⟨d, hd, hl, he⟩ := (h.of_column hc).left.firstOfRuns_one f
    exact ⟨some d, Sieve.ofRow?_eq_column hd (hs.trans he), hl⟩

end Row

namespace State

def oneFamily : State :=
  .narrow .family .one (.rows .one)

def oneColumn : State :=
  .narrow .column .one oneFamily

def oneCell : State :=
  .narrow .cell .one oneColumn

def allCells : State :=
  .narrow .cell .many oneColumn

variable {row? : Option Row}

theorem project_row (h : ∀ r ∈ row?, r.WellFormed) :
    (rows .one).project (row?.bind (Sieve.ofRow? fun _ es => es)).toList = row? := by
  cases row?
  case none => rfl
  case some r => rw [Option.bind_some, Sieve.ofRow?_eq_some (h r rfl) rfl]; rfl

theorem project_family (h : ∀ r ∈ row?, r.WellFormed) (f : String) :
    oneFamily.project (row?.bind (Sieve.only .family (Bytes.ofText f)).ofRow?).toList =
      row?.bind (·.family f) := by
  cases row?
  case none => rfl
  case some r =>
    rw [Option.bind_some, (h r rfl).ofRow?_family, Option.bind_some]
    cases r.family f <;> rfl

theorem project_column (h : ∀ r ∈ row?, r.WellFormed) (f : String) (q : Qualifier) :
    oneColumn.project (row?.bind (Sieve.onColumn f q).ofRow?).toList =
      (row?.bind (·.family f)).bind (·.column q) := by
  cases row?
  case none => rfl
  case some r =>
    rw [Option.bind_some, (h r rfl).ofRow?_column, Option.bind_some]
    cases (r.family f).bind (·.column q) <;> rfl

theorem project_cells (h : ∀ r ∈ row?, r.WellFormed) (f : String) (q : Qualifier) :
    allCells.project (row?.bind (Sieve.onColumn f q).ofRow?).toList =
      ((row?.bind (·.family f)).bind (·.column q)).elim [] (·.cells) :=
  congrArg (Option.elim · [] Column.cells) (project_column h f q)

theorem project_latest (h : ∀ r ∈ row?, r.WellFormed) (f : String) (q : Qualifier) :
    oneCell.project (row?.bind (Sieve.onLatest f q).ofRow?).toList =
      ((row?.bind (·.family f)).bind (·.column q)).bind (·.latest) := by
  cases row?
  case none => rfl
  case some r =>
    have ⟨d?, hd, hl⟩ := (h r rfl).ofRow?_latest f q
    rw [Option.bind_some, Option.bind_some, hd, ← hl]
    cases d? <;> rfl

end State
end WideTable
