import WideTable.Proofs.Except
import WideTable.Proofs.Store.SortedMap
import WideTable.Row.Json

namespace WideTable

namespace Json

-- Bytes are an array of numbers, or the text that they spell.
-- The forms that a value may have in JSON are written down here without regard to how they are read.
inductive BytesForm : Bytes → Json → Prop
  | numbers (bs : Bytes) : BytesForm bs (.array (bs.map fun b => .int b.toNat))
  | text (s : String) : BytesForm (Bytes.ofText s) (.string s)

inductive TimestampForm : Int64 → Json → Prop
  | integer (t : Int64) : TimestampForm t (.int t.toInt)

inductive TextForm : String → Json → Prop
  | text (s : String) : TextForm s (.string s)

inductive ListForm {α : Type} (form : α → Json → Prop) : List α → Json → Prop
  | items {as : List α} {js : List Json} : List.Forall₂ form as js → ListForm form as (.array js)

-- The value of a member. Of two members with one name the later one counts.
def member? (members : List (String × Json)) (name : String) : Option Json :=
  (members.reverse.find? (·.1 = name)).map (·.2)

-- A record has one value for each of its fields: in their order, or under their names among any
-- other members.
inductive RecordForm (fields : List String) : List Json → Json → Prop
  | items {js : List Json} : js.length = fields.length → RecordForm fields js (.array js)
  | members {ms : List (String × Json)} {js : List Json} :
      List.Forall₂ (fun name j => member? ms name = some j) fields js →
        RecordForm fields js (.object ms)

end Json

open Json

def Cell.Form (c : Cell) (j : Json) : Prop :=
  ∃ timestamp value labels,
    RecordForm ["timestamp_micros", "value", "labels"] [timestamp, value, labels] j ∧
      TimestampForm c.timestamp timestamp ∧ BytesForm c.value value ∧
      ListForm TextForm c.labels labels

def Column.Form (c : Column) (j : Json) : Prop :=
  ∃ qualifier cells, RecordForm ["qualifier", "cells"] [qualifier, cells] j ∧
    BytesForm c.qualifier qualifier ∧ ListForm Cell.Form c.cells cells

def Family.Form (f : Family) (j : Json) : Prop :=
  ∃ name columns, RecordForm ["name", "columns"] [name, columns] j ∧
    TextForm f.name name ∧ ListForm Column.Form f.columns columns

def Row.Form (r : Row) (j : Json) : Prop :=
  ∃ key families, RecordForm ["key", "families"] [key, families] j ∧
    BytesForm r.key key ∧ ListForm Family.Form r.families families

namespace Json

-- Just the forms are read, each as what it stands for.
def Reads {α : Type} (read : Json → Decoded α) (form : α → Json → Prop) : Prop :=
  ∀ j a, read j = .ok a ↔ form a j

theorem byte?_eq_ok {j : Json} {b : UInt8} : byte? j = .ok b ↔ j = .int b.toNat := by
  cases j
  case int n =>
    have hb := b.toNat_lt
    simp only [byte?, int.injEq]
    split
    case isTrue h =>
      simp only [Except.pure_eq_ok, Except.ok.injEq, ← UInt8.toNat_inj, UInt8.toNat_ofNat']
      omega
    case isFalse h => simp; omega
  all_goals simp [byte?]

theorem reads_bytes? : Reads bytes? BytesForm := by
  intro j bs
  have hb (js : List Json) : js.mapM byte? = .ok bs ↔ js = bs.map fun b => .int b.toNat := by
    simp only [Except.mapM_eq_ok_iff, byte?_eq_ok, @eq_comm _ js, ← List.forall₂_eq_eq_eq,
      List.forall₂_map_left_iff]
    simp only [eq_comm]
  constructor
  case mp =>
    intro h
    cases j
    case string s => cases h; exact .text s
    case array js => exact (hb js).mp h ▸ .numbers bs
    all_goals cases h
  case mpr =>
    rintro (_ | s)
    case numbers => exact (hb _).mpr rfl
    case text => rfl

theorem reads_timestamp? : Reads timestamp? TimestampForm := by
  intro j t
  constructor
  case mp =>
    intro h
    cases j
    case int n =>
      rw [timestamp?] at h
      split at h <;> cases h
      case isTrue hn =>
        have ht : (Int64.ofInt n).toInt = n :=
          Int64.toInt_ofInt_of_le hn.left (Int.lt_of_le_sub_one hn.right)
        have hf := TimestampForm.integer (Int64.ofInt n)
        rwa [ht] at hf
    all_goals cases h
  case mpr =>
    rintro ⟨t⟩
    rw [timestamp?, if_pos ⟨t.minValue_le_toInt, t.toInt_le⟩, Int64.ofInt_toInt]
    rfl

theorem reads_text? : Reads text? TextForm := by
  intro j s
  constructor
  case mp => intro h; cases j <;> cases h; exact .text s
  case mpr => rintro ⟨s⟩; rfl

theorem Reads.list {α : Type} {read : Json → Decoded α} {form : α → Json → Prop}
    (h : Reads read form) : Reads (list? read) (ListForm form) := by
  have hl (js : List Json) (as : List α) : js.mapM read = .ok as ↔ List.Forall₂ form as js := by
    simp only [Except.mapM_eq_ok_iff, h _ _]
  intro j as
  constructor
  case mp =>
    intro hj
    cases j
    case array js => exact .items ((hl js as).mp hj)
    all_goals cases hj
  case mpr =>
    rintro ⟨hjs⟩
    exact (hl _ as).mpr hjs

-- Of the members with one name the last one is left in the map.
theorem find?_foldl_alter_members (ms : List (String × Json)) (m : SortedMap String Json)
    (name : String) :
    (ms.foldl (fun m (n, j) => m.alter n fun _ => j) m).find? name =
      (member? ms name).or (m.find? name) :=
  SortedMap.find?_foldl_alter ms m name

end Json

namespace Schema

variable {s : Schema} {js : List Json}

theorem ofItems_eq_ok {length index : Nat} {fields : List (String × (Json → Decoded Unit))}
    {items : List Json} :
    s.ofItems length index fields items = .ok js ↔
      js = items ∧ List.Forall₂ (fun f j => f.2 j = .ok ()) fields items := by
  induction fields generalizing index items js
  case nil =>
    cases items <;>
      simp [ofItems, eq_comm]
  case cons f fields ih =>
    cases items
    case nil => simp [ofItems]
    case cons j items =>
      simp only [ofItems, Except.bind_eq_ok_iff, ih, List.forall₂_cons, Except.pure_eq_ok, Except.ok.injEq]
      grind

theorem checkMembers_eq_ok {ms : List (String × Json)} :
    s.checkMembers ms = .ok () ↔
      ∀ e ∈ ms, ∀ check ∈ s.fields.lookup e.1, check e.2 = .ok () := by
  induction ms
  case nil => simp [checkMembers]
  case cons e ms ih =>
    rw [checkMembers, List.forall_mem_cons, ← ih]
    cases s.fields.lookup e.1
    case none => simp
    case some check => simp [Except.then_eq_ok_iff]

theorem required_eq_ok {m : SortedMap String Json}
    {fields : List (String × (Json → Decoded Unit))} :
    required m fields = .ok js ↔ List.Forall₂ (fun f j => m.find? f.1 = some j) fields js := by
  induction fields generalizing js
  case nil => cases js <;> simp [required]
  case cons f fields ih =>
    rw [required]
    cases h : m.find? f.1
    case none => cases js <;> simp [h]
    case some j =>
      cases js <;> simp [Except.bind_eq_ok_iff, ih, h, and_comm]

theorem lookup_eq_some_iff {fields : List (String × (Json → Decoded Unit))} {name : String}
    {check : Json → Decoded Unit} (hn : (fields.map (·.1)).Nodup) :
    fields.lookup name = some check ↔ (name, check) ∈ fields := by
  induction fields
  case nil => simp
  case cons f fields ih =>
    have ⟨hf, hn⟩ := List.nodup_cons.mp hn
    rw [List.lookup_cons, List.mem_cons, ← ih hn, Prod.ext_iff]
    by_cases h : name = f.1
    case neg => simp [h, beq_false_of_ne h]
    case pos =>
      subst h
      -- The name does not come again.
      have hm : fields.lookup f.1 ≠ some check := fun hl =>
        hf (List.mem_map.mpr ⟨_, (ih hn).mp hl, rfl⟩)
      simp [hm, eq_comm]

-- Where the fields have values, it makes no difference that other members have some too.
theorem forall_members_iff {fields : List (String × (Json → Decoded Unit))}
    {value? : String → Option Json} (hn : (fields.map (·.1)).Nodup)
    (hv : List.Forall₂ (fun f j => value? f.1 = some j) fields js) :
    (∀ name j, value? name = some j → ∀ check ∈ fields.lookup name, check j = .ok ()) ↔
      List.Forall₂ (fun f j => f.2 j = .ok ()) fields js := by
  constructor
  case mp =>
    intro hc
    refine List.forall₂_iff_zip.mpr ⟨hv.length_eq, fun {f j} hz => ?_⟩
    exact hc f.1 j (List.forall₂_zip hv hz) f.2 ((lookup_eq_some_iff hn).mpr (List.of_mem_zip hz).left)
  case mpr =>
    intro hc name j hj check hcheck
    have hf := (lookup_eq_some_iff hn).mp hcheck
    clear hn hcheck
    induction hv
    case nil => cases hf
    case cons hvj _ ih =>
      cases hc
      case cons hcj hc =>
        cases hf
        case head => exact Option.some.inj (hvj.symm.trans hj) ▸ hcj
        case tail hf => exact ih hc hf

-- A record is read if it has a form of the fields and each field passes its check.
theorem read_eq_ok {j : Json} (hn : (s.fields.map (·.1)).Nodup) :
    s.read j = .ok js ↔ RecordForm (s.fields.map (·.1)) js j ∧
      List.Forall₂ (fun f j => f.2 j = .ok ()) s.fields js := by
  cases j
  case array items =>
    rw [read, ofItems_eq_ok]
    constructor
    case mp =>
      rintro ⟨rfl, hc⟩
      exact ⟨.items (by simp [hc.length_eq]), hc⟩
    case mpr =>
      rintro ⟨_ | _, hc⟩
      exact ⟨rfl, hc⟩
  case object ms =>
    simp only [read, Except.then_eq_ok_iff, checkMembers_eq_ok, required_eq_ok, Prod.forall,
      SortedMap.mem_entries, find?_foldl_alter_members, SortedMap.find?_empty,
      Option.or_none]
    constructor
    case mp =>
      rintro ⟨hc, hv⟩
      exact ⟨.members (List.forall₂_map_left_iff.mpr hv), (forall_members_iff hn hv).mp hc⟩
    case mpr =>
      rintro ⟨_ | hv, hc⟩
      have hv := List.forall₂_map_left_iff.mp hv
      exact ⟨(forall_members_iff hn hv).mpr hc, hv⟩
  all_goals
    constructor
    case mp => nofun
    case mpr => rintro ⟨_ | _, _⟩

end Schema

namespace Json

-- A record of two fields is read if both of them are.
theorem Reads.record {α β γ : Type} {s : Schema} {a b : String} {first : Json → Decoded α}
    {second : Json → Decoded β} {form : α → Json → Prop} {form' : β → Json → Prop}
    {mk : α → β → γ} {left : γ → α} {right : γ → β} (hfirst : Reads first form)
    (hsecond : Reads second form')
    (hs : s.fields = [(a, fun j => discard (first j)), (b, fun j => discard (second j))])
    (hab : a ≠ b) (hmk : ∀ u v c, mk u v = c ↔ u = left c ∧ v = right c) :
    Reads (fun j => do
        match ← s.read j with
        | [x, y] => return mk (← first x) (← second y)
        | _ => throw (.type j s.expected))
      fun c j => ∃ x y, RecordForm [a, b] [x, y] j ∧ form (left c) x ∧ form' (right c) y := by
  intro j c
  have hread (js : List Json) : s.read j = .ok js ↔ RecordForm [a, b] js j ∧
      List.Forall₂ (fun f j => f.2 j = .ok ()) s.fields js := by
    have hn : (s.fields.map (·.1)).Nodup := by simp [hs, hab]
    have hnames : s.fields.map (·.1) = [a, b] := by simp [hs]
    rw [Schema.read_eq_ok hn, hnames]
  simp only [Except.bind_eq_ok_iff]
  constructor
  case mp =>
    rintro ⟨js, hjs, h⟩
    split at h
    case h_2 => cases h
    case h_1 x y =>
      simp only [Except.bind_eq_ok_iff, Except.pure_eq_ok, Except.ok.injEq, hmk] at h
      obtain ⟨_, hx, _, hy, rfl, rfl⟩ := h
      exact ⟨x, y, ((hread _).mp hjs).left, (hfirst _ _).mp hx, (hsecond _ _).mp hy⟩
  case mpr =>
    rintro ⟨x, y, hr, hx, hy⟩
    have hx := (hfirst _ _).mpr hx
    have hy := (hsecond _ _).mpr hy
    refine ⟨[x, y], (hread _).mpr ⟨hr, ?_⟩, ?_⟩
    · simp [hs, Except.discard_eq_ok_iff, hx, hy]
    · simp [hx, hy, bind, Except.bind, hmk]

theorem reads_cell : Reads Cell.ofJson Cell.Form := by
  intro j c
  have hn : (Cell.schema.fields.map (·.1)).Nodup := by decide
  simp only [Cell.ofJson, Except.bind_eq_ok_iff]
  constructor
  case mp =>
    rintro ⟨js, hjs, h⟩
    split at h
    case h_2 => cases h
    case h_1 timestamp value labels =>
      simp only [Except.bind_eq_ok_iff, Except.pure_eq_ok, Except.ok.injEq] at h
      obtain ⟨t, ht, v, hv, l, hl, rfl⟩ := h
      exact ⟨timestamp, value, labels, ((Schema.read_eq_ok hn).mp hjs).left,
        (reads_timestamp? _ _).mp ht, (reads_bytes? _ _).mp hv, (reads_text?.list _ _).mp hl⟩
  case mpr =>
    rintro ⟨timestamp, value, labels, hr, ht, hv, hl⟩
    have ht := (reads_timestamp? _ _).mpr ht
    have hv := (reads_bytes? _ _).mpr hv
    have hl := (reads_text?.list _ _).mpr hl
    refine ⟨[timestamp, value, labels], (Schema.read_eq_ok hn).mpr ⟨hr, ?_⟩, ?_⟩
    · simp [Cell.schema, Except.discard_eq_ok_iff, ht, hv, hl]
    · simp [ht, hv, hl, bind, Except.bind]

theorem reads_column : Reads Column.ofJson Column.Form :=
  reads_bytes?.record reads_cell.list rfl (by decide) fun u v c => by cases c; simp

theorem reads_family : Reads Family.ofJson Family.Form :=
  reads_text?.record reads_column.list rfl (by decide) fun u v c => by cases c; simp

theorem reads_row : Reads Row.ofJson Row.Form :=
  reads_bytes?.record reads_family.list rfl (by decide) fun u v c => by cases c; simp

theorem form_list {α : Type} {form : α → Json → Prop} {write : α → Json}
    (h : ∀ a, form a (write a)) (as : List α) : ListForm form as (.array (as.map write)) :=
  .items (List.forall₂_map_right_iff.mpr (List.forall₂_same.mpr fun a _ => h a))

theorem form_cell (c : Cell) : c.Form c.toJson :=
  ⟨_, _, _, .members (by simp [member?, ofBytes]), .integer _, .numbers _, form_list .text _⟩

theorem form_column (c : Column) : c.Form c.toJson :=
  ⟨_, _, .members (by simp [member?, ofBytes]), .numbers _, form_list form_cell _⟩

theorem form_family (f : Family) : f.Form f.toJson :=
  ⟨_, _, .members (by simp [member?]), .text _, form_list form_column _⟩

theorem form_row (r : Row) : r.Form r.toJson :=
  ⟨_, _, .members (by simp [member?, ofBytes]), .numbers _, form_list form_family _⟩

-- What is written can be read back, and whatever can be read is in one of the forms.
structure Coded {α : Type} (write : α → Json) (read : Json → Decoded α)
    (form : α → Json → Prop) : Prop where
  returned : ∀ a, read (write a) = .ok a
  reads    : ∀ j a, read j = .ok a ↔ form a j

theorem Reads.coded {α : Type} {write : α → Json} {read : Json → Decoded α}
    {form : α → Json → Prop} (h : Reads read form) (hw : ∀ a, form a (write a)) :
    Coded write read form :=
  ⟨fun a => (h _ a).mpr (hw a), h⟩

-- Row keys are coded as the bytes that they are.
theorem coded_in_json :
    Coded ofBytes bytes? BytesForm ∧
    Coded Cell.toJson Cell.ofJson Cell.Form ∧
    Coded Column.toJson Column.ofJson Column.Form ∧
    Coded Family.toJson Family.ofJson Family.Form ∧
    Coded Row.toJson Row.ofJson Row.Form :=
  ⟨reads_bytes?.coded .numbers, reads_cell.coded form_cell, reads_column.coded form_column,
    reads_family.coded form_family, reads_row.coded form_row⟩

-- Fields in order, then fields by name with a member that is none.
example : (Row.ofJson (.array [.string "k", .array [.object [("columns", .array []), ("x", .null),
    ("name", .string "f")]]])).toOption = some ⟨[0x6b], [⟨"f", []⟩]⟩ := by
  decide +kernel

end Json
end WideTable
