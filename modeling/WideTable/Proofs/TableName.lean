import WideTable.Proofs.Config.Ids
import WideTable.Read.Basic

namespace WideTable

namespace Bytes

theorem ofText_eq_flatMap (s : String) : ofText s = s.toList.flatMap String.utf8EncodeChar := by
  rw [ofText, ← String.utf8Encode_toList, List.utf8Encode, List.toList_data_toByteArray]

theorem utf8EncodeChar_of_lt {c : Char} (h : c.toNat < 0x80) :
    String.utf8EncodeChar c = [c.toUInt8] :=
  if_pos (Nat.le_of_lt_succ h)

-- A character beyond ASCII starts with a byte beyond ASCII.
theorem exists_high_byte {c : Char} (h : 0x80 ≤ c.toNat) :
    ∃ b ∈ String.utf8EncodeChar c, 0x80 ≤ b := by
  have hn : ¬c.val.toNat ≤ 0x7f := Nat.not_le_of_lt h
  fun_cases String.utf8EncodeChar c
  case case1 => contradiction
  all_goals
    refine ⟨_, .head _, ?_⟩
    simp only [UInt8.le_iff_toNat_le, UInt8.toNat_ofNat']
    simp
    omega

end Bytes

namespace TableName

-- The letters and digits of ASCII, and the signs that join them.
def IsIdChar (c : Char) : Prop :=
  c.isAlphanum ∨ c = '-' ∨ c = '_' ∨ c = '.'

instance : DecidablePred IsIdChar :=
  fun c => inferInstanceAs (Decidable (c.isAlphanum ∨ c = '-' ∨ c = '_' ∨ c = '.'))

structure IsId (id : String) : Prop where
  filled : 1 ≤ id.length
  short  : id.length ≤ 50
  chars  : ∀ c ∈ id.toList, IsIdChar c
  start  : ∀ c ∈ id.toList.head?, c ≠ '-' ∧ c ≠ '.'

variable {c : Char} {b : UInt8} {id : String}

theorem IsIdChar.toNat_lt (h : IsIdChar c) : c.toNat < 0x80 := by
  rcases h with h | rfl | rfl | rfl
  · simp [Char.isAlphanum, Char.isAlpha, Char.isUpper, Char.isLower, Char.isDigit,
      UInt32.le_iff_toNat_le] at h
    omega
  all_goals decide

theorem lt_of_isIdByte (h : isIdByte b = true) : b < 0x80 := by
  simp only [isIdByte, Text.isAsciiWord, Bool.or_eq_true, Bool.and_eq_true, decide_eq_true_eq,
    beq_iff_eq] at h
  rcases h with ((((⟨_, h⟩ | ⟨_, h⟩) | ⟨_, h⟩) | rfl) | rfl) | rfl
  case' inr | inl.inr | inl.inl.inr => decide
  all_goals exact UInt8.lt_of_le_of_lt h (by decide)

theorem isIdByte_toUInt8 (h : c.toNat < 0x80) : isIdByte c.toUInt8 = true ↔ IsIdChar c := by
  have hn : ∀ n < 0x80, isIdByte (Char.ofNat n).toUInt8 = true ↔ IsIdChar (Char.ofNat n) := by
    decide
  simpa using hn c.toNat h

theorem all_isIdByte_utf8EncodeChar (c : Char) :
    (String.utf8EncodeChar c).all isIdByte = true ↔ IsIdChar c := by
  by_cases h : c.toNat < 0x80
  case pos => simp [Bytes.utf8EncodeChar_of_lt h, isIdByte_toUInt8 h]
  case neg =>
    have ⟨b, hb, hh⟩ := Bytes.exists_high_byte (Nat.le_of_not_lt h)
    have hn : ¬IsIdChar c := mt IsIdChar.toNat_lt h
    simp only [hn, iff_false, List.all_eq_true, not_forall]
    exact ⟨b, hb, fun hi => absurd (lt_of_isIdByte hi) (UInt8.not_lt.mpr hh)⟩

theorem all_isIdByte_ofText : (Bytes.ofText id).all isIdByte = true ↔ ∀ c ∈ id.toList, IsIdChar c := by
  rw [Bytes.ofText_eq_flatMap, List.all_flatMap, List.all_eq_true]
  simp only [all_isIdByte_utf8EncodeChar]

-- An id takes as many bytes as it has characters.
theorem ofText_of_isIdChar (h : ∀ c ∈ id.toList, IsIdChar c) :
    Bytes.ofText id = id.toList.map Char.toUInt8 := by
  have he : ∀ c ∈ id.toList, String.utf8EncodeChar c = [c.toUInt8] := fun c hc =>
    Bytes.utf8EncodeChar_of_lt (h c hc).toNat_lt
  rw [Bytes.ofText_eq_flatMap, List.flatMap_congr he, List.map_eq_flatMap]

theorem toUInt8_inj {d : Char} (hc : c.toNat < 0x80) (hd : d.toNat < 0x80) :
    c.toUInt8 = d.toUInt8 ↔ c = d := by
  have hn {c : Char} (h : c.toNat < 0x80) : c.toUInt8.toNat = c.toNat := by
    have hm : c.toUInt8.toNat = c.toNat % 0x100 := UInt32.toNat_toUInt8 _
    omega
  rw [← UInt8.toNat_inj, hn hc, hn hd, Char.toNat_inj]

theorem isTableId_iff : isTableId id = true ↔ IsId id := by
  have hlen : id.length = id.toList.length := String.length_toList.symm
  by_cases h : ∀ c ∈ id.toList, IsIdChar c
  case neg =>
    have hall := mt all_isIdByte_ofText.mp h
    have hid : ¬IsId id := fun hid => h hid.chars
    rw [isTableId]
    split <;> simp_all
  case pos =>
    rw [isTableId, ofText_of_isIdChar h]
    have hall := all_isIdByte_ofText.mpr h
    rw [ofText_of_isIdChar h] at hall
    cases hl : id.toList
    case nil =>
      have hid : ¬IsId id := fun hid => by simpa [hlen, hl] using hid.filled
      simp [hid]
    case cons c cs =>
      have hc := (h c (by simp [hl])).toNat_lt
      have hd : c.toUInt8 = '-'.toUInt8 ↔ c = '-' := toUInt8_inj hc (by decide)
      have hp : c.toUInt8 = '.'.toUInt8 ↔ c = '.' := toUInt8_inj hc (by decide)
      rw [hl, List.map_cons] at hall
      simp only [List.map_cons, hall, List.length_map, Bool.and_true, Bool.and_eq_true,
        decide_eq_true_eq, bne_iff_ne, ne_eq, hd, hp]
      constructor
      case mp =>
        rintro ⟨⟨hs, hd⟩, hp⟩
        exact ⟨by simp [hlen, hl], by simp [hlen, hl]; omega, h, by simp [hl, hd, hp]⟩
      case mpr =>
        intro hid
        have hs := hid.short
        have ⟨hd, hp⟩ := hid.start c (by simp [hl])
        simp only [hlen, hl, List.length_cons] at hs
        exact ⟨⟨by omega, hd⟩, hp⟩

-- The name as a path, from the root to the table.
def parts (n : TableName) : List String :=
  ["projects", n.projectId, "instances", n.instanceId, "tables", n.tableId]

theorem fullName_eq_intercalate (n : TableName) : n.fullName = String.intercalate "/" n.parts := by
  simp [fullName, parts, String.intercalate_cons_cons, ← String.toList_inj]

theorem split_fullName {n : TableName} (h : ∀ part ∈ n.parts, '/' ∉ part.toList) :
    (n.fullName.split '/').toList.map (·.copy) = n.parts := by
  have hs : "/" = String.singleton '/' := rfl
  rw [fullName_eq_intercalate, hs, String.toList_split_intercalate h, if_neg (by simp [parts])]

theorem IsId.not_mem (h : IsId id) : '/' ∉ id.toList := by
  intro hm
  have hc := h.chars _ hm
  revert hc
  decide

end TableName

theorem IsPart.not_mem {id : String} (h : IsPart id) : '/' ∉ id.toList :=
  fun hm => (h.whole _ hm).left rfl

namespace Config

variable {c : Config} {id : String}

-- The name of a table of the configured instance.
def tableName (c : Config) (id : String) : TableName where
  projectId := c.projectId
  instanceId := c.instanceId
  tableId := id

theorem split_tableName (hc : c.validate = .ok ()) (h : TableName.IsId id) :
    ((c.tableName id).fullName.split '/').toList.map (·.copy) =
      ["projects", c.projectId, "instances", c.instanceId, "tables", id] := by
  have hu := validate_eq_ok_iff.mp hc
  have hp : IsPart c.projectId := hu .projectId _ rfl
  have hi : IsPart c.instanceId := hu .instanceId _ rfl
  refine TableName.split_fullName (n := c.tableName id) ?_
  simp only [TableName.parts, tableName, List.forall_mem_cons]
  exact ⟨by decide, hp.not_mem, by decide, hi.not_mem, by decide, h.not_mem, by simp⟩

end Config

namespace Client

variable {σ τ : Type} {c : Client σ} {id : String} {e : Start} {r : Read e.state}

theorem read_eq_ok_iff :
    c.read id e = .ok r ↔
      TableName.IsId id ∧ r = .start (c.config.tableName id) c.config.profile e := by
  rw [read, TableName.ofId, ← TableName.isTableId_iff]
  split
  case isTrue h => simp [h, bind, Except.bind, Config.tableName, eq_comm]
  case isFalse h => simp [h, bind, Except.bind]

theorem table_of_read (h : c.read id e = .ok r) : r.draft.table = c.config.tableName id := by
  rw [(read_eq_ok_iff.mp h).right]
  rfl

-- Which ids are accepted does not depend on the instance, and a name can be taken apart again.
theorem fullName_unambiguous {d : Client τ} (hc : c.config.validate = .ok ())
    (hd : d.config.validate = .ok ()) (id other : String) (e f : Start) :
    ((∃ r, c.read id e = .ok r) ↔ TableName.IsId id) ∧
      (∀ r, c.read id e = .ok r →
        (r.draft.table.fullName.split '/').toList.map (·.copy) =
          ["projects", c.config.projectId, "instances", c.config.instanceId, "tables", id]) ∧
      ∀ r q, c.read id e = .ok r → d.read other f = .ok q →
        r.draft.table.fullName = q.draft.table.fullName →
          c.config.projectId = d.config.projectId ∧ c.config.instanceId = d.config.instanceId ∧
            id = other := by
  refine ⟨by simp [read_eq_ok_iff], fun r hr => ?_, fun r q hr hq he => ?_⟩
  case refine_1 =>
    rw [table_of_read hr, Config.split_tableName hc (read_eq_ok_iff.mp hr).left]
  case refine_2 =>
    have hs := Config.split_tableName hc (read_eq_ok_iff.mp hr).left
    rw [← table_of_read hr, he, table_of_read hq,
      Config.split_tableName hd (read_eq_ok_iff.mp hq).left] at hs
    simp at hs
    exact ⟨hs.left.symm, hs.right.left.symm, hs.right.right.symm⟩

-- Ids that read like other parts of the path do no harm.
theorem fullName_unambiguous_of_alike :
    let c : Client Unit := ⟨⟨"instances", "tables", none⟩, .constant []⟩
    let d : Client MemoryStore := ⟨⟨"instances", "tables", some "batch"⟩, .memory⟩
    c.config.validate = .ok () ∧ d.config.validate = .ok () ∧
      ∃ r q, c.read "projects" .rows = .ok r ∧ d.read "projects" (.row []) = .ok q ∧
        r.draft.table.fullName = q.draft.table.fullName ∧
        (r.draft.table.fullName.split '/').toList.map (·.copy) =
          ["projects", "instances", "instances", "tables", "tables", "projects"] ∧
        c.config.projectId = d.config.projectId ∧ c.config.instanceId = d.config.instanceId ∧
          "projects" = "projects" := by
  intro c d
  have hc : c.config.validate = .ok () := by decide
  have hd : d.config.validate = .ok () := by decide
  have hid : TableName.IsId "projects" := TableName.isTableId_iff.mp (by decide)
  have h := fullName_unambiguous hc hd "projects" "projects" .rows (.row [])
  have hr := read_eq_ok_iff (c := c) (e := .rows) |>.mpr ⟨hid, rfl⟩
  have hq := read_eq_ok_iff (c := d) (e := .row []) |>.mpr ⟨hid, rfl⟩
  exact ⟨hc, hd, _, _, hr, hq, rfl, h.right.left _ hr, h.right.right _ _ hr hq rfl⟩

end Client
end WideTable
