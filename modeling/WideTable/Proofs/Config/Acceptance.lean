import WideTable.Config.File
import WideTable.Proofs.Config.Ids
import WideTable.Proofs.Toml.Keys

namespace WideTable.Config

open ByteKey Toml

-- An entry that a document may have.
def IsSetting (name : String) (v : Value) : Prop :=
  (∃ key : Key, key.name = name) ∧ ∃ id, v = .string id

-- The entries up to a name, or all of them, are settings.
def SoundBefore (d : Document) (name : String) : Prop :=
  ∀ other v, d.find? other = some v → Before other name → IsSetting other v

def Sound (d : Document) : Prop :=
  ∀ name v, d.find? name = some v → IsSetting name v

-- The settings are texts that can be used, and the first two of them are there.
structure Acceptable (d : Document) : Prop where
  known    : ∀ name v, d.find? name = some v → ∃ key : Key, key.name = name
  required : ∀ key ≠ Key.profile, ∃ v, d.find? key.name = some v
  usable   : ∀ (key : Key) v, d.find? key.name = some v → ∃ id, v = .string id ∧ IsPart id

-- The ids of a configuration are what a document has under the names of the settings.
def Holds (d : Document) (c : Config) : Prop :=
  ∀ key : Key, d.find? key.name = (c.id? key).map .string

-- What is reported. Entries are in the order of their names' bytes, settings in their own order.
inductive FirstFault (d : Document) : ContentError → Prop
  | unknown {name : String} {v : Value} :
      d.find? name = some v → (∀ key : Key, key.name ≠ name) → SoundBefore d name →
        FirstFault d (.document (.unknown name))
  | notText {key : Key} {v : Value} :
      d.find? key.name = some v → (∀ id, v ≠ .string id) → SoundBefore d key.name →
        FirstFault d (.document (.notText v))
  | missing {key : Key} :
      Sound d → key ≠ .profile → d.find? key.name = none →
        (∀ k ∈ key.earlier, ∃ v, d.find? k.name = some v) → FirstFault d (.document (.missing key))
  | invalid {key : Key} {id : String} {e : IdError} :
      Sound d → (∀ k ≠ Key.profile, ∃ v, d.find? k.name = some v) →
        d.find? key.name = some (.string id) → e.Spoils id →
        (∀ k ∈ key.earlier, ∀ v, d.find? k.name = some v → ∃ id, v = .string id ∧ IsPart id) →
          FirstFault d (.invalid ⟨key, e⟩)

variable {d : Document} {c : Config} {key : Key} {name id : String} {v : Value}

theorem ofName?_eq_none_iff : Key.ofName? name = none ↔ ∀ key : Key, key.name ≠ name := by
  simp [Option.eq_none_iff_forall_ne_some, Key.ofName?_eq_some_iff]

theorem checkEntry_eq_ok_iff : checkEntry (name, v) = .ok () ↔ IsSetting name v := by
  rw [checkEntry, IsSetting]
  cases h : Key.ofName? name
  case none =>
    have hn := ofName?_eq_none_iff.mp h
    simp [hn]
  case some key =>
    have hk : ∃ key : Key, key.name = name := ⟨key, Key.ofName?_eq_some_iff.mp h⟩
    cases v <;> simp [hk]

theorem checkEntry_eq_error_iff {e : DocumentError} :
    checkEntry (name, v) = .error e ↔
      (∀ key : Key, key.name ≠ name) ∧ e = .unknown name ∨
        (∃ key : Key, key.name = name) ∧ (∀ id, v ≠ .string id) ∧ e = .notText v := by
  rw [checkEntry]
  cases h : Key.ofName? name
  case none =>
    have hn := ofName?_eq_none_iff.mp h
    simp [hn, eq_comm]
  case some key =>
    have hk : ∃ key : Key, key.name = name := ⟨key, Key.ofName?_eq_some_iff.mp h⟩
    have hn : ¬∀ key : Key, key.name ≠ name := by simpa using hk
    cases v <;>
      simp [hk, hn, @eq_comm DocumentError]

theorem checkEntries_eq_ok_iff : d.entries.forM checkEntry = .ok () ↔ Sound d := by
  simp only [List.forM_eq_forM, Except.forM_eq_ok_iff, Prod.forall, SortedMap.mem_entries,
    checkEntry_eq_ok_iff, Sound]

theorem checkEntries_eq_error_iff {e : DocumentError} :
    d.entries.forM checkEntry = .error e ↔
      ∃ name v, d.find? name = some v ∧ checkEntry (name, v) = .error e ∧ SoundBefore d name := by
  rw [List.forM_eq_forM, Except.forM_eq_error_iff d.sorted fun _ _ h => h.asymm]
  simp only [Prod.exists, Prod.forall, SortedMap.mem_entries, checkEntry_eq_ok_iff, SoundBefore]

theorem textAt?_eq_some_iff : textAt? d key = some id ↔ d.find? key.name = some (.string id) := by
  rw [textAt?]
  split
  case h_1 s h => simp [h]
  case h_2 h => simpa using h id

theorem required_eq_ok_iff : required d key = .ok id ↔ d.find? key.name = some (.string id) := by
  rw [← textAt?_eq_some_iff, required]
  cases textAt? d key <;> simp

theorem required_eq_error_iff {e : DocumentError} :
    required d key = .error e ↔ textAt? d key = none ∧ e = .missing key := by
  rw [required]
  cases textAt? d key <;> simp [eq_comm]

theorem Sound.find?_eq (h : Sound d) (key : Key) :
    d.find? key.name = (textAt? d key).map .string := by
  cases hv : d.find? key.name
  case none => simp [textAt?, hv]
  case some v =>
    have ⟨_, id, hid⟩ := h key.name v hv
    simp [textAt?, hv, hid]

theorem Holds.find?_eq_some_iff (h : Holds d c) :
    d.find? key.name = some v ↔ ∃ id ∈ c.id? key, v = .string id := by
  simp [h key, eq_comm]

theorem Holds.exists_required (h : Holds d c) (hk : key ≠ .profile) :
    ∃ v, d.find? key.name = some v := by
  cases key
  case profile => contradiction
  all_goals simp [h _, id?]

theorem ofSettings_eq_ok_iff : ofSettings d = .ok c ↔ Sound d ∧ Holds d c := by
  rw [ofSettings, Except.then_eq_ok_iff, checkEntries_eq_ok_iff]
  simp only [Except.bind_eq_ok_iff, required_eq_ok_iff, Except.pure_eq_ok, Except.ok.injEq]
  refine and_congr_right fun hs => ⟨?mp, fun h => ?mpr⟩
  case mp =>
    rintro ⟨p, hp, i, hi, rfl⟩ (_ | _ | _)
    · exact hp
    · exact hi
    · exact hs.find?_eq .profile
  case mpr =>
    have hp : (textAt? d .profile).map Value.string = c.profile.map .string :=
      (hs.find?_eq .profile).symm.trans (h .profile)
    have hi : Function.Injective Value.string := fun _ _ he => by simpa using he
    exact ⟨c.projectId, h .projectId, c.instanceId, h .instanceId,
      by rw [Option.map_injective hi hp]⟩

theorem Sound.exists_holds (hs : Sound d) (hr : ∀ k ≠ Key.profile, ∃ v, d.find? k.name = some v) :
    ∃ c, Holds d c := by
  have ht (key : Key) (hk : key ≠ .profile) : ∃ id, d.find? key.name = some (.string id) := by
    have ⟨v, hv⟩ := hr key hk
    have ⟨_, id, hid⟩ := hs key.name v hv
    exact ⟨id, hid ▸ hv⟩
  have ⟨p, hp⟩ := ht .projectId (by simp)
  have ⟨i, hi⟩ := ht .instanceId (by simp)
  refine ⟨⟨p, i, textAt? d .profile⟩, ?_⟩
  rintro (_ | _ | _)
  · exact hp
  · exact hi
  · exact hs.find?_eq .profile

theorem ofSettings_eq_error_iff {e : DocumentError} :
    ofSettings d = .error e ↔ FirstFault d (.document e) := by
  rw [ofSettings, Except.then_eq_error_iff, checkEntries_eq_error_iff, checkEntries_eq_ok_iff]
  simp only [Except.bind_eq_error_iff, required_eq_ok_iff, required_eq_error_iff, Except.pure_eq_ok,
    reduceCtorEq, and_false, exists_false, or_false]
  constructor
  case mp =>
    rintro (⟨name, v, hv, he, hb⟩ | ⟨hs, ⟨hp, rfl⟩ | ⟨p, hp, hi, rfl⟩⟩)
    · rcases checkEntry_eq_error_iff.mp he with ⟨hn, rfl⟩ | ⟨⟨key, rfl⟩, ht, rfl⟩
      · exact .unknown hv hn hb
      · exact .notText hv ht hb
    · exact .missing hs (by simp) (by simp [hs.find?_eq, hp]) (by simp [Key.earlier])
    · exact .missing hs (by simp) (by simp [hs.find?_eq, hi]) (by simp [Key.earlier, hp])
  case mpr =>
    intro h
    cases h
    case unknown name v hv hn hb =>
      exact .inl ⟨name, v, hv, checkEntry_eq_error_iff.mpr (.inl ⟨hn, rfl⟩), hb⟩
    case notText key v hv ht hb =>
      exact .inl ⟨key.name, v, hv, checkEntry_eq_error_iff.mpr (.inr ⟨⟨key, rfl⟩, ht, rfl⟩), hb⟩
    case missing key hs hk hn he =>
      have ht : textAt? d key = none := by simpa [hs.find?_eq] using hn
      refine .inr ⟨hs, ?_⟩
      cases key
      case projectId => exact .inl ⟨ht, rfl⟩
      case instanceId =>
        obtain ⟨v, hv⟩ := he .projectId (by simp [Key.earlier])
        obtain ⟨_, id, hid⟩ := hs _ _ hv
        exact .inr ⟨id, hid ▸ hv, ht, rfl⟩
      case profile => contradiction

theorem Holds.isPart_iff (h : Holds d c) (key : Key) :
    (∀ id ∈ c.id? key, IsPart id) ↔
      ∀ v, d.find? key.name = some v → ∃ id, v = .string id ∧ IsPart id := by
  simp only [h.find?_eq_some_iff]
  constructor
  case mp =>
    rintro hp _ ⟨id, hid, rfl⟩
    exact ⟨id, rfl, hp id hid⟩
  case mpr =>
    intro hp id hid
    have ⟨_, he, hi⟩ := hp _ ⟨id, hid, rfl⟩
    cases he
    exact hi

theorem Acceptable.sound (h : Acceptable d) : Sound d := by
  intro name v hv
  have ⟨key, hn⟩ := h.known name v hv
  have ⟨id, hid, _⟩ := h.usable key v (hn ▸ hv)
  exact ⟨⟨key, hn⟩, id, hid⟩

theorem Acceptable.exists_holds (h : Acceptable d) : ∃ c, Holds d c :=
  h.sound.exists_holds h.required

theorem Holds.acceptable_iff (h : Holds d c) : Acceptable d ↔ Sound d ∧ c.Usable where
  mp ha := ⟨ha.sound, fun key => (h.isPart_iff key).mpr (ha.usable key)⟩
  mpr ha := {
    known name v hv := (ha.left name v hv).left
    required _ hk := h.exists_required hk
    usable key := (h.isPart_iff key).mp (ha.right key) }

theorem Holds.validate_eq_error_iff {inv : Invalid} (hs : Sound d) (h : Holds d c) :
    c.validate = .error inv ↔ FirstFault d (.invalid inv) := by
  obtain ⟨key, e⟩ := inv
  simp only [Config.validate_eq_error_iff, h.isPart_iff]
  constructor
  case mp =>
    rintro ⟨⟨id, hid, he⟩, hb⟩
    have hv := h.find?_eq_some_iff.mpr ⟨id, hid, rfl⟩
    exact .invalid hs (fun _ => h.exists_required) hv he hb
  case mpr =>
    intro hf
    cases hf
    case invalid _ _ hv hb he =>
      have ⟨id, hid, hv⟩ := h.find?_eq_some_iff.mp hv
      cases hv
      exact ⟨⟨_, hid, he⟩, hb⟩

-- Ids are looked at if all settings are there.
theorem FirstFault.settings {inv : Invalid} (h : FirstFault d (.invalid inv)) :
    Sound d ∧ ∀ k ≠ Key.profile, ∃ v, d.find? k.name = some v := by
  cases h
  case invalid hs hr _ _ _ => exact ⟨hs, hr⟩

theorem ofDocument_eq_ok_iff : ofDocument d = .ok c ↔ Acceptable d ∧ Holds d c := by
  simp only [ofDocument, Except.bind_eq_ok_iff, Except.mapError_eq_ok_iff, ofSettings_eq_ok_iff,
    Except.pure_eq_ok, Except.ok.injEq]
  constructor
  case mp =>
    rintro ⟨_, ⟨hs, hc⟩, _, hu, rfl⟩
    exact ⟨hc.acceptable_iff.mpr ⟨hs, validate_eq_ok_iff.mp hu⟩, hc⟩
  case mpr =>
    rintro ⟨ha, hc⟩
    have hu := (hc.acceptable_iff.mp ha).right
    exact ⟨c, ⟨ha.sound, hc⟩, (), validate_eq_ok_iff.mpr hu, rfl⟩

theorem exists_ofDocument_eq_ok_iff : (∃ c, ofDocument d = .ok c) ↔ Acceptable d := by
  simp only [ofDocument_eq_ok_iff, exists_and_left]
  exact and_iff_left_of_imp Acceptable.exists_holds

theorem ofDocument_eq_error_iff {e : ContentError} : ofDocument d = .error e ↔ FirstFault d e := by
  simp only [ofDocument, Except.bind_eq_error_iff, Except.mapError_eq_error_iff,
    Except.mapError_eq_ok_iff, ofSettings_eq_error_iff, ofSettings_eq_ok_iff, Except.pure_eq_ok,
    reduceCtorEq, and_false, exists_false, or_false]
  constructor
  case mp =>
    rintro (⟨_, hf, rfl⟩ | ⟨c, ⟨hs, hc⟩, _, hi, rfl⟩)
    · exact hf
    · exact (hc.validate_eq_error_iff hs).mp hi
  case mpr =>
    intro hf
    cases e
    case document e => exact .inl ⟨e, hf, rfl⟩
    case invalid inv =>
      have ⟨hs, hr⟩ := hf.settings
      have ⟨c, hc⟩ := hs.exists_holds hr
      exact .inr ⟨c, ⟨hs, hc⟩, inv, (hc.validate_eq_error_iff hs).mpr hf, rfl⟩

theorem ofText_eq_ofDocument {text : String} (h : Document.ofText? text = some d) :
    ofText text = ofDocument d := by
  rw [ofText, h]

theorem ofText_eq_of_document_eq {text other : String}
    (h : Document.ofText? text = Document.ofText? other) : ofText text = ofText other := by
  rw [ofText, ofText, h]

theorem ofText_eq_of_table_perm {text other : String} {t u : Table}
    (ht : Table.ofText? text = some t) (hu : Table.ofText? other = some u) (h : t.Perm u) :
    ofText text = ofText other := by
  have hd := Document.ofTable_perm h (Table.nodup_keys_ofText? ht)
  exact ofText_eq_of_document_eq (by simp [Document.ofText?_eq_map, ht, hu, hd])

theorem load_eq {files : FileTree} {path : Option String} {text : String}
    (h : files.read (path.getD defaultPath) = .ok text) :
    load files path = (ofText text).mapError (.content (path.getD defaultPath)) := by
  simp [load, h, bind, Except.bind, Except.mapError]

-- What is taken, what it becomes, and what the rest is refused for. All of it depends on the entries of a
-- document alone: not on the order in which a text gives them, nor on where the text comes from. Of a file
-- the path comes with the error, and is told unless an id is at fault.
theorem accepts_exactly :
    (∀ d : Document, (∃ c, ofDocument d = .ok c) ↔ Acceptable d) ∧
    (∀ (d : Document) c, ofDocument d = .ok c ↔ Acceptable d ∧ Holds d c) ∧
    (∀ (d : Document) e, ofDocument d = .error e ↔ FirstFault d e) ∧
    (∀ text d, Document.ofText? text = some d → ofText text = ofDocument d) ∧
    (∀ text other t u, Table.ofText? text = some t → Table.ofText? other = some u → t.Perm u →
      ofText text = ofText other) ∧
    (∀ text other (es fs : Table),
      Line.ofText? text = some (es.map fun e => .assignment (Table.plain e)) →
        Line.ofText? other = some (fs.map fun e => .assignment (Table.plain e)) → es.Perm fs →
          ofText text = ofText other) ∧
    (∀ (files : FileTree) path text, files.read (path.getD defaultPath) = .ok text →
      load files path = (ofText text).mapError (.content (path.getD defaultPath))) ∧
    (∀ path (inv : Invalid),
      (LoadError.content path (.invalid inv)).headline = (ContentError.invalid inv).headline) :=
  ⟨fun _ => exists_ofDocument_eq_ok_iff, fun _ _ => ofDocument_eq_ok_iff,
    fun _ _ => ofDocument_eq_error_iff, fun _ _ => ofText_eq_ofDocument,
    fun _ _ _ _ => ofText_eq_of_table_perm,
    fun _ _ _ _ ht ho h => ofText_eq_of_document_eq (Document.ofText?_eq_of_perm ht ho h),
    fun _ _ _ => load_eq, fun _ _ => rfl⟩

theorem accepts_exactly_of_swapped :
    ofText "project_id = 'p'\ninstance_id = 'i'" = .ok ⟨"p", "i", none⟩ ∧
      ofText "instance_id = 'i'\nproject_id = 'p'" = .ok ⟨"p", "i", none⟩ ∧
      ofText "project_id = 'p'\nproject_id = 'q'" = ofText "project_id = 'q'\nproject_id = 'p'" ∧
      load (.directory [("c", .file (Bytes.ofText "project_id = 'p'\ninstance_id = 'i'"))]) "c" =
        .ok ⟨"p", "i", none⟩ := by
  have ⟨_, _, _, hd, ht, hl, hf, _⟩ := accepts_exactly
  let t : Table := [("project_id", .string "p"), ("instance_id", .string "i")]
  have hc : ofSettings (.ofTable t) = .ok ⟨"p", "i", none⟩ := rfl
  have hv : validate ⟨"p", "i", none⟩ = .ok () := by decide
  have hs : ofText "project_id = 'p'\ninstance_id = 'i'" = .ok ⟨"p", "i", none⟩ := by
    rw [hd _ (.ofTable t) rfl, ofDocument, hc]
    simp [Except.mapError, hv, bind, Except.bind]
  have hr (content : Bytes) :
      (FileTree.directory [("c", .file content)]).find "c" = .ok (.file content) := by cbv
  refine ⟨hs, ?other, ?twice, ?file⟩
  case other => exact (ht _ _ t t.reverse rfl rfl t.reverse_perm.symm).symm.trans hs
  case twice =>
    exact hl _ _ [("project_id", .string "p"), ("project_id", .string "q")]
      [("project_id", .string "q"), ("project_id", .string "p")] rfl rfl (.swap ..)
  case file =>
    rw [hf _ _ "project_id = 'p'\ninstance_id = 'i'"]
    · rw [hs]; rfl
    · simp [FileTree.read, hr, bind, Except.bind, Bytes.text?_ofText]

end WideTable.Config
