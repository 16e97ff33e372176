import TradingStatus.Override.Store
import TradingStatus.Proofs.Results

/-! The entries behind overrides. Every override that a store gives for a market is what an entry
means that the store holds under the identifier of the market; nothing else is made into one. -/

namespace TradingStatus

theorem Json.text?_eq_some_iff {value : Json} {text : String} :
    value.text? = some text ↔ value = .str text := by
  cases value <;> simp [text?]

namespace Files

variable {files : Files} {path : String} {document : Json}

theorem read_eq_ok_iff {bytes : List UInt8} :
    files.read path = .ok bytes ↔ files.find? path = some (.file bytes) := by
  unfold read
  split <;> simp_all

variable [Platform]

theorem loadStrict_eq_ok_iff : files.loadStrict (some path) = .ok document ↔
    ∃ bytes, files.read path = .ok bytes ∧ documentOf bytes = .ok document := by
  rw [loadStrict, bind_eq_ok_iff]

theorem value_load_of_not_hasPath (h : files.hasPath path = false) :
    (files.load (some path)).value = .ok .null := by
  unfold load
  simp only [h, Bool.not_false, if_true]
  split <;> rfl

/-- A document that is loaded and is not null is the one in the file. -/
theorem loadStrict_of_load (h : (files.load (some path)).value = .ok document)
    (hne : document ≠ .null) : files.loadStrict (some path) = .ok document := by
  unfold load at h
  simp only at h
  split at h
  · exact absurd (Except.ok.inj h).symm hne
  · split at h
    · exact absurd (Except.ok.inj h).symm hne
    · split at h
      · next loaded hloaded =>
        rw [hloaded]
        exact h
      · split at h
        · exact absurd (Except.ok.inj h).symm hne
        · cases h

/-- A document that is loaded and is not null is loaded without a line in the journal, from where
the path leads. -/
theorem load_of_document (h : (files.load (some path)).value = .ok document)
    (hne : document ≠ .null) :
    files.hasPath path = true ∧ files.load (some path) = pure (.ok document) := by
  have hstrict := loadStrict_of_load h hne
  unfold load at h ⊢
  simp only at h ⊢
  split at h
  · exact absurd (Except.ok.inj h).symm hne
  · next hblank =>
    split at h
    · exact absurd (Except.ok.inj h).symm hne
    · next hpath =>
      rw [if_neg hblank, if_neg hpath, hstrict]
      exact ⟨by simpa using hpath, rfl⟩

end Files

/-- The end of an override that is read from an entry is an instant: without an offset it is taken
to be in UTC. -/
theorem Override.exists_end_of_ofEntry [Platform] {entry : Json} {override : Override}
    (h : ofEntry entry = .ok override) : ∃ finish, override.expires.instant? = some finish := by
  unfold ofEntry at h
  split at h
  · simp only [bind_eq_ok_iff, pure_eq_ok_iff] at h
    obtain ⟨status, -, reason, -, expires, hexpires, rfl⟩ := h
    unfold expiresOfEntry at hexpires
    split at hexpires
    · split at hexpires
      · next t _ =>
        obtain rfl := Except.ok.inj hexpires
        exact ⟨_, rfl⟩
      · cases hexpires
    · cases hexpires
  · cases h

namespace OverrideStore

variable [Platform]

/-- A store holds an entry under an identifier: a table as a value or as the JSON text of one, a
file as a member of the object that it writes. -/
inductive Holds (files : Files) (mic : String) (entry : Json) : OverrideStore → Prop
  | value {table : OverrideTable} (h : Json.member table.entries mic = entry)
      (hnull : entry ≠ .null) : Holds files mic entry (.table table)
  | text {table : OverrideTable} {text : String} (h : Json.member table.entries mic = .str text)
      (hread : Json.load text = .ok entry) : Holds files mic entry (.table table)
  | document {path : String} {bytes : List UInt8} {members : List (String × Json)}
      (hfile : files.read path = .ok bytes)
      (hdocument : Files.documentOf bytes = .ok (.obj members))
      (h : Json.member members mic = entry) (hnull : entry ≠ .null) :
      Holds files mic entry (.file path)

variable {files : Files} {mic path : String} {override : Override}

theorem exists_entry_of_table {table : OverrideTable} (h : table.lookup mic = .ok (some override)) :
    ∃ entry, (OverrideStore.table table).Holds files mic entry ∧
      Override.ofEntry entry = .ok override := by
  unfold OverrideTable.lookup OverrideTable.parse at h
  split at h
  · cases h
  · next text htext =>
    split at h
    · next entry hread =>
      obtain ⟨found, hfound, hsome⟩ := map_eq_ok_iff.mp h
      obtain rfl := Option.some.inj hsome
      exact ⟨entry, .text htext hread, hfound⟩
    · cases h
    · cases h
  · next hnull htext =>
    obtain ⟨found, hfound, hsome⟩ := map_eq_ok_iff.mp h
    obtain rfl := Option.some.inj hsome
    exact ⟨_, .value rfl hnull, hfound⟩

theorem exists_member_of_document {document : Json}
    (h : lookupDocument path mic document = .ok (some override)) :
    ∃ members, document = .obj members ∧ Json.member members mic ≠ .null ∧
      Override.ofEntry (Json.member members mic) = .ok override := by
  unfold lookupDocument at h
  split at h
  · next members =>
    split at h
    · cases h
    · next hnull =>
      obtain ⟨found, hfound, hsome⟩ := map_eq_ok_iff.mp h
      obtain rfl := Option.some.inj hsome
      exact ⟨members, rfl, hnull, hfound⟩
  · cases h

theorem exists_entry_of_file (h : (lookupFile files path mic).value = .ok (some override)) :
    ∃ entry, (OverrideStore.file path).Holds files mic entry ∧
      Override.ofEntry entry = .ok override := by
  unfold lookupFile at h
  split at h
  · cases h
  · rw [Logged.value_bind] at h
    split at h
    · next document hloaded =>
      obtain ⟨members, rfl, hnull, hentry⟩ := exists_member_of_document h
      obtain ⟨bytes, hfile, hdocument⟩ :=
        Files.loadStrict_eq_ok_iff.mp (Files.loadStrict_of_load hloaded (by simp))
      exact ⟨_, .document hfile hdocument rfl hnull, hentry⟩
    · cases h

/-- A file is looked up in the document that it holds. -/
theorem lookupFile_of_document {document : Json} (mic : String)
    (h : (files.load (some path)).value = .ok document) (hne : document ≠ .null) :
    lookupFile files path mic = pure (lookupDocument path mic document) := by
  obtain ⟨hpath, hload⟩ := Files.load_of_document h hne
  unfold lookupFile
  rw [hpath, hload]
  rfl

/-- What a store gives is what an entry means that it holds. -/
theorem exists_entry_of_lookup {store : OverrideStore} {lookup : OverrideLookup}
    (hlookup : store.lookup? files = some lookup)
    (h : (lookup mic).value = .ok (some override)) :
    ∃ entry, store.Holds files mic entry ∧ Override.ofEntry entry = .ok override := by
  cases store with
  | absent => cases hlookup
  | table table =>
    cases hlookup
    exact exists_entry_of_table h
  | file path =>
    cases hlookup
    exact exists_entry_of_file h
  | silent =>
    cases hlookup
    cases h

end OverrideStore

end TradingStatus
