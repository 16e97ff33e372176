import TradingStatus.Proofs.Signing.Signatures
import TradingStatus.Proofs.Time.Printed

/-! Keys that are published and read back. The ends of a window are printed in whole milliseconds;
what is read back is the key with its window cut down to these, as long as a window is left. -/

namespace TradingStatus

namespace PublishedKey

variable {key : PublishedKey} {entry : Json} {start : Reading} {finish : Option Reading}

/-- The ends of a window as a UTC clock shows them. -/
structure HasReadings (key : PublishedKey) (start : Reading) (finish : Option Reading) : Prop where
  start : ∃ t, key.validFrom = some t ∧ t.instant? = some ⟨start.micros⟩
  finish : key.validUntil.map Timestamp.instant? = finish.map fun r => some ⟨r.micros⟩

/-- What is written of a key. -/
def written (key : PublishedKey) (start : Reading) (finish : Option Reading) : Json :=
  .obj [
    ("key_id", .str key.id),
    ("algorithm", key.algorithm),
    ("format", key.format),
    ("public_key", .str key.publicKey),
    ("valid_from", .str start.isoUtc),
    ("valid_until", .ofText? (finish.map Reading.isoUtc))]

theorem HasReadings.toJson_eq (h : key.HasReadings start finish) :
    key.toJson = .ok (key.written start finish) := by
  obtain ⟨t, hfrom, hstart⟩ := h.start
  have hfinish := h.finish
  unfold toJson
  rw [hfrom, Timestamp.isoUtc_eq_ok hstart]
  cases huntil : key.validUntil with
  | none =>
    rw [huntil, Option.map_none, eq_comm, Option.map_eq_none_iff] at hfinish
    rw [hfinish]
    rfl
  | some t =>
    rw [huntil, Option.map_some, eq_comm, Option.map_eq_some_iff] at hfinish
    obtain ⟨r, rfl, hinstant⟩ := hfinish
    simp only [Timestamp.isoUtc_eq_ok hinstant.symm]
    rfl

/-! Reading what is written -/

theorem read_isoUtc [Platform] (hreads : Platform.ReadsPrinted) {r : Reading}
    (h : 1000 ≤ r.date.year) (field : String) :
    (Bound.value (.str r.isoUtc)).read field = .ok (some (.utc r.wholeMillis)) := by
  obtain ⟨hblank, htrim⟩ := Reading.trim_isoUtc h
  simp only [Bound.read, hblank, Bool.false_eq_true, if_false, htrim, hreads r h]
  rfl

theorem read_isoUtc? [Platform] (hreads : Platform.ReadsPrinted)
    (h : ∀ r ∈ finish, 1000 ≤ r.date.year) (field : String) :
    (Bound.value (.ofText? (finish.map Reading.isoUtc))).read field =
      .ok (finish.map fun r => .utc r.wholeMillis) := by
  cases finish with
  | none => rfl
  | some r => exact read_isoUtc hreads (h r rfl) field

theorem checkWindow_eq {a b : Timestamp} {s t : Instant} (ha : a.instant? = some s)
    (hb : b.instant? = some t) :
    checkWindow (some a) (some b) = if s < t then .ok () else .error .keyWindow := by
  rw [checkWindow, Timestamp.isBefore_eq_ok ha hb]
  by_cases h : s < t
  · simp [h, bind, Except.bind, pure, Except.pure]
  · simp [h, bind, Except.bind, throw, throwThe, MonadExceptOf.throw]

/-- The key with its window cut down to whole milliseconds. -/
def cutDown (key : PublishedKey) (start : Reading) (finish : Option Reading) : PublishedKey :=
  { key with
    validFrom := some (.utc start.wholeMillis)
    validUntil := finish.map fun r => .utc r.wholeMillis }

theorem hasReadings_cutDown (key : PublishedKey) (start : Reading) (finish : Option Reading) :
    (key.cutDown start finish).HasReadings start.wholeMillis (finish.map Reading.wholeMillis) := by
  refine ⟨⟨_, rfl, Timestamp.instant?_utc _⟩, ?_⟩
  simp only [cutDown, Option.map_map, Function.comp_def, Timestamp.instant?_utc]

theorem toJson_cutDown (key : PublishedKey) (start : Reading) (finish : Option Reading) :
    (key.cutDown start finish).toJson = .ok (key.written start finish) := by
  rw [(key.hasReadings_cutDown start finish).toJson_eq]
  simp only [written, cutDown, Reading.isoUtc_wholeMillis, Option.map_map, Function.comp_def]

/-- What is written of a key is read with its window cut down, which is looked at again. -/
theorem ofJson_written [Platform] (hreads : Platform.ReadsPrinted)
    (hid : Text.isBlankText key.id = false)
    (halgorithm : key.algorithm = defaultAlgorithm) (hformat : key.format = defaultFormat)
    (hstart : 1000 ≤ start.date.year) (hfinish : ∀ r ∈ finish, 1000 ≤ r.date.year) :
    ofJson (key.written start finish) =
      (checkWindow (key.cutDown start finish).validFrom (key.cutDown start finish).validUntil).map
        fun _ => key.cutDown start finish := by
  have hread : ofJson (key.written start finish) = ofBounds (.str key.id) (.str key.publicKey)
      (.value (.str start.isoUtc)) (.value (.ofText? (finish.map Reading.isoUtc))) := rfl
  rw [hread, ofBounds, read_isoUtc hreads hstart, read_isoUtc? hreads hfinish, ← halgorithm,
    ← hformat]
  simp only [bind, Except.bind, ofParts, hid, Bool.false_eq_true, if_false]
  rfl

/-- The window of a key ends in the millisecond in which it starts. -/
def EndsAtOnce (start : Reading) (finish : Option Reading) : Prop :=
  ∃ r ∈ finish, r.wholeMillis = start.wholeMillis

theorem HasReadings.lt (h : key.HasReadings start finish)
    (hchecked : checkWindow key.validFrom key.validUntil = .ok ()) :
    ∀ r ∈ finish, start.micros < r.micros := by
  rintro r ⟨⟩
  obtain ⟨t, hfrom, hstart⟩ := h.start
  obtain ⟨u, huntil, hfinish⟩ := Option.map_eq_some_iff.mp h.finish
  rw [hfrom, huntil, checkWindow_eq hstart hfinish] at hchecked
  split at hchecked
  · assumption
  · cases hchecked

/-- A window is left when it is cut down, unless it ends in the millisecond in which it starts. -/
theorem checkWindow_cutDown (h : ∀ r ∈ finish, start.micros < r.micros) :
    (EndsAtOnce start finish → checkWindow (key.cutDown start finish).validFrom
      (key.cutDown start finish).validUntil = .error .keyWindow) ∧
    (¬EndsAtOnce start finish → checkWindow (key.cutDown start finish).validFrom
      (key.cutDown start finish).validUntil = .ok ()) := by
  cases finish with
  | none =>
    refine ⟨?_, fun _ => rfl⟩
    rintro ⟨_, hr, -⟩
    cases hr
  | some r =>
    have hlt := h r rfl
    simp only [cutDown, Option.map_some,
      checkWindow_eq (Timestamp.instant?_utc _) (Timestamp.instant?_utc _)]
    constructor
    · rintro ⟨_, ⟨⟩, hsame⟩
      rw [hsame]
      exact if_neg (Int.lt_irrefl _)
    · intro hlater
      have hne : r.micros / 1000 * 1000 ≠ start.micros / 1000 * 1000 := fun hmicros =>
        hlater ⟨r, rfl, Reading.ext hmicros⟩
      have hcut : start.micros / 1000 * 1000 < r.micros / 1000 * 1000 := by omega
      exact if_pos hcut

theorem checked_of_ofJson [Platform] (h : ofJson entry = .ok key) :
    Text.isBlankText key.id = false ∧ checkWindow key.validFrom key.validUntil = .ok () ∧
      key.algorithm = defaultAlgorithm ∧ key.format = defaultFormat := by
  obtain ⟨members, -, hbounds⟩ := exists_members_of_ofJson h
  obtain ⟨name, text, validFrom, validUntil, -, hname, -, -, -, hchecked, rfl⟩ :=
    ofBounds_eq_ok_iff.mp hbounds
  exact ⟨hname, hchecked, rfl, rfl⟩

/-- An entry is read as a key, whose window a UTC clock can show, in years of four digits. Then the
key can be written. If its window ends in the millisecond in which it starts, what is written is
refused for its window. Otherwise it is read as the same key with its window cut down to whole
milliseconds, which is written as before. -/
theorem published_key_is_read_back [Platform] (hreads : Platform.ReadsPrinted)
    (h : ofJson entry = .ok key) (hwindow : key.HasReadings start finish)
    (hstart : 1000 ≤ start.date.year) (hfinish : ∀ r ∈ finish, 1000 ≤ r.date.year) :
    ∃ json, key.toJson = .ok json ∧
      (EndsAtOnce start finish → ofJson json = .error .keyWindow) ∧
      (¬EndsAtOnce start finish → ∃ again, ofJson json = .ok again ∧
        again.id = key.id ∧ again.publicKey = key.publicKey ∧
        again.algorithm = key.algorithm ∧ again.format = key.format ∧
        again.HasReadings start.wholeMillis (finish.map Reading.wholeMillis) ∧
        again.toJson = .ok json) := by
  obtain ⟨hid, hchecked, halgorithm, hformat⟩ := checked_of_ofJson h
  obtain ⟨hrefused, hkept⟩ := checkWindow_cutDown (hwindow.lt hchecked)
  refine ⟨_, hwindow.toJson_eq, fun honce => ?_, fun hlater => ⟨key.cutDown start finish, ?_,
    rfl, rfl, rfl, rfl, hasReadings_cutDown .., toJson_cutDown ..⟩⟩
  · rw [ofJson_written hreads hid halgorithm hformat hstart hfinish, hrefused honce]
    rfl
  · rw [ofJson_written hreads hid halgorithm hformat hstart hfinish, hkept hlater]
    rfl

/-- An entry of a key with a window, and a key with one. -/
def entryFor (validFrom validUntil : String) : Json :=
  .obj [("key_id", .str "key_2026"), ("public_key", .str "00"), ("valid_from", .str validFrom),
    ("valid_until", .str validUntil)]

def keyFor (first last : Timestamp) : PublishedKey :=
  ⟨"key_2026", "00", some first, some last, defaultAlgorithm, defaultFormat⟩

theorem ofJson_entryFor [Platform] {validFrom validUntil : String} {first last : Timestamp}
    (hfirst : ((Bound.value (.str validFrom)).read "valid_from").toOption = some (some first))
    (hlast : ((Bound.value (.str validUntil)).read "valid_until").toOption = some (some last))
    (hchecked : (checkWindow (some first) (some last)).toOption = some ()) :
    ofJson (entryFor validFrom validUntil) = .ok (keyFor first last) :=
  ofBounds_eq_ok_iff.mpr ⟨"key_2026", "00", first, some last, rfl, by decide, rfl,
    toOption_eq_some_iff.mp hfirst, toOption_eq_some_iff.mp hlast, toOption_eq_some_iff.mp hchecked,
    rfl⟩

/-- Some microseconds after the beginning of 2026. -/
def early2026 (micros : Fin 1000000) : Reading :=
  ⟨1767225600000000 + micros.val, by omega, by omega⟩

/-- The beginning of 2027. -/
def early2027 : Reading := ⟨1798761600000000, by decide, by decide⟩

theorem entryFor_2026_is_read_back : ∃ key json again,
    ofJson (entryFor " 2026-01-01T01:00:00.0015+01:00" "2027-01-01") = .ok key ∧
      key.HasReadings (early2026 1500) (some early2027) ∧ key.toJson = .ok json ∧
      ofJson json = .ok again ∧ again.id = "key_2026" ∧
      again.HasReadings (early2026 1000) (some early2027) ∧ again.toJson = .ok json := by
  have hkey : ofJson (entryFor " 2026-01-01T01:00:00.0015+01:00" "2027-01-01") =
      .ok (keyFor ⟨⟨1767229200001500, by decide, by decide⟩, some 3600⟩ (.utc early2027)) :=
    ofJson_entryFor (by decide +kernel) (by decide +kernel) (by decide +kernel)
  have hwindow : HasReadings (keyFor ⟨⟨1767229200001500, by decide, by decide⟩, some 3600⟩
      (.utc early2027)) (early2026 1500) (some early2027) := ⟨⟨_, rfl, rfl⟩, rfl⟩
  have hlater : ¬EndsAtOnce (early2026 1500) (some early2027) := by
    rintro ⟨_, ⟨⟩, hsame⟩
    exact absurd (congrArg Reading.micros hsame) (by decide)
  obtain ⟨json, hjson, -, hkept⟩ :=
    published_key_is_read_back Platform.readsPrinted_standard hkey hwindow (by decide +kernel)
      (by decide +kernel)
  obtain ⟨again, hagain, hid, -, -, -, hreadings, htwice⟩ := hkept hlater
  exact ⟨_, json, again, hkey, hwindow, hjson, hagain, hid, hreadings, htwice⟩

/-- A window of a tenth of a millisecond. -/
theorem entryFor_short_window_is_refused : ∃ key json,
    ofJson (entryFor "2026-01-01T00:00:00.0001Z" "2026-01-01T00:00:00.0002Z") = .ok key ∧
      key.toJson = .ok json ∧ ofJson json = .error .keyWindow := by
  have hkey : ofJson (entryFor "2026-01-01T00:00:00.0001Z" "2026-01-01T00:00:00.0002Z") =
      .ok (keyFor (.utc (early2026 100)) (.utc (early2026 200))) :=
    ofJson_entryFor (by decide +kernel) (by decide +kernel) (by decide +kernel)
  have hwindow : HasReadings (keyFor (.utc (early2026 100)) (.utc (early2026 200)))
      (early2026 100) (some (early2026 200)) := ⟨⟨_, rfl, rfl⟩, rfl⟩
  obtain ⟨hid, hchecked, halgorithm, hformat⟩ := checked_of_ofJson hkey
  refine ⟨_, _, hkey, hwindow.toJson_eq, ?_⟩
  rw [ofJson_written Platform.readsPrinted_standard hid halgorithm hformat (by decide +kernel)
      (by decide +kernel), (checkWindow_cutDown (hwindow.lt hchecked)).1 ⟨_, rfl, rfl⟩]
  rfl

end PublishedKey

end TradingStatus
