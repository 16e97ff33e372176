import TradingStatus.Proofs.Json.Depth
import TradingStatus.Proofs.Signing.Exported
import TradingStatus.Proofs.Time.LastDay

/-! Entries of keys, and what they are refused for: for a value that is not acceptable or of the
wrong sort, with two exceptions. A window that leads past the last day is refused for going beyond
the calendar; and a value that goes too deep to be shown cannot be refused by showing it, which
concerns no entry that was read from a document. -/

namespace TradingStatus

/-- A failure is put down to a value, which is not acceptable or of the wrong sort. -/
def Failure.BlamesValue (failure : Failure) : Prop :=
  failure.kind = .value ∨ failure.kind = .sort

namespace PublishedKey

theorem not_blamesValue_outOfRange : ¬Failure.BlamesValue .outOfRange := by
  rintro (h | h) <;> cases h

theorem not_blamesValue_tooDeep : ¬Failure.BlamesValue (.unshown .tooDeep) := by
  rintro (h | h) <;> cases h

variable {key : PublishedKey} {members : List (String × Json)} {value entry : Json}

section

variable [Platform]

/-! Ends of windows -/

theorem exists_instant_of_read {bound : Bound} {field : String} {t : Timestamp}
    (h : bound.read field = .ok (some t)) : ∃ instant, t.instant? = some instant := by
  unfold Bound.read at h
  split at h
  · obtain rfl := Option.some.inj (Except.ok.inj h)
    exact ⟨_, rfl⟩
  · cases h
  · split at h
    · cases h
    · split at h
      · obtain rfl := Option.some.inj (Except.ok.inj h)
        exact ⟨_, rfl⟩
      · cases h
      · cases h
  · cases h

/-- A value is the text of a timestamp, with blanks around it or none. -/
def IsTimestamp (value : Json) : Prop :=
  ∃ text t, value = .str text ∧ Text.isBlankText text = false ∧
    Platform.readTimestamp (Text.trim text) = .ok t

/-- A value is a text that a moment beyond the calendar is written in. -/
def IsLater (value : Json) : Prop :=
  ∃ text, value = .str text ∧ Text.isBlankText text = false ∧
    Platform.readTimestamp (Text.trim text) = .error .outOfRange

/-- A value goes too deep to be shown. -/
def IsTooDeep (value : Json) : Prop := value.obstacle? Platform.showingDepth = some .tooDeep

theorem not_isTooDeep_of_canShow (h : value.CanShow Platform.showingDepth) : ¬IsTooDeep value := by
  intro hdeep
  cases h.symm.trans hdeep

/-- There is room for one value at least. -/
theorem not_isTooDeep_of_room (h : ∀ room, value.CanShow (room + 1)) : ¬IsTooDeep value := by
  obtain ⟨room, hroom⟩ := Nat.exists_eq_add_one_of_ne_zero
    (Nat.ne_of_gt (Nat.zero_lt_of_lt Platform.readingDepth_lt))
  exact not_isTooDeep_of_canShow (hroom ▸ h room)

theorem exists_read_eq_some_iff {field : String} :
    (∃ t, (Bound.value value).read field = .ok (some t)) ↔ IsTimestamp value := by
  cases value with
  | str text =>
    simp only [IsTimestamp, Bound.read, Json.str.injEq]
    cases hblank : Text.isBlankText text with
    | true => simp [hblank]
    | false =>
      cases hread : Platform.readTimestamp (Text.trim text) with
      | ok t => simp [hblank, hread]
      | error error => cases error <;> simp [hread]
  | _ => simp [IsTimestamp, Bound.read]

theorem read_eq_outOfRange_iff {field : String} :
    (Bound.value value).read field = .error .outOfRange ↔ IsLater value := by
  have hshowing (other : Json) :
      Failure.showing other (.keyInstant field other) ≠ .outOfRange := by
    rcases Failure.showing_eq_or other (.keyInstant field other)
      with heq | ⟨error, heq⟩ <;> simp [heq]
  cases value with
  | str text =>
    simp only [IsLater, Bound.read, Json.str.injEq, exists_eq_left']
    cases hblank : Text.isBlankText text with
    | true => simp
    | false =>
      cases hread : Platform.readTimestamp (Text.trim text) with
      | ok t => simp
      | error error => cases error <;> simp
  | _ => simp [IsLater, Bound.read, hshowing]

theorem read_eq_tooDeep_iff {field : String} :
    (Bound.value value).read field = .error (.unshown .tooDeep) ↔ IsTooDeep value := by
  cases value with
  | null => exact iff_of_false nofun (not_isTooDeep_of_room Json.canShow_null)
  | str text =>
    refine iff_of_false ?_ (not_isTooDeep_of_room fun room => Json.canShow_str room text)
    simp only [Bound.read]
    cases Text.isBlankText text with
    | true => simp
    | false =>
      cases Platform.readTimestamp (Text.trim text) with
      | ok t => simp
      | error error => cases error <;> simp
  | _ =>
    simp only [Bound.read, Except.error.injEq]
    exact Failure.showing_eq_unshown_iff (by simp)

/-- What a refusal that shows a value can come to. -/
theorem blamesValue_or_of_showing {failure : Failure} (h : failure.kind = .value) :
    (Failure.showing value failure).BlamesValue ∨
      Failure.showing value failure = .unshown .tooDeep := by
  rcases Failure.showing_eq_or value failure with heq | ⟨error, heq⟩
  · rw [heq]
    exact .inl (.inl h)
  · rw [heq]
    cases error with
    | tooLong => exact .inl (.inl rfl)
    | tooDeep => exact .inr rfl

/-- What an entry can be refused for: a value, a moment beyond the calendar, or the depth of what is
to be shown. -/
def IsRefusal (failure : Failure) : Prop :=
  failure.BlamesValue ∨ failure = .outOfRange ∨ failure = .unshown .tooDeep

theorem isRefusal_showing {failure : Failure} (h : failure.kind = .value) :
    IsRefusal (.showing value failure) :=
  (blamesValue_or_of_showing h).imp_right .inr

theorem failsOnlyWith_read (value : Json) (field : String) :
    FailsOnlyWith IsRefusal ((Bound.value value).read field) := by
  unfold Bound.read
  split
  · exact .ok _
  · exact .ok _
  · split
    · exact .error (.inl (.inl rfl))
    · split
      · exact .ok _
      · exact .error (.inr (.inl rfl))
      · exact .error (.inl (.inl rfl))
  · exact .error (isRefusal_showing rfl)

/-! Refusals -/

/-- Of the ends of a window, one that is read is such: its start, or its end if it starts at a
timestamp. -/
inductive ReadsEnd (property : Json → Prop) (members : List (String × Json)) : Prop
  | start (h : property (Json.member members "valid_from"))
  | finish (hstart : IsTimestamp (Json.member members "valid_from"))
      (h : property (Json.member members "valid_until"))

/-- The window of an entry leads beyond the calendar. -/
def LeavesCalendar (entry : Json) : Prop :=
  ∃ members, entry = .obj members ∧ ReadsEnd IsLater members

/-- Refusing an entry would show a value that goes too deep: the entry itself, if it is no object,
or an end of its window. -/
inductive ShowsTooDeep : Json → Prop
  | entry {entry : Json} (hentry : ∀ members, entry ≠ .obj members) (h : IsTooDeep entry) :
      ShowsTooDeep entry
  | window {members : List (String × Json)} (h : ReadsEnd IsTooDeep members) :
      ShowsTooDeep (.obj members)

/-- What was read from a document does not go too deep. -/
theorem not_showsTooDeep_of_load {text : String} (hread : Json.load text = .ok entry) :
    ¬ShowsTooDeep entry := by
  have hshown := Json.canShow_of_load hread
  rintro (⟨-, hdeep⟩ | ⟨⟨hdeep⟩ | ⟨-, hdeep⟩⟩)
  · exact not_isTooDeep_of_canShow hshown hdeep
  · exact not_isTooDeep_of_canShow (Json.canShow_member hshown _) hdeep
  · exact not_isTooDeep_of_canShow (Json.canShow_member hshown _) hdeep

end

theorem failsOnlyWith_checkWindow {t : Timestamp} (finish : Option Timestamp) :
    FailsOnlyWith Failure.BlamesValue (checkWindow (some t) finish) := by
  cases finish with
  | none => exact .ok ()
  | some finish =>
    refine FailsOnlyWith.bind ?_ fun before _ => ?_
    · unfold Timestamp.isBefore
      split
      · exact .ok _
      · exact .ok _
      · exact .error (.inr rfl)
    · split
      · exact .ok ()
      · exact .error (.inl rfl)

theorem failsOnlyWith_ofParts {id publicKey algorithm format : Json} {t : Timestamp}
    (finish : Option Timestamp) :
    FailsOnlyWith Failure.BlamesValue (ofParts id publicKey (some t) finish algorithm format) := by
  unfold ofParts
  split
  · split
    · exact .error (.inl rfl)
    · split
      · exact (failsOnlyWith_checkWindow finish).bind fun _ _ => .ok _
      · exact .error (.inr rfl)
  · exact .error (.inl rfl)

section

variable [Platform]

theorem failsOnlyWith_ofJson (entry : Json) : FailsOnlyWith IsRefusal (ofJson entry) := by
  unfold ofJson
  split
  · refine (failsOnlyWith_read _ _).bind fun start _ => ?_
    cases start with
    | none => exact .error (.inl (.inl rfl))
    | some t =>
      refine (failsOnlyWith_read _ _).bind fun finish _ => ?_
      exact (failsOnlyWith_ofParts finish).mono fun failure h => .inl h
  · exact .error (isRefusal_showing rfl)

/-- A failure that is put down to no value comes from reading an end of the window. -/
theorem ofJson_obj_eq_error_iff {failure : Failure} {property : Json → Prop}
    (hblames : ¬failure.BlamesValue)
    (hread : ∀ {value field}, (Bound.value value).read field = .error failure ↔ property value) :
    ofJson (.obj members) = .error failure ↔ ReadsEnd property members := by
  simp only [ofJson, ofBounds, bind_eq_error_iff, hread]
  constructor
  · rintro (hstart | ⟨start, hstart, hrest⟩)
    · exact .start hstart
    · cases start with
      | none =>
        obtain rfl := Except.error.inj hrest
        exact absurd (.inl rfl) hblames
      | some t =>
        rcases bind_eq_error_iff.mp hrest with hfinish | ⟨finish, -, hparts⟩
        · exact .finish (exists_read_eq_some_iff.mp ⟨t, hstart⟩) (hread.mp hfinish)
        · exact absurd (failsOnlyWith_ofParts finish _ hparts) hblames
  · rintro (hstart | ⟨hstart, hfinish⟩)
    · exact .inl hstart
    · obtain ⟨t, ht⟩ := exists_read_eq_some_iff.mpr hstart
      exact .inr ⟨some t, ht, bind_eq_error_iff.mpr (.inl (hread.mpr hfinish))⟩

/-- What is no object is refused by showing it. -/
theorem ofJson_of_not_obj (h : ∀ members, entry ≠ .obj members) :
    ofJson entry = .error (.showing entry (.keyEntry entry)) := by
  cases entry with
  | obj members => exact absurd rfl (h members)
  | _ => rfl

theorem ofJson_eq_outOfRange_iff : ofJson entry = .error .outOfRange ↔ LeavesCalendar entry := by
  by_cases hentry : ∃ members, entry = .obj members
  · obtain ⟨members, rfl⟩ := hentry
    rw [ofJson_obj_eq_error_iff not_blamesValue_outOfRange read_eq_outOfRange_iff]
    simp [LeavesCalendar]
  · have hother (members : List (String × Json)) : entry ≠ .obj members := fun h =>
      hentry ⟨members, h⟩
    refine iff_of_false ?_ ?_
    · rw [ofJson_of_not_obj hother]
      rcases Failure.showing_eq_or entry (.keyEntry entry)
        with heq | ⟨error, heq⟩ <;> simp [heq]
    · rintro ⟨members, h, -⟩
      exact hother members h

theorem ofJson_eq_tooDeep_iff :
    ofJson entry = .error (.unshown .tooDeep) ↔ ShowsTooDeep entry := by
  by_cases hentry : ∃ members, entry = .obj members
  · obtain ⟨members, rfl⟩ := hentry
    rw [ofJson_obj_eq_error_iff not_blamesValue_tooDeep read_eq_tooDeep_iff]
    refine ⟨.window, ?_⟩
    rintro (⟨hother, -⟩ | ⟨h⟩)
    · exact absurd rfl (hother members)
    · exact h
  · have hother (members : List (String × Json)) : entry ≠ .obj members := fun h =>
      hentry ⟨members, h⟩
    rw [ofJson_of_not_obj hother, Except.error.injEq, Failure.showing_eq_unshown_iff (by simp)]
    refine ⟨.entry hother, ?_⟩
    rintro (⟨-, h⟩ | ⟨-⟩)
    · exact h
    · exact absurd rfl (hother _)

/-- What a key comes with: an identifier that is not blank, and a window between instants that ends
after its start if it ends at all. -/
structure IsSound (key : PublishedKey) : Prop where
  id : Text.isBlankText key.id = false
  window : ∃ validFrom start, key.validFrom = some validFrom ∧ validFrom.instant? = some start ∧
    ∀ validUntil, key.validUntil = some validUntil →
      ∃ finish, validUntil.instant? = some finish ∧ start < finish

theorem isSound_of_ofJson {entry : Json} (h : ofJson entry = .ok key) : key.IsSound := by
  obtain ⟨members, -, hbounds⟩ := exists_members_of_ofJson h
  obtain ⟨name, text, validFrom, validUntil, -, hname, -, hstart, hfinish, hchecked, rfl⟩ :=
    ofBounds_eq_ok_iff.mp hbounds
  obtain ⟨start, hfrom⟩ := exists_instant_of_read hstart
  refine ⟨hname, validFrom, start, rfl, hfrom, ?_⟩
  rintro last rfl
  obtain ⟨finish, huntil⟩ := exists_instant_of_read hfinish
  refine ⟨finish, huntil, ?_⟩
  rw [checkWindow_eq hfrom huntil] at hchecked
  split at hchecked
  · assumption
  · cases hchecked

/-- Whatever timestamps the platform reads, an entry makes a key that is sound, of the texts that
the entry gives, or it is refused. It is refused for nothing but a value that is not acceptable or
of the wrong sort, unless its window leads beyond the calendar, or refusing it would show what goes
too deep. It is refused for going beyond the calendar exactly in the first of these cases, and for
the depth exactly in the second, which no entry from a document is in. -/
theorem refused_for_a_value_iff (entry : Json) :
    (∀ key, ofJson entry = .ok key → key.IsSound ∧
      ∃ members, entry = .obj members ∧ Json.member members "key_id" = .str key.id ∧
        Json.member members "public_key" = .str key.publicKey) ∧
    ((∀ failure, ofJson entry = .error failure → failure.BlamesValue) ↔
      ¬LeavesCalendar entry ∧ ¬ShowsTooDeep entry) ∧
    (ofJson entry = .error .outOfRange ↔ LeavesCalendar entry) ∧
    (ofJson entry = .error (.unshown .tooDeep) ↔ ShowsTooDeep entry) ∧
    ∀ text, Json.load text = .ok entry → ¬ShowsTooDeep entry := by
  refine ⟨fun key h => ⟨isSound_of_ofJson h, ?_⟩, ⟨?_, ?_⟩, ofJson_eq_outOfRange_iff,
    ofJson_eq_tooDeep_iff, fun text => not_showsTooDeep_of_load⟩
  · obtain ⟨members, rfl, hbounds⟩ := exists_members_of_ofJson h
    obtain ⟨name, text, _, _, hid, -, hpublic, -, -, -, rfl⟩ := ofBounds_eq_ok_iff.mp hbounds
    exact ⟨members, rfl, hid, hpublic⟩
  · intro h
    exact ⟨fun hlater => not_blamesValue_outOfRange (h _ (ofJson_eq_outOfRange_iff.mpr hlater)),
      fun hdeep => not_blamesValue_tooDeep (h _ (ofJson_eq_tooDeep_iff.mpr hdeep))⟩
  · rintro ⟨hlater, hdeep⟩ failure hfailure
    rcases failsOnlyWith_ofJson entry failure hfailure with hblamed | rfl | rfl
    · exact hblamed
    · exact absurd (ofJson_eq_outOfRange_iff.mp hfailure) hlater
    · exact absurd (ofJson_eq_tooDeep_iff.mp hfailure) hdeep

end

/-- On the standard platform, a moment beyond the calendar is what a text writes that leads past the
last day. -/
theorem isLater_iff_writesLater {text : String} : IsLater (.str text) ↔
    Text.isBlankText text = false ∧ (∀ c ∈ (Text.trim text).toList, c.toNat < 0x80) ∧
      Timestamp.WritesLater (Text.trim text).toList := by
  simp only [IsLater, Json.str.injEq, exists_eq_left', ← Timestamp.ofIso_eq_outOfRange_iff]
  rfl

theorem isTimestamp_2026 : IsTimestamp (.str "2026-01-01") := by
  have hread : (Timestamp.ofIso (Text.trim "2026-01-01")).toOption.isSome = true := by
    decide +kernel
  obtain ⟨t, ht⟩ := Option.isSome_iff_exists.mp hread
  exact ⟨"2026-01-01", t, rfl, by decide, toOption_eq_some_iff.mp ht⟩

theorem entryFor_half_of_2026_is_sound :
    (∃ key, ofJson (entryFor "2026-01-01" "2026-W27-3") = .ok key ∧ key.IsSound) ∧
    ∃ failure, ofJson (entryFor "2026-01-01" "2025-W27-3") = .error failure ∧
      failure.BlamesValue := by
  obtain ⟨hsound, -, -⟩ := refused_for_a_value_iff (entryFor "2026-01-01" "2026-W27-3")
  obtain ⟨-, hblames, -⟩ := refused_for_a_value_iff (entryFor "2026-01-01" "2025-W27-3")
  have hmade : (ofJson (entryFor "2026-01-01" "2026-W27-3")).toOption.isSome = true := by
    decide +kernel
  obtain ⟨key, hkey⟩ := Option.isSome_iff_exists.mp hmade
  rw [toOption_eq_some_iff] at hkey
  refine ⟨⟨key, hkey, (hsound key hkey).1⟩, ?_⟩
  have hrefused : (ofJson (entryFor "2026-01-01" "2025-W27-3")).toOption.isSome = false := by
    decide +kernel
  have hkept : ¬LeavesCalendar (entryFor "2026-01-01" "2025-W27-3") := by
    rintro ⟨_, ⟨⟩, ⟨_, ⟨⟩, -, hlater⟩ | ⟨-, _, ⟨⟩, -, hlater⟩⟩
    · exact absurd hlater (by decide +kernel)
    · exact absurd hlater (by decide +kernel)
  have hshown : ¬ShowsTooDeep (entryFor "2026-01-01" "2025-W27-3") := by
    rintro (⟨hother, -⟩ | ⟨⟨hdeep⟩ | ⟨-, hdeep⟩⟩)
    · exact absurd rfl (hother _)
    · exact not_isTooDeep_of_room (fun room => Json.canShow_str room _) hdeep
    · exact not_isTooDeep_of_room (fun room => Json.canShow_str room _) hdeep
  cases h : ofJson (entryFor "2026-01-01" "2025-W27-3") with
  | ok key =>
    rw [h] at hrefused
    cases hrefused
  | error failure => exact ⟨failure, rfl, hblames.mpr ⟨hkept, hshown⟩ failure h⟩

/-- A window that ends with the last day of the calendar is refused for something else. -/
theorem entryFor_last_midnight_leaves_calendar :
    ∃ failure, ofJson (entryFor "2026-01-01" "9999-12-31T24:00Z") = .error failure ∧
      ¬failure.BlamesValue := by
  have hlater : IsLater (.str "9999-12-31T24:00Z") :=
    ⟨_, rfl, by decide, by decide +kernel⟩
  refine ⟨.outOfRange, ofJson_eq_outOfRange_iff.mpr ?_, not_blamesValue_outOfRange⟩
  exact ⟨_, rfl, .finish isTimestamp_2026 hlater⟩

end PublishedKey

end TradingStatus
