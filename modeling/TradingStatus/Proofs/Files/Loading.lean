import TradingStatus.Platform.Standard
import TradingStatus.Proofs.Json.Depth
import TradingStatus.Proofs.Json.LineEnds
import TradingStatus.Proofs.Settings.Registry
import TradingStatus.Proofs.Text.Utf8

/-! Loading the document at a path: the document if the file writes one, null and a line in the
journal otherwise, except that bytes that are no text, numbers that are too long and documents that
go too deep are failures of their own. -/

namespace TradingStatus

theorem Json.readWithin_ones (room : Room) {n : Nat} (hn : Text.numeralLimit < n) :
    readWithin room (String.ofList (List.replicate n '1')) = .error (.tooLong n) := by
  obtain ⟨k, rfl⟩ : ∃ k, n = k + 1 := Nat.exists_eq_add_one.mpr (Nat.zero_lt_of_lt hn)
  have hrun : wholePart (List.replicate (k + 1) '1') = (List.replicate (k + 1) 1, []) := by
    rw [List.replicate_succ, wholePart_cons_of_ne (by decide), ← List.replicate_succ, digitRun]
    simp
  have hplain : plain (List.replicate (k + 1) '1') = .error (.tooLong (k + 1)) := by
    show unsigned (List.replicate (k + 1) '1') false (List.replicate (k + 1) '1') = _
    rw [unsigned_eq, hrun, List.replicate_succ]
    show (if (1 :: List.replicate k 1).length > Text.numeralLimit then _ else _) = _
    rw [List.length_cons, List.length_replicate, if_pos hn]
  have hdocument : document room (List.replicate (k + 1) '1') = .error (.tooLong (k + 1)) := by
    have hmark (rest : List Char) : List.replicate (k + 1) '1' ≠ '\uFEFF' :: rest :=
      fun h => absurd (List.cons.inj h).1 (by decide)
    have hskip : skipGap (List.replicate (k + 1) '1') = '1' :: List.replicate k '1' :=
      List.dropWhile_cons_of_neg (by decide)
    rw [document_of_no_mark hmark, hskip, value_plain _ (by decide) (by decide) (by decide),
      ← List.replicate_succ, hplain]
    rfl
  rw [readWithin, String.toList_ofList, hdocument]
  rfl

namespace Files

variable {files : Files} {name : String} {bytes : List UInt8} {document : Json}

/-- The path leads to a file with these bytes. A blank path leads nowhere. -/
def Holds (files : Files) (path : Option String) (bytes : List UInt8) : Prop :=
  ∃ name, path = some name ∧ Text.isBlankText name = false ∧
    files.find? name = some (.file bytes)

/-- Null, and one line about what is wrong. -/
def IsReport (answer : Logged (Except Failure Json)) : Prop :=
  ∃ line : LogLine, answer = ⟨.ok .null, [line]⟩ ∧ (line.level = .warning ∨ line.level = .error)

theorem IsReport.ne_pure {answer : Logged (Except Failure Json)} (h : IsReport answer)
    (result : Except Failure Json) : answer ≠ pure result := by
  obtain ⟨line, rfl, -⟩ := h
  intro heq
  cases congrArg Logged.log heq

variable [Platform]

/-- The bytes are those of a text, and the text is the JSON of the document. -/
def Denotes (bytes : List UInt8) (document : Json) : Prop :=
  ∃ text, bytes = Text.Utf8.encode text ∧ Json.read text = .ok document

/-- The bytes are those of no text, or of one in which a number too long, or a list or an object too
deep, comes before anything that is not JSON. -/
inductive Trips (bytes : List UInt8) : Prop
  | noText (h : ∀ text, bytes ≠ Text.Utf8.encode text)
  | tooLong {text : String} {digits : Nat} (htext : bytes = Text.Utf8.encode text)
      (h : Json.load text = .error (.tooLong digits))
  | tooDeep {text : String} {container : Json.Container} (htext : bytes = Text.Utf8.encode text)
      (h : Json.load text = .error (.tooDeep container))

/-- Reading the document at a path meets half of a pair that stands alone. -/
def MeetsLoneHalf (files : Files) (path : Option String) : Prop :=
  files.loadStrict path = .error (.document .unpaired)

theorem documentOf_encode_eq_ok_iff {text : String} :
    documentOf (Text.Utf8.encode text) = .ok document ↔ Json.load text = .ok document := by
  rw [Json.load, ← Json.readWithin_unifyLineEnds_eq_ok_iff, documentOf, Text.Utf8.decode_encode]
  dsimp only
  split
  · next h => simp [show Json.readWithin _ _ = _ from h]
  · next h => simp [show Json.readWithin _ _ = _ from h]

/-- What keeps a text from being read but its form keeps its bytes from being a document. -/
theorem documentOf_encode_eq_error_iff {text : String} {error : Json.ReadError}
    (h : ∀ complaint line column position, error ≠ .malformed complaint line column position) :
    documentOf (Text.Utf8.encode text) = .error (.document error) ↔
      Json.load text = .error error := by
  rw [Json.load, ← Json.readWithin_unifyLineEnds_eq_error_iff h, documentOf,
    Text.Utf8.decode_encode]
  dsimp only
  split
  · next h => simp [show Json.readWithin _ _ = _ from h]
  · next h => simp [show Json.readWithin _ _ = _ from h]

/-- The bytes of a text trip loading where the reader stops at more than the form. -/
theorem trips_encode_iff {text : String} : Trips (Text.Utf8.encode text) ↔
    (∃ digits, Json.load text = .error (.tooLong digits)) ∨
      ∃ container, Json.load text = .error (.tooDeep container) := by
  constructor
  · rintro (h | ⟨htext, h⟩ | ⟨htext, h⟩)
    · exact absurd rfl (h text)
    · obtain rfl := Text.Utf8.encode_injective htext
      exact .inl ⟨_, h⟩
    · obtain rfl := Text.Utf8.encode_injective htext
      exact .inr ⟨_, h⟩
  · rintro (⟨digits, h⟩ | ⟨container, h⟩)
    · exact .tooLong rfl h
    · exact .tooDeep rfl h

/-- A document is made of the bytes that denote it unless they trip. -/
theorem documentOf_eq_ok_iff :
    documentOf bytes = .ok document ↔ Denotes bytes document ∧ ¬Trips bytes := by
  constructor
  · intro h
    cases hdecode : Text.Utf8.decode bytes with
    | error error =>
      rw [documentOf, hdecode] at h
      cases h
    | ok text =>
      obtain rfl := Text.Utf8.decode_eq_ok_iff.mp hdecode
      have hload := documentOf_encode_eq_ok_iff.mp h
      refine ⟨⟨text, rfl, (Json.load_eq_ok_iff.mp hload).1⟩, fun htrips => ?_⟩
      obtain ⟨digits, hlong⟩ | ⟨container, hdeep⟩ := trips_encode_iff.mp htrips
      · cases hload.symm.trans hlong
      · cases hload.symm.trans hdeep
  · rintro ⟨⟨text, rfl, h⟩, htrips⟩
    refine documentOf_encode_eq_ok_iff.mpr (Json.load_eq_ok_iff.mpr ⟨h, fun container hdeep => ?_⟩)
    exact htrips (.tooDeep rfl hdeep)

/-- Unless half of a pair stands alone in them, the bytes of a file make its loading fail just where
they trip. -/
theorem documentOf_trips_iff (hpaired : documentOf bytes ≠ .error (.document .unpaired)) :
    (∃ failure, documentOf bytes = .error failure ∧ isRecoverable failure = false) ↔
      Trips bytes := by
  cases hdecode : Text.Utf8.decode bytes with
  | error error =>
    have hnone (text : String) : bytes ≠ Text.Utf8.encode text := by
      rintro rfl
      rw [Text.Utf8.decode_encode] at hdecode
      cases hdecode
    rw [documentOf, hdecode]
    exact iff_of_true ⟨_, rfl, rfl⟩ (.noText hnone)
  | ok text =>
    obtain rfl := Text.Utf8.decode_eq_ok_iff.mp hdecode
    have hlong (digits : Nat) : documentOf (Text.Utf8.encode text) =
        .error (.document (.tooLong digits)) ↔ Json.load text = .error (.tooLong digits) :=
      documentOf_encode_eq_error_iff (by simp)
    have hdeep (container : Json.Container) : documentOf (Text.Utf8.encode text) =
        .error (.document (.tooDeep container)) ↔ Json.load text = .error (.tooDeep container) :=
      documentOf_encode_eq_error_iff (by simp)
    simp only [trips_encode_iff, ← hlong, ← hdeep]
    cases hdocument : documentOf (Text.Utf8.encode text) with
    | ok document => simp
    | error failure =>
      obtain ⟨error, rfl⟩ : ∃ error, failure = .document error := by
        rw [documentOf, hdecode] at hdocument
        dsimp only at hdocument
        split at hdocument
        · next error _ => exact ⟨error, (Except.error.inj hdocument).symm⟩
        · cases hdocument
      cases error with
      | unpaired => exact absurd hdocument hpaired
      | _ => simp [isRecoverable, Failure.kind, FailureKind.isFile]

theorem loadStrict_of_holds {path : Option String} (h : files.Holds path bytes) :
    files.loadStrict path = documentOf bytes := by
  obtain ⟨name, rfl, -, hfile⟩ := h
  rw [loadStrict, read_eq_ok_iff.mpr hfile]
  rfl

theorem load_of_holds {path : Option String} (h : files.Holds path bytes) :
    (∃ document, documentOf bytes = .ok document ∧ files.load path = pure (.ok document)) ∨
      (∃ failure, documentOf bytes = .error failure ∧ isRecoverable failure = false ∧
        files.load path = pure (.error failure)) ∨
      ∃ failure, documentOf bytes = .error failure ∧ isRecoverable failure = true ∧
        IsReport (files.load path) := by
  have hstrict := loadStrict_of_holds h
  obtain ⟨name, rfl, hblank, hfile⟩ := h
  have hpath : files.hasPath name = true := by rw [hasPath, hfile]; rfl
  unfold load
  simp only [hblank, Bool.false_eq_true, if_false, hpath, Bool.not_true, hstrict]
  cases documentOf bytes with
  | ok document => exact .inl ⟨document, rfl, rfl⟩
  | error failure =>
    cases hlost : isRecoverable failure with
    | false =>
      refine .inr (.inl ⟨failure, rfl, hlost, ?_⟩)
      simp only [hlost, Bool.false_eq_true, if_false]
    | true =>
      refine .inr (.inr ⟨failure, rfl, hlost, ?_⟩)
      simp only [hlost, if_true]
      exact ⟨_, rfl, .inr rfl⟩

theorem isReport_load_of_not_holds {path : Option String} (h : ∀ bytes, ¬files.Holds path bytes) :
    IsReport (files.load path) := by
  cases path with
  | none => exact ⟨_, rfl, .inr rfl⟩
  | some name =>
    unfold load
    dsimp only
    split
    · exact ⟨_, rfl, .inr rfl⟩
    · next hblank =>
      rw [Bool.not_eq_true] at hblank
      cases hnode : files.find? name with
      | none =>
        have hpath : files.hasPath name = false := by rw [hasPath, hnode]; rfl
        simp only [hpath, Bool.not_false, if_true]
        exact ⟨_, rfl, .inl rfl⟩
      | some node =>
        have hpath : files.hasPath name = true := by rw [hasPath, hnode]; rfl
        cases node with
        | file bytes => exact absurd ⟨name, rfl, hblank, hnode⟩ (h bytes)
        | directory =>
          have hread : files.read name = .error (.isDirectory name) := by rw [read, hnode]
          have hstrict : files.loadStrict (some name) = .error (.isDirectory name) := by
            rw [loadStrict, hread]
            rfl
          simp only [hpath, Bool.not_true, Bool.false_eq_true, if_false, hstrict]
          exact ⟨_, rfl, .inr rfl⟩

/-- Whatever the path, loading ends in one of three ways. -/
theorem load_cases (files : Files) (path : Option String) :
    (∃ bytes document, files.Holds path bytes ∧ documentOf bytes = .ok document ∧
      files.load path = pure (.ok document)) ∨
    (∃ bytes failure, files.Holds path bytes ∧ documentOf bytes = .error failure ∧
      isRecoverable failure = false ∧ files.load path = pure (.error failure)) ∨
    IsReport (files.load path) := by
  by_cases hholds : ∃ bytes, files.Holds path bytes
  · obtain ⟨bytes, hholds⟩ := hholds
    obtain ⟨document, hdocument, hload⟩ | ⟨failure, hfailure, hlost, hload⟩ | ⟨_, -, -, hreport⟩ :=
      load_of_holds hholds
    · exact .inl ⟨bytes, document, hholds, hdocument, hload⟩
    · exact .inr (.inl ⟨bytes, failure, hholds, hfailure, hlost, hload⟩)
    · exact .inr (.inr hreport)
  · exact .inr (.inr (isReport_load_of_not_holds (not_exists.mp hholds)))

theorem load_eq_ok_iff {path : Option String} : files.load path = pure (.ok document) ↔
    ∃ bytes, files.Holds path bytes ∧ Denotes bytes document ∧ ¬Trips bytes := by
  constructor
  · intro h
    obtain ⟨bytes, found, hholds, hfound, hload⟩ | ⟨_, _, -, -, -, hload⟩ | hreport :=
      files.load_cases path
    · obtain rfl : found = document := Except.ok.inj (congrArg Logged.value (hload.symm.trans h))
      exact ⟨bytes, hholds, documentOf_eq_ok_iff.mp hfound⟩
    · cases congrArg Logged.value (hload.symm.trans h)
    · exact absurd h (hreport.ne_pure _)
  · rintro ⟨bytes, hholds, hdenotes⟩
    have hdocument := documentOf_eq_ok_iff.mpr hdenotes
    obtain ⟨found, hfound, hload⟩ | ⟨_, hfailure, -⟩ | ⟨_, hfailure, -⟩ := load_of_holds hholds
    · rw [hload, Except.ok.inj (hfound.symm.trans hdocument)]
    · cases hfailure.symm.trans hdocument
    · cases hfailure.symm.trans hdocument

theorem load_fails_iff {path : Option String} (hpaired : ¬files.MeetsLoneHalf path) :
    (∃ failure, files.load path = pure (.error failure)) ↔
      ∃ bytes, files.Holds path bytes ∧ Trips bytes := by
  have htrips {bytes : List UInt8} (hholds : files.Holds path bytes) :
      (∃ failure, documentOf bytes = .error failure ∧ isRecoverable failure = false) ↔
        Trips bytes :=
    documentOf_trips_iff (loadStrict_of_holds hholds ▸ hpaired)
  constructor
  · rintro ⟨failure, h⟩
    obtain ⟨_, _, -, -, hload⟩ | ⟨bytes, found, hholds, hfound, hlost, -⟩ | hreport :=
      files.load_cases path
    · cases congrArg Logged.value (hload.symm.trans h)
    · exact ⟨bytes, hholds, (htrips hholds).mp ⟨found, hfound, hlost⟩⟩
    · exact absurd h (hreport.ne_pure _)
  · rintro ⟨bytes, hholds, hbytes⟩
    obtain ⟨failure, hfailure, hlost⟩ := (htrips hholds).mpr hbytes
    obtain ⟨_, hfound, -⟩ | ⟨found, -, -, hload⟩ | ⟨found, hfound, hkept, -⟩ := load_of_holds hholds
    · cases hfound.symm.trans hfailure
    · exact ⟨found, hload⟩
    · obtain rfl := Except.error.inj (hfound.symm.trans hfailure)
      cases hkept.symm.trans hlost

theorem load_fails_of_documentOf {found : List UInt8} {failure : Failure}
    (hblank : Text.isBlankText name = false) (hfound : files.find? name = some (.file found))
    (hfailure : documentOf found = .error failure) (hlost : isRecoverable failure = false) :
    ∃ failure, files.load (some name) = pure (.error failure) := by
  obtain ⟨_, hread, -⟩ | ⟨cause, -, -, hload⟩ | ⟨cause, hread, hkept, -⟩ :=
    load_of_holds ⟨name, rfl, hblank, hfound⟩
  · cases hread.symm.trans hfailure
  · exact ⟨cause, hload⟩
  · obtain rfl := Except.error.inj (hread.symm.trans hfailure)
    cases hkept.symm.trans hlost

/-- A report is neither a document nor a failure. -/
theorem isReport_load_iff {path : Option String} : IsReport (files.load path) ↔
    (¬∃ document, files.load path = pure (.ok document)) ∧
      ¬∃ failure, files.load path = pure (.error failure) := by
  constructor
  · intro h
    exact ⟨fun ⟨_, hload⟩ => h.ne_pure _ hload, fun ⟨_, hload⟩ => h.ne_pure _ hload⟩
  · rintro ⟨hnone, hfine⟩
    obtain ⟨_, document, -, -, hload⟩ | ⟨_, failure, -, -, -, hload⟩ | hreport :=
      files.load_cases path
    · exact absurd ⟨document, hload⟩ hnone
    · exact absurd ⟨failure, hload⟩ hfine
    · exact hreport

theorem load_eq_ok_iff_loadStrict : files.load (some name) = pure (.ok document) ↔
    Text.isBlankText name = false ∧ files.loadStrict (some name) = .ok document := by
  rw [load_eq_ok_iff, loadStrict_eq_ok_iff]
  constructor
  · rintro ⟨bytes, ⟨_, heq, hblank, hfile⟩, hdenotes⟩
    obtain rfl := Option.some.inj heq
    exact ⟨hblank, bytes, read_eq_ok_iff.mpr hfile, documentOf_eq_ok_iff.mpr hdenotes⟩
  · rintro ⟨hblank, bytes, hread, hdocument⟩
    exact ⟨bytes, ⟨name, rfl, hblank, read_eq_ok_iff.mp hread⟩, documentOf_eq_ok_iff.mp hdocument⟩

end Files

namespace Files

/-- A file with a byte that no text has, one with a number of 4301 digits, and one with a thousand
brackets. -/
def trippingFiles : Files := ⟨[], [(["a.json"], .file [0xff]),
  (["b.json"], .file (Text.Utf8.encode (String.ofList (List.replicate 4301 '1')))),
  (["c.json"], .file (Text.Utf8.encode (String.ofList (List.replicate 1000 '['))))]⟩

end Files

end TradingStatus
