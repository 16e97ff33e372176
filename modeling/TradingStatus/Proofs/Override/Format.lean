import TradingStatus.Override.Basic
import TradingStatus.Platform.Standard
import TradingStatus.Proofs.Json.Depth
import TradingStatus.Proofs.Results
import TradingStatus.Proofs.Text.Numerals
import TradingStatus.Proofs.Text.Upper

/-! The format of an entry for an override: what is accepted, what an accepted entry means, and how
everything else is refused. A state may be named in letters of either case with blanks around them,
but only by a text; no other value is shown as the name of a state. Refusing shows the value that is
not in the format, which can be done with every value that was read from a document. -/

namespace TradingStatus

/-! How values that are no texts are shown -/

namespace Text

theorem upperChar_of_isDigit {c : Char} (h : c.isDigit = true) : upperChar c = [c] := by
  have hbounds : 48 ≤ c.toNat ∧ c.toNat ≤ 57 := Char.isDigit_iff_toNat.mp h
  have hcodes : ∀ d < 10, upperCodes (48 + d) = [48 + d] := by decide +kernel
  have hself : upperCodes c.toNat = [c.toNat] := by
    have hcode := hcodes (c.toNat - 48) (by omega)
    rwa [Nat.add_sub_cancel' hbounds.1] at hcode
  rw [upperChar, hself, List.map_singleton, Char.ofNat_toNat]

/-- A text begins with a digit, a minus or an opening bracket. -/
def BeginsApart (cs : List Char) : Prop :=
  ∃ c rest, cs = c :: rest ∧ (c.isDigit = true ∨ c ∈ ['-', '[', '\x7b'])

theorem beginsApart_upper_trim {s : String} (h : BeginsApart s.toList) :
    BeginsApart (upper (trim s)).toList := by
  obtain ⟨c, rest, hs, hc⟩ := h
  have hmarks : (['-', '[', '\x7b'].all fun c => !isBlank c && upperChar c == [c]) = true := by
    decide +kernel
  obtain ⟨hblank, hupper⟩ : isBlank c = false ∧ upperChar c = [c] := by
    rcases hc with hc | hc
    · exact ⟨isBlank_of_isDigit hc, upperChar_of_isDigit hc⟩
    · simpa using List.all_eq_true.mp hmarks c hc
  -- Nothing is dropped before the first character, and it stands for itself.
  have hfirst : (c :: rest).dropWhile isBlank = c :: rest :=
    List.dropWhile_cons_of_neg (by simp [hblank])
  obtain ⟨kept, hkept⟩ : ∃ kept, trimChars (c :: rest) = c :: kept := by
    obtain ⟨dropped, hdropped⟩ : trimChars (c :: rest) <+: (c :: rest).dropWhile isBlank :=
      List.rdropWhile_prefix isBlank _
    rw [hfirst] at hdropped
    cases htrim : trimChars (c :: rest) with
    | nil =>
      have hall := (trimChars_eq_nil_iff _).mp htrim
      simp [hblank] at hall
    | cons first kept =>
      rw [htrim, List.cons_append] at hdropped
      obtain ⟨rfl, -⟩ := List.cons.inj hdropped
      exact ⟨kept, rfl⟩
  refine ⟨c, kept.flatMap upperChar, ?_, hc⟩
  rw [upper, trim, String.toList_ofList, String.toList_ofList, hs, hkept, List.flatMap_cons, hupper,
    List.singleton_append]

theorem beginsApart_toString_nat (n : Nat) : BeginsApart (toString n).toList := by
  rw [Nat.toString_eq_ofList_toDigits, String.toList_ofList]
  obtain ⟨c, cs, hcs⟩ := List.exists_cons_of_ne_nil (Nat.toDigits_ne_nil (b := 10) (n := n))
  exact ⟨c, cs, hcs, .inl (isDigit_of_mem_toDigits (hcs ▸ List.mem_cons_self))⟩

theorem beginsApart_toString (n : Int) : BeginsApart (toString n).toList := by
  cases n with
  | ofNat n => exact beginsApart_toString_nat n
  | negSucc n =>
    refine ⟨'-', (toString (n + 1)).toList, ?_, .inr (by decide)⟩
    show ("-" ++ toString (n + 1)).toList = _
    rw [String.toList_append]
    rfl

end Text

namespace Binary64

open Text (BeginsApart)

theorem beginsApart_positional {digits : List Char} (h : BeginsApart digits) (point : Int) :
    BeginsApart (positional digits point) := by
  obtain ⟨c, rest, rfl, hc⟩ := h
  unfold positional
  split
  · exact ⟨'0', _, rfl, .inl (by decide)⟩
  · next hpoint =>
    split
    · exact ⟨c, _, rfl, hc⟩
    · obtain ⟨places, hplaces⟩ : ∃ places, point.toNat = places + 1 := ⟨point.toNat - 1, by omega⟩
      rw [hplaces]
      exact ⟨c, _, rfl, hc⟩

theorem beginsApart_scientific {digits : List Char} (h : BeginsApart digits) (power : Int) :
    BeginsApart (scientific digits power) := by
  obtain ⟨c, rest, rfl, hc⟩ := h
  unfold scientific
  cases rest <;> exact ⟨c, _, rfl, hc⟩

theorem beginsApart_finiteText (negative : Bool) (mantissa : Nat) (exponent : Int) :
    BeginsApart (finiteText negative mantissa exponent).toList := by
  have hpositive : BeginsApart (positiveText mantissa exponent) := by
    have hdigits := Text.beginsApart_toString_nat (shortestDigits mantissa exponent).1
    unfold positiveText
    simp only
    split
    · exact beginsApart_positional hdigits _
    · exact beginsApart_scientific hdigits _
  rw [finiteText, String.toList_ofList]
  cases negative with
  | true => exact ⟨'-', _, rfl, .inr (by decide)⟩
  | false =>
    by_cases hzero : mantissa = 0
    · simp only [hzero, if_true]
      exact ⟨'0', _, rfl, .inl (by decide)⟩
    · simp only [hzero, if_false]
      exact hpositive

end Binary64

namespace MarketStatus

theorem not_beginsApart_name (status : MarketStatus) : ¬Text.BeginsApart status.name.toList := by
  rintro ⟨c, rest, hname, hc⟩
  cases status <;> obtain ⟨rfl, -⟩ := List.cons.inj hname <;> exact absurd hc (by decide)

theorem ofName?_of_beginsApart {s : String} (h : Text.BeginsApart s.toList) :
    ofName? (Text.upper (Text.trim s)) = none := by
  refine Option.eq_none_iff_forall_ne_some.mpr fun status hstatus => ?_
  have hname := Text.beginsApart_upper_trim h
  rw [ofName?_eq_some_iff.mp hstatus] at hname
  exact not_beginsApart_name status hname

theorem beginsApart_bracketed (first : Char) (hfirst : first ∈ ['-', '[', '\x7b'])
    (inside last : String) : Text.BeginsApart (String.singleton first ++ inside ++ last).toList := by
  refine ⟨first, (inside ++ last).toList, ?_, .inr hfirst⟩
  simp

/-- Only a text is shown as the name of a state. -/
theorem text_of_ofName?_describe {value : Json} {status : MarketStatus}
    (h : ofName? (Text.upper (Text.trim value.describe)) = some status) :
    ∃ text, value = .str text := by
  have hapart : ¬Text.BeginsApart value.describe.toList := by
    intro hbegins
    rw [ofName?_of_beginsApart hbegins] at h
    cases h
  have hconstants : ∀ text ∈ ["None", "True", "False", "nan", "inf", "-inf"],
      ofName? (Text.upper (Text.trim text)) = none := by decide +kernel
  have hconstant : value.describe ∉ ["None", "True", "False", "nan", "inf", "-inf"] := by
    intro hmem
    rw [hconstants _ hmem] at h
    cases h
  clear h
  cases value with
  | str text => exact ⟨text, rfl⟩
  | null => exact absurd (by decide) hconstant
  | bool b => cases b <;> exact absurd (by decide) hconstant
  | int n => exact absurd (Text.beginsApart_toString n) hapart
  | float x =>
    cases x with
    | nan => exact absurd (by decide) hconstant
    | infinite negative => cases negative <;> exact absurd (by decide) hconstant
    | finite negative mantissa exponent =>
      exact absurd (Binary64.beginsApart_finiteText negative mantissa exponent) hapart
  | arr items => exact absurd (beginsApart_bracketed '[' (by decide) _ _) hapart
  | obj members => exact absurd (beginsApart_bracketed '\x7b' (by decide) _ _) hapart

end MarketStatus

namespace Override

variable {value entry : Json} {members : List (String × Json)} {override : Override}

/-! What an entry means -/

theorem reasonOfEntry_eq_ok_iff {reason : String} :
    reasonOfEntry value = .ok reason ↔
      ∃ text, value = .str text ∧ Text.isBlankText text = false ∧ Text.trim text = reason := by
  cases value with
  | str text => cases h : Text.isBlankText text <;> simp [reasonOfEntry, h]
  | _ => simp [reasonOfEntry]

theorem mem_names_iff {name : String} :
    name ∈ ["OPEN", "CLOSED", "HALTED", "UNKNOWN"] ↔
      ∃ status : MarketStatus, status.isOverridable = true ∧ name = status.name := by
  constructor
  · intro h
    simp only [List.mem_cons, List.not_mem_nil, or_false] at h
    rcases h with h | h | h | h
    · exact ⟨.opened, rfl, h⟩
    · exact ⟨.closed, rfl, h⟩
    · exact ⟨.halted, rfl, h⟩
    · exact ⟨.unknown, rfl, h⟩
  · rintro ⟨status, hstatus, rfl⟩
    cases status with
    | ok => cases hstatus
    | _ => decide

theorem exists_not_isBlank_iff {text : String} :
    (∃ c ∈ text.toList, Text.isBlank c = false) ↔ Text.isBlankText text = false := by
  simp [Text.isBlankText]

section

variable [Platform]

theorem statusOfEntry_eq_ok_iff {status : { status : MarketStatus // status.isOverridable = true }} :
    statusOfEntry value = .ok status ↔
      ∃ text, value = .str text ∧ Text.upper (Text.trim text) = status.val.name := by
  cases value with
  | str text =>
    have hfound : (Json.str text).text?.bind
        (fun s => MarketStatus.ofName? (Text.upper (Text.trim s))) =
          MarketStatus.ofName? (Text.upper (Text.trim text)) := Option.bind_some ..
    rw [statusOfEntry, hfound]
    constructor
    · intro h
      split at h
      · cases h
      · next found hname =>
        split at h
        · obtain rfl := Except.ok.inj h
          exact ⟨text, rfl, MarketStatus.ofName?_eq_some_iff.mp hname⟩
        · cases h
    · rintro ⟨_, ⟨⟩, hname⟩
      rw [MarketStatus.ofName?_eq_some_iff.mpr hname]
      exact dif_pos status.property
  | _ => simp [statusOfEntry, Json.text?]

theorem expiresOfEntry_eq_ok_iff {expires : Timestamp} :
    expiresOfEntry value = .ok expires ↔
      ∃ text t, value = .str text ∧ Platform.readTimestamp text = .ok t ∧ t.assumeUtc = expires := by
  cases value with
  | str text => cases h : Platform.readTimestamp text <;> simp [expiresOfEntry, h]
  | _ => simp [expiresOfEntry]

/-- What the members of an entry say. -/
structure Means (members : List (String × Json)) (override : Override) : Prop where
  status : ∃ text, Json.member members "status" = .str text ∧
    Text.upper (Text.trim text) = override.status.name
  reason : ∃ text, Json.member members "reason" = .str text ∧ Text.isBlankText text = false ∧
    Text.trim text = override.reason
  expires : ∃ text t, Json.member members "expires" = .str text ∧
    Platform.readTimestamp text = .ok t ∧ t.assumeUtc = override.expires

theorem ofEntry_eq_ok_iff :
    ofEntry entry = .ok override ↔ ∃ members, entry = .obj members ∧ Means members override := by
  cases entry with
  | obj members =>
    simp only [ofEntry, bind_eq_ok_iff, pure_eq_ok_iff]
    constructor
    · rintro ⟨status, hstatus, reason, hreason, expires, hexpires, rfl⟩
      exact ⟨members, rfl, statusOfEntry_eq_ok_iff.mp hstatus, reasonOfEntry_eq_ok_iff.mp hreason,
        expiresOfEntry_eq_ok_iff.mp hexpires⟩
    · rintro ⟨_, ⟨⟩, hmeans⟩
      exact ⟨⟨override.status, override.overridable⟩, statusOfEntry_eq_ok_iff.mpr hmeans.status,
        override.reason, reasonOfEntry_eq_ok_iff.mpr hmeans.reason,
        override.expires, expiresOfEntry_eq_ok_iff.mpr hmeans.expires, rfl⟩
  | _ => simp [ofEntry]

/-- The failures of an entry: it is refused as one, unless that would show what cannot be shown. -/
inductive IsRefusal (entry : Json) : Failure → Prop
  | refused {failure : Failure} (h : failure.kind = .entry) : IsRefusal entry failure
  | unshown (error : Json.ShowError) (h : ¬entry.CanShow Platform.showingDepth) :
      IsRefusal entry (.unshown error)

theorem isRefusal_showing {failure : Failure} (hkind : failure.kind = .entry)
    (hvalue : entry.CanShow Platform.showingDepth → value.CanShow Platform.showingDepth) :
    IsRefusal entry (.showing value failure) := by
  by_cases hentry : entry.CanShow Platform.showingDepth
  · rw [Failure.showing_of_canShow (hvalue hentry)]
    exact .refused hkind
  · rcases Failure.showing_eq_or value failure with heq | ⟨error, heq⟩
    · rw [heq]
      exact .refused hkind
    · rw [heq]
      exact .unshown error hentry

theorem failsOnlyWith_statusOfEntry
    (hvalue : entry.CanShow Platform.showingDepth → value.CanShow Platform.showingDepth) :
    FailsOnlyWith (IsRefusal entry) (statusOfEntry value) := by
  unfold statusOfEntry
  split
  · exact .error (isRefusal_showing rfl hvalue)
  · split
    · exact .ok _
    · exact .error (isRefusal_showing rfl hvalue)

theorem failsOnlyWith_reasonOfEntry : FailsOnlyWith (IsRefusal entry) (reasonOfEntry value) := by
  unfold reasonOfEntry
  split
  · split
    · exact .error (.refused rfl)
    · exact .ok _
  · exact .error (.refused rfl)

theorem failsOnlyWith_expiresOfEntry
    (hvalue : entry.CanShow Platform.showingDepth → value.CanShow Platform.showingDepth) :
    FailsOnlyWith (IsRefusal entry) (expiresOfEntry value) := by
  unfold expiresOfEntry
  split
  · split
    · exact .ok _
    · exact .error (.refused rfl)
  · exact .error (isRefusal_showing rfl hvalue)

theorem failsOnlyWith_ofEntry (entry : Json) :
    FailsOnlyWith (IsRefusal entry) (ofEntry entry) := by
  unfold ofEntry
  split
  · next members =>
    have hmember (name : String) (h : (Json.obj members).CanShow Platform.showingDepth) :=
      Json.canShow_member h name
    refine (failsOnlyWith_statusOfEntry (hmember "status")).bind fun status _ => ?_
    refine failsOnlyWith_reasonOfEntry.bind fun reason _ => ?_
    exact (failsOnlyWith_expiresOfEntry (hmember "expires")).bind fun expires _ => .ok _
  · exact .error (isRefusal_showing rfl id)

/-- What was read from a document is refused as an entry. -/
theorem IsRefusal.kind_of_load {failure : Failure} {text : String} (h : IsRefusal entry failure)
    (hread : Json.load text = .ok entry) : failure.kind = .entry := by
  cases h with
  | refused h => exact h
  | unshown error h => exact absurd (Json.canShow_of_load hread) h

/-! What is accepted -/

/-- The format of the members of an entry. -/
structure InFormat (members : List (String × Json)) : Prop where
  status : ∃ text, Json.member members "status" = .str text ∧
    Text.upper (Text.trim text) ∈ ["OPEN", "CLOSED", "HALTED", "UNKNOWN"]
  reason : ∃ text, Json.member members "reason" = .str text ∧
    ∃ c ∈ text.toList, Text.isBlank c = false
  expires : ∃ text t, Json.member members "expires" = .str text ∧
    Platform.readTimestamp text = .ok t

theorem exists_means_iff : (∃ override, Means members override) ↔ InFormat members := by
  constructor
  · rintro ⟨override, ⟨status, hstatus, hname⟩, ⟨reason, hreason, hblank, -⟩,
      ⟨expires, t, hexpires, ht, -⟩⟩
    exact ⟨⟨status, hstatus, mem_names_iff.mpr ⟨override.status, override.overridable, hname⟩⟩,
      ⟨reason, hreason, exists_not_isBlank_iff.mpr hblank⟩, ⟨expires, t, hexpires, ht⟩⟩
  · rintro ⟨⟨status, hstatus, hname⟩, ⟨reason, hreason, hblank⟩, ⟨expires, t, hexpires, ht⟩⟩
    obtain ⟨forced, hforced, hname⟩ := mem_names_iff.mp hname
    exact ⟨⟨forced, Text.trim reason, t.assumeUtc, hforced⟩, ⟨status, hstatus, hname⟩,
      ⟨reason, hreason, exists_not_isBlank_iff.mp hblank, rfl⟩, ⟨expires, t, hexpires, ht, rfl⟩⟩

end

/-- Members of an entry whose state has some name. -/
def membersNaming (status : Json) : List (String × Json) :=
  [("status", status), ("reason", .str " circuit breaker\n"), ("expires", .str "2026-03-04T16:00")]

end Override

end TradingStatus
