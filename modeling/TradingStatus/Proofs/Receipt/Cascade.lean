import TradingStatus.Proofs.Receipt.Attempt

/-! The tiers of an issuer, tried in turn. A tier may have nothing to say, may fail to sign what it
has to say, or may sign it; the first that signs settles what issuing comes to, and what the others
would have said does not count. -/

namespace TradingStatus

/-- A timestamp denotes an earlier instant than another one. Two naive ones are compared by what the
clocks show, and a naive one is not compared with one that is not. -/
inductive Timestamp.Precedes (a b : Timestamp) : Prop
  | instants {s t : Instant} (ha : a.instant? = some s) (hb : b.instant? = some t) (h : s < t)
  | readings (ha : a.instant? = none) (hb : b.instant? = none)
      (h : a.reading.micros < b.reading.micros)

theorem Timestamp.isBefore_eq_true_iff {a b : Timestamp} :
    a.isBefore b = .ok true ↔ a.Precedes b := by
  unfold isBefore
  constructor
  · intro h
    split at h
    · next s t ha hb => exact .instants ha hb (by simpa using h)
    · next ha hb => exact .readings ha hb (by simpa using h)
    · cases h
  · intro h
    cases h with
    | instants ha hb h => simp [ha, hb, h]
    | readings ha hb h => simp [ha, hb, h]

theorem Override.isActive_eq_true_iff {override : Override} {clock : Option Timestamp} :
    override.isActive clock = .ok true ↔
      ∃ now, clock = some now ∧ now.Precedes override.expires := by
  unfold isActive
  cases clock with
  | none => simp
  | some now => simp [Timestamp.isBefore_eq_true_iff]

namespace Issuer

variable {issuer : Issuer} {mic : String} {clock : Option Timestamp} {content : Content}
  {tier : Tier} {tally later : Tally} {override : Override} {receipt : Receipt} {outcome : Outcome}

/-- The overrides of a market are looked up and hold one that has not ended. -/
def FindsActive (issuer : Issuer) (mic : String) (clock : Option Timestamp) (override : Override) :
    Prop :=
  ∃ lookup now, issuer.lookup? = some lookup ∧ (lookup mic).value = .ok (some override) ∧
    clock = some now ∧ now.Precedes override.expires

/-- What a tier has to say about a market: an active override what it forces, for its reason; the
schedule what it answers; the safety net, always, that nothing is known. -/
def Says (issuer : Issuer) (mic : String) (clock : Option Timestamp) : Tier → Content → Prop
  | .override, content => ∃ override, issuer.FindsActive mic clock override ∧
      content = ⟨mic, override.status, .override, some override.reason⟩
  | .schedule, content => ∃ verdict, (issuer.verdict mic clock).value = .ok verdict ∧
      content = ⟨mic, verdict.status, verdict.source, none⟩
  | .safetyNet, content => content = ⟨mic, .unknown, .system, none⟩
  | .liveness, content => content = ⟨livenessMic, .ok, .system, none⟩

/-- One step of the search: a tier is tried, gives a receipt or gives none, and leaves behind what
has been asked for. -/
inductive Tries (issuer : Issuer) (mic : String) (clock : Option Timestamp) (tier : Tier)
    (tally : Tally) : Option Receipt → Tally → Prop
  | silent (h : ∀ content, ¬issuer.Says mic clock tier content) :
      Tries issuer mic clock tier tally none tally
  | signed {content : Content} {receipt : Receipt} {later : Tally}
      (said : issuer.Says mic clock tier content) (signs : issuer.Signs clock content tally receipt)
      (spends : issuer.Spends clock tally later) :
      Tries issuer mic clock tier tally (some receipt) later
  | unsigned {content : Content} {later : Tally} (said : issuer.Says mic clock tier content)
      (fails : ∀ receipt, ¬issuer.Signs clock content tally receipt)
      (spends : issuer.Spends clock tally later) :
      Tries issuer mic clock tier tally none later

/-- A search through some tiers: the first that gives a receipt settles it, and if none does,
nothing is signed. -/
inductive Settles (issuer : Issuer) (mic : String) (clock : Option Timestamp) :
    List Tier → Tally → Outcome → Tally → Prop
  | exhausted {tally : Tally} : Settles issuer mic clock [] tally .unsigned tally
  | found {tier : Tier} {tiers : List Tier} {tally later : Tally} {receipt : Receipt}
      (tries : issuer.Tries mic clock tier tally (some receipt) later) :
      Settles issuer mic clock (tier :: tiers) tally (.signed tier receipt) later
  | passed {tier : Tier} {tiers : List Tier} {tally next later : Tally} {outcome : Outcome}
      (tries : issuer.Tries mic clock tier tally none next)
      (rest : Settles issuer mic clock tiers next outcome later) :
      Settles issuer mic clock (tier :: tiers) tally outcome later

/-- The tiers of receipts for a market, in the order in which they are tried. -/
def marketTiers : List Tier := [.override, .schedule, .safetyNet]

theorem FindsActive.unique {first second : Override} (h : issuer.FindsActive mic clock first)
    (h' : issuer.FindsActive mic clock second) : first = second := by
  obtain ⟨lookup, -, hlookup, hfound, -⟩ := h
  obtain ⟨lookup', -, hlookup', hfound', -⟩ := h'
  obtain rfl := Option.some.inj (hlookup.symm.trans hlookup')
  exact Option.some.inj (Except.ok.inj (hfound.symm.trans hfound'))

theorem Says.unique {first second : Content} (h : issuer.Says mic clock tier first)
    (h' : issuer.Says mic clock tier second) : first = second := by
  cases tier with
  | override =>
    obtain ⟨override, hactive, rfl⟩ := h
    obtain ⟨override', hactive', rfl⟩ := h'
    rw [hactive.unique hactive']
  | schedule =>
    obtain ⟨verdict, hverdict, rfl⟩ := h
    obtain ⟨verdict', hverdict', rfl⟩ := h'
    rw [Except.ok.inj (hverdict.symm.trans hverdict')]
  | safetyNet => exact h.trans h'.symm
  | liveness => exact h.trans h'.symm

theorem Tries.unique {first second : Option Receipt} {left right : Tally}
    (h : issuer.Tries mic clock tier tally first left)
    (h' : issuer.Tries mic clock tier tally second right) : first = second ∧ left = right := by
  cases h with
  | silent hnot =>
    cases h' with
    | silent => exact ⟨rfl, rfl⟩
    | signed said => exact absurd said (hnot _)
    | unsigned said => exact absurd said (hnot _)
  | signed said signs spends =>
    cases h' with
    | silent hnot => exact absurd said (hnot _)
    | signed said' signs' spends' =>
      obtain rfl := said.unique said'
      exact ⟨congrArg some (signs.unique signs'), spends.unique spends'⟩
    | unsigned said' fails =>
      obtain rfl := said.unique said'
      exact absurd signs (fails _)
  | unsigned said fails spends =>
    cases h' with
    | silent hnot => exact absurd said (hnot _)
    | signed said' signs =>
      obtain rfl := said.unique said'
      exact absurd signs (fails _)
    | unsigned said' fails' spends' => exact ⟨rfl, spends.unique spends'⟩

theorem Settles.unique {tiers : List Tier} {first second : Outcome} {left right : Tally}
    (h : issuer.Settles mic clock tiers tally first left)
    (h' : issuer.Settles mic clock tiers tally second right) : first = second ∧ left = right := by
  induction h generalizing second right with
  | exhausted =>
    cases h'
    exact ⟨rfl, rfl⟩
  | found tries =>
    cases h' with
    | found tries' =>
      obtain ⟨hreceipt, rfl⟩ := tries.unique tries'
      cases hreceipt
      exact ⟨rfl, rfl⟩
    | passed tries' => cases (tries.unique tries').1
  | passed tries _ ih =>
    cases h' with
    | found tries' => cases (tries.unique tries').1
    | passed tries' rest =>
      obtain ⟨-, rfl⟩ := tries.unique tries'
      exact ih rest

/-- A tier that has something to say tries to sign it. -/
theorem tries_trySigned (heading : String) (tally : Tally)
    (said : issuer.Says mic clock tier content) :
    issuer.Tries mic clock tier tally (issuer.trySigned heading clock content tally).value.1
      (issuer.trySigned heading clock content tally).value.2 := by
  rw [value_trySigned]
  have spends := issuer.spends_issueSigned clock content tally
  cases hreceipt : (issuer.issueSigned clock content tally).1.toOption with
  | none =>
    refine .unsigned said (fun receipt hsigns => ?_) spends
    cases hreceipt.symm.trans (toOption_issueSigned_eq_some_iff.mpr hsigns)
  | some receipt => exact .signed said (toOption_issueSigned_eq_some_iff.mp hreceipt) spends

theorem value_activeOverride_eq_some_iff : (issuer.activeOverride mic clock).value = some override ↔
    issuer.FindsActive mic clock override := by
  unfold activeOverride FindsActive
  cases issuer.lookup? with
  | none => simp
  | some lookup =>
    simp only [Logged.value_bind, Option.some.injEq, exists_and_left, exists_eq_left',
      ← Override.isActive_eq_true_iff]
    rcases (lookup mic).value with failure | ⟨_ | found⟩
    · simp [activeOverride.unavailable]
    · simp
    · simp only [Except.ok.injEq, Option.some.injEq]
      constructor
      · intro h
        cases hactive : found.isActive clock with
        | error failure => simp [hactive, activeOverride.unavailable] at h
        | ok active =>
          cases active with
          | false => simp [hactive] at h
          | true =>
            obtain rfl : found = override := by simpa [hactive] using h
            exact ⟨rfl, hactive⟩
      · rintro ⟨rfl, hactive⟩
        simp [hactive]

theorem tries_tryOverride (issuer : Issuer) (mic : String) (clock : Option Timestamp)
    (tally : Tally) : issuer.Tries mic clock .override tally
    (issuer.tryOverride mic clock tally).value.1 (issuer.tryOverride mic clock tally).value.2 := by
  unfold tryOverride
  rw [Logged.value_bind]
  cases hactive : (issuer.activeOverride mic clock).value with
  | none =>
    refine .silent ?_
    rintro content ⟨override, hfinds, -⟩
    cases hactive.symm.trans (value_activeOverride_eq_some_iff.mpr hfinds)
  | some override =>
    exact tries_trySigned _ _ ⟨override, value_activeOverride_eq_some_iff.mp hactive, rfl⟩

theorem tries_trySchedule (issuer : Issuer) (mic : String) (clock : Option Timestamp)
    (tally : Tally) : issuer.Tries mic clock .schedule tally
    (issuer.trySchedule mic clock tally).value.1 (issuer.trySchedule mic clock tally).value.2 := by
  unfold trySchedule
  rw [Logged.value_bind]
  cases hverdict : (issuer.verdict mic clock).value with
  | error failure =>
    refine .silent ?_
    rintro content ⟨verdict, hsaid, -⟩
    cases hverdict.symm.trans hsaid
  | ok verdict => exact tries_trySigned _ _ ⟨verdict, hverdict, rfl⟩

theorem tries_trySafetyNet (issuer : Issuer) (mic : String) (clock : Option Timestamp)
    (tally : Tally) : issuer.Tries mic clock .safetyNet tally
    (issuer.trySafetyNet mic clock tally).value.1 (issuer.trySafetyNet mic clock tally).value.2 :=
  tries_trySigned _ _ rfl

/-- Issuing for a market searches the tiers in their order. -/
theorem settles_issueFor (issuer : Issuer) (mic : String) (clock : Option Timestamp)
    (tally : Tally) : issuer.Settles mic clock marketTiers tally
    (issuer.issueFor mic clock tally).value.1 (issuer.issueFor mic clock tally).value.2 := by
  unfold issueFor
  simp only [Logged.value_bind]
  have hoverride := issuer.tries_tryOverride mic clock tally
  generalize (issuer.tryOverride mic clock tally).value = first at hoverride ⊢
  obtain ⟨_ | receipt, tally⟩ := first
  · refine .passed hoverride ?_
    have hschedule := issuer.tries_trySchedule mic clock tally
    simp only [Logged.value_bind]
    generalize (issuer.trySchedule mic clock tally).value = second at hschedule ⊢
    obtain ⟨_ | receipt, tally⟩ := second
    · refine .passed hschedule ?_
      have hsafetyNet := issuer.tries_trySafetyNet mic clock tally
      simp only [Logged.value_bind]
      generalize (issuer.trySafetyNet mic clock tally).value = third at hsafetyNet ⊢
      obtain ⟨_ | receipt, tally⟩ := third
      · exact .passed hsafetyNet .exhausted
      · exact .found hsafetyNet
    · exact .found hschedule
  · exact .found hoverride

theorem settles_issueLiveness (issuer : Issuer) (mic : String) (clock : Option Timestamp)
    (tally : Tally) : issuer.Settles mic clock [.liveness] tally
    (issuer.issueLiveness clock tally).value.1 (issuer.issueLiveness clock tally).value.2 := by
  unfold issueLiveness
  rw [Logged.value_bind]
  have said : issuer.Says mic clock .liveness ⟨livenessMic, .ok, .system, none⟩ := rfl
  have hliveness := tries_trySigned "ORACLE_LIVENESS_FAILURE: " tally said
  generalize (issuer.trySigned _ clock _ tally).value = first at hliveness ⊢
  obtain ⟨_ | receipt, tally⟩ := first
  · exact .passed hliveness .exhausted
  · exact .found hliveness

theorem issue_of_not_supported (h : mic ∉ issuer.calendar.supported) (clock : Option Timestamp)
    (tally : Tally) : issuer.issue mic clock tally =
      pure (.error (.unknownMarket mic issuer.calendar.supported), tally) := by
  rw [← Calendar.find?_isSome, Option.not_isSome_iff_eq_none] at h
  simp [issue, Calendar.get, h]

theorem value_issue_of_supported (h : mic ∈ issuer.calendar.supported) (clock : Option Timestamp)
    (tally : Tally) : (issuer.issue mic clock tally).value =
      (.ok (issuer.issueFor mic clock tally).value.1,
        (issuer.issueFor mic clock tally).value.2) := by
  obtain ⟨market, hmarket⟩ := Option.isSome_iff_exists.mp (Calendar.find?_isSome.mpr h)
  simp [issue, Calendar.get, hmarket]

/-- Issuing is the search for the first tier that signs. It is refused for exactly the markets that
are not in the calendar, with nothing looked up, asked for or reported; for every other market it
comes to what the search through the tiers comes to, whatever fails on the way. -/
theorem issue_settles_by_first_success (issuer : Issuer) (mic : String) (clock : Option Timestamp)
    (tally : Tally) :
    (issuer.issue mic clock tally =
        pure (.error (.unknownMarket mic issuer.calendar.supported), tally) ↔
      mic ∉ issuer.calendar.supported) ∧
    ((∃ failure, (issuer.issue mic clock tally).value.1 = .error failure) ↔
      mic ∉ issuer.calendar.supported) ∧
    ∀ outcome later, (issuer.issue mic clock tally).value = (.ok outcome, later) ↔
      mic ∈ issuer.calendar.supported ∧
        issuer.Settles mic clock [.override, .schedule, .safetyNet] tally outcome later := by
  by_cases hmic : mic ∈ issuer.calendar.supported
  · have hvalue := value_issue_of_supported hmic clock tally
    refine ⟨iff_of_false (fun h => ?_) (not_not_intro hmic),
      iff_of_false (fun ⟨failure, h⟩ => ?_) (not_not_intro hmic), fun outcome later => ?_⟩
    · rw [h] at hvalue
      cases hvalue
    · rw [hvalue] at h
      cases h
    · have hsettles := issuer.settles_issueFor mic clock tally
      rw [hvalue, Prod.mk.injEq, Except.ok.injEq]
      constructor
      · rintro ⟨rfl, rfl⟩
        exact ⟨hmic, hsettles⟩
      · rintro ⟨-, h⟩
        exact hsettles.unique h
  · have hissue := issue_of_not_supported hmic clock tally
    refine ⟨iff_of_true hissue hmic, iff_of_true ⟨_, by rw [hissue, Logged.value_pure]⟩ hmic,
      fun outcome later => iff_of_false (fun h => ?_) (fun h => hmic h.1)⟩
    rw [hissue] at h
    cases h

end Issuer

end TradingStatus
