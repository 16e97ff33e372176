import TradingStatus.Market.Calendar
import TradingStatus.Proofs.Market.Holidays
import TradingStatus.Proofs.Text.Upper

/-! Calendars as they are loaded. Every entry of a document makes one market of its calendar, in the
same order, under the identifier that its name means; and the zone that a market keeps was found in
the database. -/

namespace TradingStatus

theorem ZoneDatabase.find?_of_named {zones : ZoneDatabase} {name : String} {zone : Zone}
    (h : zones.named name = .ok zone) : zones.find? name = some zone := by
  unfold named at h
  iterate 4
    split at h
    · cases h
  split at h
  · next found hfound =>
    cases h
    exact hfound
  · cases h

namespace Market

variable {zones : ZoneDatabase} {market : Market} {mic : String}

theorem find?_of_zoneOf {value : Json} {name : String} {zone : Zone}
    (h : zoneOf zones value = .ok (name, zone)) : zones.find? name = some zone := by
  unfold zoneOf at h
  split at h
  · split at h
    · cases h
    · split at h
      · next found hfound =>
        cases h
        exact ZoneDatabase.find?_of_named hfound
      · cases h
  · cases h

/-- The texts of a market are such as a document can give: its identifier and its name are not
blank, and its zone is the one of that name. -/
structure IsNamed (zones : ZoneDatabase) (market : Market) : Prop where
  mic_text : Text.isBlankText market.mic = false
  name_text : Text.isBlankText market.name = false
  zone_eq : zoneOf zones (.str market.timezone) = .ok (market.timezone, market.zone)

theorem nonBlank_eq_ok_iff {value : Json} {field text : String} :
    nonBlank value field = .ok text ↔ value = .str text ∧ Text.isBlankText text = false := by
  unfold nonBlank
  split
  · next given =>
    split
    · next hblank => grind
    · next hblank => grind
  · next hother => grind

theorem timezone_of_zoneOf {value : Json} {name : String} {zone : Zone}
    (h : zoneOf zones value = .ok (name, zone)) : value = .str name := by
  unfold zoneOf at h
  split at h
  · split at h
    · cases h
    · split at h
      · obtain ⟨rfl, -⟩ := Prod.mk.inj (Except.ok.inj h)
        rfl
      · cases h
  · cases h

theorem isNamed_of_ofDraft {draft : Draft} (h : ofDraft zones draft = .ok market) :
    draft.mic = .str market.mic ∧ IsNamed zones market := by
  obtain ⟨mic, hmic, h⟩ := bind_eq_ok_iff.mp h
  obtain ⟨name, hname, h⟩ := bind_eq_ok_iff.mp h
  obtain ⟨⟨timezone, zone⟩, hzone, h⟩ := bind_eq_ok_iff.mp h
  simp only at h
  split at h
  · obtain ⟨lunch, -, h⟩ := bind_eq_ok_iff.mp h
    obtain ⟨fit, -, h⟩ := bind_eq_ok_iff.mp h
    obtain rfl := pure_eq_ok_iff.mp h
    obtain ⟨hdraft, hmic⟩ := nonBlank_eq_ok_iff.mp hmic
    obtain ⟨-, hname⟩ := nonBlank_eq_ok_iff.mp hname
    exact ⟨hdraft, hmic, hname, timezone_of_zoneOf hzone ▸ hzone⟩
  · cases h

section

variable [Platform]

theorem isNamed_of_ofJson {entry : Json} (h : ofJson zones mic entry = .ok market) :
    market.mic = Mic.normalize mic ∧ IsNamed zones market := by
  obtain ⟨_, _, _, _, _, _, _, made, -, -, -, -, -, -, -, hmade, rfl⟩ := ofJson_eq_ok_iff.mp h
  obtain ⟨hmic, hnamed⟩ := isNamed_of_ofDraft hmade
  exact ⟨(Json.str.inj hmic).symm, hnamed.mic_text, hnamed.name_text, hnamed.zone_eq⟩

theorem exists_zone_of_ofJson {entry : Json} (h : ofJson zones mic entry = .ok market) :
    ∃ name, zones.find? name = some market.zone :=
  ⟨market.timezone, find?_of_zoneOf (isNamed_of_ofJson h).2.zone_eq⟩

end

end Market

namespace Calendar

variable {zones : ZoneDatabase} {calendar : Calendar} {market : Market}
  {markets : List (Except Failure Market)} {found all : Distinct} {members : List (String × Json)}

theorem val_of_add (h : add found market = .ok all) : all.val = market :: found.val := by
  unfold add at h
  split at h
  · cases h
  · cases h
    rfl

/-- What has been collected in the end is what was there before, with all that was made on the way. -/
theorem exists_made_of_foldlM
    (h : markets.foldlM (fun found market => do add found (← market)) found = .ok all) :
    ∃ made : List Market, markets = made.map .ok ∧ all.val = made.reverse ++ found.val := by
  induction markets generalizing found with
  | nil =>
    obtain rfl := pure_eq_ok_iff.mp h
    exact ⟨[], rfl, rfl⟩
  | cons first rest ih =>
    obtain ⟨next, hstep, hrest⟩ := bind_eq_ok_iff.mp h
    obtain ⟨added, rfl, hadd⟩ := bind_eq_ok_iff.mp hstep
    obtain ⟨made, rfl, hall⟩ := ih hrest
    refine ⟨added :: made, rfl, ?_⟩
    rw [hall, val_of_add hadd, List.reverse_cons, List.append_assoc, List.singleton_append]

theorem markets_of_collect (h : collect markets = .ok calendar) :
    markets = calendar.markets.map .ok := by
  obtain ⟨all, hall, h⟩ := bind_eq_ok_iff.mp h
  split at h
  · cases h
  · obtain rfl := pure_eq_ok_iff.mp h
    obtain ⟨made, rfl, hmade⟩ := exists_made_of_foldlM hall
    simp [hmade, Distinct.none]

theorem find?_of_mem (h : market ∈ calendar.markets) : calendar.find? market.mic = some market :=
  find?_eq_some_iff_of_nodup calendar.nodup |>.mpr ⟨h, rfl⟩

theorem mem_of_get {mic : String} (h : calendar.get mic = .ok market) :
    market ∈ calendar.markets :=
  List.mem_of_find?_eq_some (get_eq_ok_iff.mp h)

variable [Platform]

/-- The markets of a calendar are those of the entries of its document, in the same order. -/
theorem mapM_of_ofJson (h : ofJson zones (.obj members) = .ok calendar) :
    members.mapM (fun member => Market.ofJson zones member.1 member.2) = .ok calendar.markets := by
  have hmarkets : members.map (fun member => Market.ofJson zones member.1 member.2) =
      calendar.markets.map .ok := markets_of_collect h
  rwa [← List.forall₂_eq_eq_eq, List.forall₂_map_left_iff, List.forall₂_map_right_iff,
    ← mapM_eq_ok_iff] at hmarkets

/-- A market of a calendar is made of an entry of the document. -/
theorem exists_entry_of_mem {document : Json} (h : ofJson zones document = .ok calendar)
    (hmem : market ∈ calendar.markets) :
    ∃ mic entry, Market.ofJson zones mic entry = .ok market := by
  cases document with
  | obj members =>
    obtain ⟨member, -, hmade⟩ := (mem_iff_of_mapM (mapM_of_ofJson h)).mp hmem
    exact ⟨member.1, member.2, hmade⟩
  | _ => cases h

/-- The markets are listed under what the names of the members mean. -/
theorem supported_of_ofJson (h : ofJson zones (.obj members) = .ok calendar) :
    calendar.supported = members.map fun member => Mic.normalize member.1 := by
  have hmarkets := mapM_eq_ok_iff.mp (mapM_of_ofJson h)
  clear h
  unfold supported
  generalize calendar.markets = markets at hmarkets
  induction hmarkets with
  | nil => rfl
  | cons hmade _ ih => rw [List.map_cons, List.map_cons, ih, (Market.isNamed_of_ofJson hmade).1]

theorem get_of_ofJson {member : String × Json} (h : ofJson zones (.obj members) = .ok calendar)
    (hmember : member ∈ members) :
    ∃ market, Market.ofJson zones member.1 member.2 = .ok market ∧
      calendar.get (Mic.normalize member.1) = .ok market := by
  obtain ⟨market, hmem, hmade⟩ := exists_of_mem_of_mapM (mapM_of_ofJson h) hmember
  refine ⟨market, hmade, get_eq_ok_iff.mpr ?_⟩
  rw [← (Market.isNamed_of_ofJson hmade).1]
  exact find?_of_mem hmem

/-- What a calendar lists is not blank, and means itself. -/
theorem normalize_of_mem_supported {document : Json} {mic : String}
    (h : ofJson zones document = .ok calendar) (hmic : mic ∈ calendar.supported) :
    Mic.normalize mic = mic ∧ Text.isBlankText mic = false := by
  obtain ⟨market, hmem, rfl⟩ := List.mem_map.mp hmic
  obtain ⟨given, entry, hmade⟩ := exists_entry_of_mem h hmem
  obtain ⟨hmic, hnamed⟩ := Market.isNamed_of_ofJson hmade
  refine ⟨?_, hnamed.mic_text⟩
  rw [hmic, Mic.normalize_normalize]

/-- The zone of a loaded market is one of the database. -/
theorem exists_zone_of_get {document : Json} {mic : String}
    (h : ofJson zones document = .ok calendar) (hmarket : calendar.get mic = .ok market) :
    ∃ name, zones.find? name = some market.zone := by
  obtain ⟨mic, entry, hmade⟩ := exists_entry_of_mem h (mem_of_get hmarket)
  exact Market.exists_zone_of_ofJson hmade

end Calendar

end TradingStatus
