import Mathlib.Data.List.Nodup
import TradingStatus.Platform.Standard
import TradingStatus.Proofs.Override.Entries
import TradingStatus.Text.Utf8

/-! The same entries in a table and in a file. A table is written under the identifiers that the
spellings of markets mean, and a file is looked up under the spellings that are in it, so the two
are of one mind about a market as long as its entry is spelled the way it is asked for. -/

namespace TradingStatus

namespace Json

/-- The members of a value that is an object. -/
def members? : Json → Option (List (String × Json))
  | obj members => some members
  | _ => none

theorem members?_eq_some_iff {value : Json} {members : List (String × Json)} :
    value.members? = some members ↔ value = .obj members := by
  cases value <;> simp [members?]

theorem eq_obj_nil_of_members? {value : Json} (h : value.members?.any List.isEmpty = true) :
    value = .obj [] := by
  obtain ⟨members, hmembers, hempty⟩ := (Option.any_eq_true _ _).mp h
  rw [members?_eq_some_iff.mp hmembers, List.isEmpty_iff.mp hempty]

theorem isSome_members?_iff {value : Json} :
    value.members?.isSome = true ↔ ∃ members, value = .obj members := by
  simp only [Option.isSome_iff_exists, members?_eq_some_iff]

end Json

namespace OverrideTable

variable {entries : List (String × Json)} {mic : String}

/-- The table that entries are written into, one after another. -/
def ofEntries (entries : List (String × Json)) : OverrideTable :=
  entries.foldl (fun table entry => table.put entry.1 entry.2) ⟨[]⟩

/-- Entries under the identifiers that their spellings mean. -/
def meant (entries : List (String × Json)) : List (String × Json) :=
  entries.map fun entry => (Mic.normalize entry.1, entry.2)

theorem lookup_ofEntries (entries : List (String × Json)) (mic : String) :
    (ofEntries entries).entries.lookup mic = (meant entries).reverse.lookup mic := by
  -- The entries are written one by one, so what they say of a market goes before what was there.
  have hfold (table : OverrideTable) :
      (entries.foldl (fun table entry => table.put entry.1 entry.2) table).entries.lookup mic =
        ((meant entries).reverse.lookup mic).or (table.entries.lookup mic) := by
    induction entries generalizing table with
    | nil => rfl
    | cons entry entries ih =>
      have hmeant : meant (entry :: entries) =
          (Mic.normalize entry.1, entry.2) :: meant entries := rfl
      rw [List.foldl_cons, ih, hmeant, List.reverse_cons, List.lookup_append, Option.or_assoc, put]
      by_cases hmic : mic = Mic.normalize entry.1
      · simp [hmic, Json.lookup_insert_self]
      · simp [Json.lookup_insert_of_ne _ _ hmic, List.lookup_cons, beq_false_of_ne hmic]
  exact (hfold ⟨[]⟩).trans (Option.or_none ..)

/-- Where no two spellings mean the same market, what is under an identifier is the entry whose
spelling means it. -/
theorem lookup_ofEntries_eq_some_iff {value : Json}
    (hdistinct : (entries.map fun entry => Mic.normalize entry.1).Nodup) :
    (ofEntries entries).entries.lookup mic = some value ↔
      ∃ entry ∈ entries, Mic.normalize entry.1 = mic ∧ entry.2 = value := by
  have hnodup : ((meant entries).reverse.map Prod.fst).Nodup := by
    rw [List.map_reverse, List.nodup_reverse, meant, List.map_map]
    exact hdistinct
  rw [lookup_ofEntries, lookup_eq_some_iff_mem hnodup, List.mem_reverse, meant, List.mem_map]
  simp only [Prod.mk.injEq]

theorem lookup_of_none [Platform] {table : OverrideTable} (h : table.entries.lookup mic = none) :
    table.lookup mic = .ok none := by
  unfold lookup Json.member
  rw [h]
  rfl

theorem lookup_of_object [Platform] {table : OverrideTable} {members : List (String × Json)}
    (h : table.entries.lookup mic = some (.obj members)) :
    table.lookup mic = (Override.ofEntry (.obj members)).map some := by
  unfold lookup Json.member
  rw [h]
  rfl

end OverrideTable

namespace OverrideStore

variable {entries : List (String × Json)} {mic path : String} {files : Files}

/-- Entries that can be held by a table as well as by a file: objects, under spellings of which no
two mean the same market. -/
structure AreShared (entries : List (String × Json)) : Prop where
  distinct : (entries.map fun entry => Mic.normalize entry.1).Nodup
  object : ∀ entry ∈ entries, ∃ members, entry.2 = .obj members

theorem areShared_iff : AreShared entries ↔
    (entries.map fun entry => Mic.normalize entry.1).Nodup ∧
      ∀ entry ∈ entries, entry.2.members?.isSome = true := by
  simp only [Json.isSome_members?_iff]
  constructor
  · intro h
    exact ⟨h.distinct, h.object⟩
  · intro h
    exact ⟨h.1, h.2⟩

instance : DecidablePred AreShared := fun _ => decidable_of_iff' _ areShared_iff

theorem AreShared.nodup (h : AreShared entries) : (entries.map Prod.fst).Nodup := by
  refine List.Nodup.of_map Mic.normalize ?_
  rw [List.map_map]
  exact h.distinct

theorem AreShared.unique (h : AreShared entries) {first second : String × Json}
    (hfirst : first ∈ entries) (hsecond : second ∈ entries)
    (hmeant : Mic.normalize first.1 = Mic.normalize second.1) : first = second :=
  List.inj_on_of_nodup_map h.distinct hfirst hsecond hmeant

/-- Two look-ups come to the same: to one override, to none, or to failures of one kind. -/
inductive ComeToSame :
    Except Failure (Option Override) → Except Failure (Option Override) → Prop
  | found {result : Option Override} : ComeToSame (.ok result) (.ok result)
  | failed {failure other : Failure} (h : failure.kind = other.kind) :
      ComeToSame (.error failure) (.error other)

theorem ComeToSame.refl (result : Except Failure (Option Override)) : ComeToSame result result := by
  cases result with
  | ok result => exact .found
  | error failure => exact .failed rfl

section

variable [Platform]

theorem lookupDocument_of_none (path : String) (h : entries.lookup mic = none) :
    lookupDocument path mic (.obj entries) = .ok none := by
  unfold lookupDocument Json.member
  simp only [h]
  rfl

theorem lookupDocument_of_object (path : String) {members : List (String × Json)}
    (h : entries.lookup mic = some (.obj members)) :
    lookupDocument path mic (.obj entries) = (Override.ofEntry (.obj members)).map some := by
  unfold lookupDocument Json.member
  simp only [h]
  rfl

/-- A market whose entry is spelled the way it is asked for, if there is one, is looked up alike. -/
theorem AreShared.lookup_of_spelled (h : AreShared entries) (path : String)
    (hmic : Mic.normalize mic = mic)
    (hspelled : ∀ entry ∈ entries, Mic.normalize entry.1 = mic → entry.1 = mic) :
    (OverrideTable.ofEntries entries).lookup mic = lookupDocument path mic (.obj entries) := by
  cases hlookup : entries.lookup mic with
  | none =>
    rw [lookupDocument_of_none path hlookup, OverrideTable.lookup_of_none]
    refine Option.eq_none_iff_forall_ne_some.mpr fun value hvalue => ?_
    obtain ⟨⟨spelling, found⟩, hmem, hmeant, rfl⟩ :=
      (OverrideTable.lookup_ofEntries_eq_some_iff h.distinct).mp hvalue
    obtain rfl : spelling = mic := hspelled _ hmem hmeant
    cases hlookup.symm.trans ((lookup_eq_some_iff_mem h.nodup).mpr hmem)
  | some value =>
    have hmem := (lookup_eq_some_iff_mem h.nodup).mp hlookup
    obtain ⟨members, rfl⟩ := h.object _ hmem
    rw [lookupDocument_of_object path hlookup, OverrideTable.lookup_of_object]
    exact (OverrideTable.lookup_ofEntries_eq_some_iff h.distinct).mpr ⟨_, hmem, hmic, rfl⟩

/-- An entry that is spelled in another way counts in the table only. -/
theorem AreShared.lookup_of_misspelled (h : AreShared entries) (path : String)
    (hmic : Mic.normalize mic = mic) {entry : String × Json} (hentry : entry ∈ entries)
    (hmeant : Mic.normalize entry.1 = mic) (hmisspelled : entry.1 ≠ mic) :
    (OverrideTable.ofEntries entries).lookup mic = (Override.ofEntry entry.2).map some ∧
      lookupDocument path mic (.obj entries) = .ok none := by
  obtain ⟨members, hmembers⟩ := h.object entry hentry
  constructor
  · rw [hmembers, OverrideTable.lookup_of_object]
    exact (OverrideTable.lookup_ofEntries_eq_some_iff h.distinct).mpr
      ⟨entry, hentry, hmeant, hmembers⟩
  · refine lookupDocument_of_none path ?_
    refine Option.eq_none_iff_forall_ne_some.mpr fun value hvalue => ?_
    -- An entry under the identifier itself would be a second one of the market.
    have hmem := (lookup_eq_some_iff_mem h.nodup).mp hvalue
    have heq := h.unique hmem hentry (hmic.trans hmeant.symm)
    exact hmisspelled (congrArg Prod.fst heq).symm

theorem not_comeToSame_none (entry : Json) :
    ¬ComeToSame ((Override.ofEntry entry).map some) (.ok none) := by
  cases Override.ofEntry entry with
  | ok override =>
    intro h
    cases h
  | error failure =>
    intro h
    cases h

/-- A table and a file that hold the same entries are of one mind about a market exactly if no entry
of the market is spelled in another way than it is asked for. Then they give the very same;
otherwise the table gives what the entry means, and the file gives nothing. -/
theorem table_agrees_with_file_iff (h : AreShared entries) (hmic : Mic.normalize mic = mic)
    (hfile : (files.load (some path)).value = .ok (.obj entries)) :
    (ComeToSame ((OverrideTable.ofEntries entries).lookup mic) (lookupFile files path mic).value ↔
      ∀ entry ∈ entries, Mic.normalize entry.1 = mic → entry.1 = mic) ∧
    ((∀ entry ∈ entries, Mic.normalize entry.1 = mic → entry.1 = mic) →
      lookupFile files path mic = pure ((OverrideTable.ofEntries entries).lookup mic)) ∧
    ∀ entry ∈ entries, Mic.normalize entry.1 = mic → entry.1 ≠ mic →
      (OverrideTable.ofEntries entries).lookup mic = (Override.ofEntry entry.2).map some ∧
        lookupFile files path mic = pure (.ok none) := by
  have hlookup := lookupFile_of_document mic hfile (by simp)
  rw [hlookup, Logged.value_pure]
  refine ⟨⟨fun hsame entry hentry hmeant => ?_, fun hspelled => ?_⟩, fun hspelled => ?_, ?_⟩
  · by_contra hmisspelled
    obtain ⟨htable, hdocument⟩ := h.lookup_of_misspelled path hmic hentry hmeant hmisspelled
    rw [htable, hdocument] at hsame
    exact not_comeToSame_none _ hsame
  · rw [h.lookup_of_spelled path hmic hspelled]
    exact .refl _
  · rw [h.lookup_of_spelled path hmic hspelled]
  · intro entry hentry hmeant hmisspelled
    obtain ⟨htable, hdocument⟩ := h.lookup_of_misspelled path hmic hentry hmeant hmisspelled
    exact ⟨htable, congrArg pure hdocument⟩

theorem exists_entries_of_check (files : Files) (path : String)
    (property : List (String × Json) → Prop) [DecidablePred property]
    (h : ((files.load (some path)).value.toOption.bind Json.members?).any
      (fun entries => decide (property entries)) = true) :
    ∃ entries, (files.load (some path)).value = .ok (.obj entries) ∧ property entries := by
  obtain ⟨entries, hentries, hproperty⟩ := (Option.any_eq_true _ _).mp h
  obtain ⟨document, hdocument, hmembers⟩ := Option.bind_eq_some_iff.mp hentries
  obtain rfl := Json.members?_eq_some_iff.mp hmembers
  exact ⟨entries, toOption_eq_some_iff.mp hdocument, of_decide_eq_true hproperty⟩

end

/-- Files of which one, where overrides are looked for, holds a text. -/
def filesOf (text : String) : Files :=
  ⟨[], [(["overrides.json"], .file (Text.Utf8.encode text))]⟩

/-- Files with overrides of two markets, of which one is spelled in small letters. -/
def mixedSpellings : Files := filesOf
  "\x7b\"xnys\":\x7b\"status\":\"HALTED\",\"reason\":\"L1\",\"expires\":\"2026-03-04\"\x7d,
    \"XLON\":\x7b\x7d\x7d"

theorem exists_entries_of_mixedSpellings :
    ∃ entries, (mixedSpellings.load (some "overrides.json")).value = .ok (.obj entries) ∧
      AreShared entries ∧
      (∀ entry ∈ entries, Mic.normalize entry.1 = "XLON" → entry.1 = "XLON") ∧
      ∃ entry ∈ entries, Mic.normalize entry.1 = "XNYS" ∧ entry.1 ≠ "XNYS" ∧
        (Override.ofEntry entry.2).toOption.any (·.status == .halted) = true := by
  refine exists_entries_of_check mixedSpellings "overrides.json" (fun entries =>
    AreShared entries ∧
      (∀ entry ∈ entries, Mic.normalize entry.1 = "XLON" → entry.1 = "XLON") ∧
      ∃ entry ∈ entries, Mic.normalize entry.1 = "XNYS" ∧ entry.1 ≠ "XNYS" ∧
        (Override.ofEntry entry.2).toOption.any (·.status == .halted) = true) ?_
  decide +kernel

/-- What these files say of London is what a table with the same entries says; what they say of New
York is not found. -/
theorem mixedSpellings_agree_on_london :
    ∃ entries, (mixedSpellings.load (some "overrides.json")).value = .ok (.obj entries) ∧
      lookupFile mixedSpellings "overrides.json" "XLON" =
        pure ((OverrideTable.ofEntries entries).lookup "XLON") ∧
      lookupFile mixedSpellings "overrides.json" "XNYS" = pure (.ok none) := by
  obtain ⟨entries, hfile, hshared, hspelled, entry, hentry, hmeant, hmisspelled, -⟩ :=
    exists_entries_of_mixedSpellings
  obtain ⟨-, hlondon, -⟩ := table_agrees_with_file_iff hshared
    (show Mic.normalize "XLON" = "XLON" by decide +kernel) hfile
  obtain ⟨-, -, hnewYork⟩ := table_agrees_with_file_iff hshared
    (show Mic.normalize "XNYS" = "XNYS" by decide +kernel) hfile
  exact ⟨entries, hfile, hlondon hspelled, (hnewYork entry hentry hmeant hmisspelled).2⟩

/-- A table and a file that hold the same entries do not always come to the same: a halt in New York
takes effect through the table alone. -/
theorem mixedSpellings_disagree_on_newYork :
    ∃ entries, AreShared entries ∧ Mic.normalize "XNYS" = "XNYS" ∧
      (mixedSpellings.load (some "overrides.json")).value = .ok (.obj entries) ∧
      ¬ComeToSame ((OverrideTable.ofEntries entries).lookup "XNYS")
        (lookupFile mixedSpellings "overrides.json" "XNYS").value ∧
      (∃ override, (OverrideTable.ofEntries entries).lookup "XNYS" = .ok (some override) ∧
        override.status = .halted) ∧
      (lookupFile mixedSpellings "overrides.json" "XNYS").value = .ok none := by
  obtain ⟨entries, hfile, hshared, -, entry, hentry, hmeant, hmisspelled, hhalted⟩ :=
    exists_entries_of_mixedSpellings
  have hmic : Mic.normalize "XNYS" = "XNYS" := by decide +kernel
  obtain ⟨htable, hdocument⟩ :=
    hshared.lookup_of_misspelled "overrides.json" hmic hentry hmeant hmisspelled
  obtain ⟨override, hoverride, hstatus⟩ := (Option.any_eq_true _ _).mp hhalted
  refine ⟨entries, hshared, hmic, hfile, ?_, ⟨override, ?_, eq_of_beq hstatus⟩, ?_⟩
  · rw [lookupFile_of_document "XNYS" hfile (by simp), Logged.value_pure, htable, hdocument]
    exact not_comeToSame_none _
  · rw [htable, toOption_eq_some_iff.mp hoverride]
    rfl
  · rw [lookupFile_of_document "XNYS" hfile (by simp), Logged.value_pure, hdocument]

end OverrideStore

end TradingStatus
