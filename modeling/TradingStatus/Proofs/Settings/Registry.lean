import Mathlib.Data.List.Nodup
import TradingStatus.Proofs.Settings.Published
import TradingStatus.Proofs.Settings.Verification
import TradingStatus.Proofs.Signing.Entries

/-! The registry that an installation publishes: the active key before the keys that the document of
keys lists under other identifiers, none left out and none made up. -/

namespace TradingStatus

theorem filterMapM_eq_ok_filter {ε α : Type} {as : List α} {f : α → Except ε Bool} {p : α → Bool}
    (h : ∀ a ∈ as, f a = .ok (p a)) :
    as.filterMapM (fun a => return if ← f a then some a else none) = .ok (as.filter p) := by
  induction as with
  | nil => rfl
  | cons a as ih =>
    have hrest := ih fun b hb => h b (List.mem_cons_of_mem _ hb)
    rw [List.filterMapM_cons, h a List.mem_cons_self]
    cases hp : p a with
    | false =>
      rw [List.filter_cons_of_neg (by simp [hp])]
      exact hrest
    | true =>
      rw [List.filter_cons_of_pos hp]
      show (do return a :: (← as.filterMapM fun a => return if ← f a then some a else none)) = _
      rw [hrest]
      rfl

/-! Windows -/

namespace PublishedKey

variable {key : PublishedKey} {now : Timestamp} {t : Instant}

/-- An instant lies in the window of a key: not before its start, and before its end if it has
one. -/
def isInUse (key : PublishedKey) (t : Instant) : Bool :=
  (key.validFrom.bind Timestamp.instant?).any (· ≤ t) &&
    (key.validUntil.bind Timestamp.instant?).all (t < ·)

/-- Both ends of a window are instants, of which the first is there. -/
structure HasInstants (key : PublishedKey) : Prop where
  start : ∃ validFrom start, key.validFrom = some validFrom ∧ validFrom.instant? = some start
  finish : ∀ validUntil, key.validUntil = some validUntil →
    ∃ finish, validUntil.instant? = some finish

theorem hasInstants_of_ofBounds [Platform] {id publicKey : Json} {start finish : Bound}
    (h : ofBounds id publicKey start finish = .ok key) : key.HasInstants := by
  obtain ⟨name, text, validFrom, validUntil, -, -, -, hstart, hfinish, -, rfl⟩ :=
    ofBounds_eq_ok_iff.mp h
  obtain ⟨first, hfirst⟩ := exists_instant_of_read hstart
  refine ⟨⟨validFrom, first, rfl, hfirst⟩, ?_⟩
  rintro last rfl
  exact exists_instant_of_read hfinish

theorem HasInstants.isValidAt_eq (h : key.HasInstants) (hnow : now.instant? = some t) :
    key.isValidAt (some now) = .ok (key.isInUse t) := by
  obtain ⟨validFrom, start, hfrom, hstart⟩ := h.start
  unfold isValidAt isInUse
  rw [hfrom]
  simp only [Timestamp.isBefore_eq_ok hnow hstart, Option.bind_some, hstart, Option.any_some]
  by_cases hbefore : t < start
  · have hstarted : ¬start ≤ t := fun hle => absurd hbefore (Int.not_lt.mpr hle)
    simp [hbefore, hstarted, bind, Except.bind, pure, Except.pure]
  · have hstarted : start ≤ t := Int.not_lt.mp hbefore
    cases huntil : key.validUntil with
    | none => simp [hbefore, hstarted, bind, Except.bind, pure, Except.pure]
    | some validUntil =>
      obtain ⟨finish, hfinish⟩ := h.finish validUntil huntil
      simp [hbefore, hstarted, hfinish, Timestamp.isBefore_eq_ok hnow hfinish, bind, Except.bind]

end PublishedKey

/-! Registries -/

namespace KeyRegistry

variable {registry : KeyRegistry} {id : String}

theorem find?_eq_none_iff : registry.find? id = none ↔ id ∉ registry.keys.map PublishedKey.id := by
  simp [find?, List.find?_eq_none]

theorem validAt_eq_filter (h : ∀ key ∈ registry.keys, key.HasInstants) {now : Timestamp}
    {t : Instant} (hnow : now.instant? = some t) :
    registry.validAt (some now) = .ok (registry.keys.filter (·.isInUse t)) :=
  filterMapM_eq_ok_filter fun key hkey => (h key hkey).isValidAt_eq hnow

end KeyRegistry

/-! The document of keys -/

theorem Path.isBlankText_append {path name : String} (h : Text.isBlankText name = false) :
    Text.isBlankText (append path name) = false := by
  unfold append
  split <;> simp_all [Text.isBlankText]

theorem Settings.isBlankText_keysPath (settings : Settings) :
    Text.isBlankText settings.keysPath = false := by
  have hsegments : [Settings.keysName].flatMap Home.segmentNames = ["config", "keys.json"] := by
    decide +kernel
  rw [keysPath, Home.path, hsegments]
  exact Path.isBlankText_append (by decide +kernel)

namespace Files

variable {files : Files} {path : String} {document : Json} {entries : List Json}
  [Platform]

/-- A path leads to nothing, to a directory, or to a text that is no JSON. -/
def HoldsNoJson (files : Files) (path : String) : Prop :=
  ∀ bytes, files.find? path = some (.file bytes) →
    ∃ failure, documentOf bytes = .error failure ∧ failure.kind = .document

/-- The entries of keys that a path leads to. -/
inductive ListsKeys (files : Files) (path : String) : List Json → Prop
  | nothing (h : files.HoldsNoJson path) : ListsKeys files path []
  | vacant {bytes : List UInt8} {document : Json} (hfile : files.find? path = some (.file bytes))
      (h : documentOf bytes = .ok document) (hvacant : document.isVacant = true) :
      ListsKeys files path []
  | list {bytes : List UInt8} {entries : List Json} (hfile : files.find? path = some (.file bytes))
      (h : documentOf bytes = .ok (.arr entries)) : ListsKeys files path entries

theorem isRecoverable_documentOf {bytes : List UInt8} {failure : Failure}
    (h : documentOf bytes = .error failure) :
    isRecoverable failure = true ↔ failure.kind = .document := by
  unfold documentOf at h
  split at h
  · obtain rfl := Except.error.inj h
    exact iff_of_false Bool.false_ne_true fun hkind => by cases hkind
  · split at h
    · next error _ =>
      obtain rfl := Except.error.inj h
      cases error <;> simp [isRecoverable, Failure.kind, FailureKind.isFile]
    · cases h

theorem value_load_of_hasPath (hpath : Text.isBlankText path = false)
    (h : files.hasPath path = true) : (files.load (some path)).value = .ok document ↔
      files.loadStrict (some path) = .ok document ∨
        document = .null ∧ ∃ failure, files.loadStrict (some path) = .error failure ∧
          isRecoverable failure = true := by
  unfold load
  simp only [hpath, Bool.false_eq_true, if_false, h, Bool.not_true]
  cases files.loadStrict (some path) with
  | ok found => simp
  | error failure => cases hlost : isRecoverable failure <;> simp [hlost, eq_comm (a := Json.null)]

/-- What is loaded is the document in the file, or null where there is no JSON. -/
theorem value_load_eq_ok_iff (hpath : Text.isBlankText path = false) :
    (files.load (some path)).value = .ok document ↔
      (∃ bytes, files.find? path = some (.file bytes) ∧ documentOf bytes = .ok document) ∨
        document = .null ∧ files.HoldsNoJson path := by
  cases hnode : files.find? path with
  | none =>
    rw [value_load_of_not_hasPath (by rw [hasPath, hnode]; rfl)]
    simp [HoldsNoJson, hnode, eq_comm (a := Json.null)]
  | some node =>
    rw [value_load_of_hasPath hpath (by rw [hasPath, hnode]; rfl), loadStrict]
    cases node with
    | directory =>
      have hread : files.read path = .error (.isDirectory path) := by rw [read, hnode]
      rw [hread]
      simp [HoldsNoJson, hnode, bind, Except.bind, isRecoverable, Failure.kind, FailureKind.isFile]
    | file bytes =>
      rw [read_eq_ok_iff.mpr hnode]
      simp only [bind, Except.bind, HoldsNoJson, hnode, Option.some.injEq, FileNode.file.injEq,
        exists_eq_left', forall_eq']
      refine or_congr Iff.rfl (and_congr_right fun _ => exists_congr fun failure => ?_)
      exact and_congr_right isRecoverable_documentOf

theorem listsKeys_iff (hpath : Text.isBlankText path = false) : files.ListsKeys path entries ↔
    ∃ document, (files.load (some path)).value = .ok document ∧
      Installation.keyEntries? document = some entries := by
  simp only [value_load_eq_ok_iff hpath]
  constructor
  · intro h
    cases h with
    | nothing h => exact ⟨.null, .inr ⟨rfl, h⟩, rfl⟩
    | vacant hfile h hvacant => exact ⟨_, .inl ⟨_, hfile, h⟩, if_pos hvacant⟩
    | list hfile h => exact ⟨_, .inl ⟨_, hfile, h⟩, by cases entries <;> rfl⟩
  · rintro ⟨document, ⟨bytes, hfile, h⟩ | ⟨rfl, h⟩, hentries⟩
    · unfold Installation.keyEntries? at hentries
      split at hentries
      · next hvacant =>
        obtain rfl := Option.some.inj hentries
        exact .vacant hfile h hvacant
      · split at hentries
        · obtain rfl := Option.some.inj hentries
          exact .list hfile h
        · cases hentries
    · obtain rfl := Option.some.inj hentries
      exact .nothing h

end Files

/-! The registry of an installation -/

namespace Installation

variable {installation : Installation} {active : Option PublishedKey} {registry : KeyRegistry}
  {entries : List Json} {keys others : List PublishedKey}

/-- What an entry of a key gives as its identifier. -/
def entryId? : Json → Option Json
  | .obj members => some (Json.member members "key_id")
  | _ => none

theorem isOf_eq_true_iff {entry : Json} : isOf active entry = true ↔
    ∃ own, active = some own ∧ entryId? entry = some (.str own.id) := by
  cases active with
  | none => simp [isOf]
  | some own =>
    cases entry with
    | obj members => simp [isOf, entryId?, Json.text?_eq_some_iff]
    | _ => simp [isOf, entryId?]

section

variable [Platform]

theorem entryId?_of_ofJson {entry : Json} {key : PublishedKey}
    (h : PublishedKey.ofJson entry = .ok key) : entryId? entry = some (.str key.id) := by
  obtain ⟨members, rfl, hid⟩ := PublishedKey.member_of_ofJson h
  exact congrArg some hid

/-- Entries give different identifiers when the keys that they are read as do. -/
theorem nodup_entryId?_iff (h : entries.mapM PublishedKey.ofJson = .ok keys) :
    (entries.map entryId?).Nodup ↔ (keys.map PublishedKey.id).Nodup := by
  have hids : entries.map entryId? = (keys.map PublishedKey.id).map fun id => some (.str id) := by
    rw [mapM_eq_ok_iff] at h
    induction h with
    | nil => rfl
    | cons hkey _ ih => rw [List.map_cons, ih, entryId?_of_ofJson hkey]; rfl
  have hinjective : Function.Injective fun id : String => some (Json.str id) :=
    fun a b hab => Json.str.inj (Option.some.inj hab)
  rw [hids, List.nodup_map_iff hinjective]

/-- Where the active key and the entries of the document are known, the registry takes keys for all
entries that count, under different identifiers. -/
theorem exists_keyRegistry_of_lists (hactive : installation.activeKey.value = .ok active)
    (hentries : installation.files.ListsKeys installation.settings.keysPath entries) :
    (∃ registry, installation.keyRegistry.value = .ok registry) ↔
      (∀ entry ∈ entries.filter fun entry => !isOf active entry,
        ∃ key, PublishedKey.ofJson entry = .ok key) ∧
      ((entries.filter fun entry => !isOf active entry).map entryId?).Nodup := by
  obtain ⟨document, hdocument, hlists⟩ :=
    (Files.listsKeys_iff installation.settings.isBlankText_keysPath).mp hentries
  rw [← exists_mapM_eq_ok_iff]
  constructor
  · rintro ⟨registry, hregistry⟩
    obtain ⟨_, others, hown, hothers, hkeys⟩ := keyRegistry_eq_ok_iff.mp hregistry
    obtain rfl := Except.ok.inj (hactive.symm.trans hown)
    obtain ⟨_, hagain, hlisted⟩ := otherKeys_eq_ok_iff.mp hothers
    obtain rfl := Except.ok.inj (hdocument.symm.trans hagain)
    obtain ⟨_, hsame, hread⟩ := listedKeys_eq_ok_iff.mp hlisted
    obtain rfl := Option.some.inj (hlists.symm.trans hsame)
    refine ⟨⟨others, hread⟩, ?_⟩
    rw [nodup_entryId?_iff hread, ← nodup_of_listedKeys hlisted, ← KeyRegistry.keys_of_ofKeys hkeys]
    exact registry.nodup
  · rintro ⟨⟨others, hread⟩, hdistinct⟩
    obtain ⟨registry, hregistry, -⟩ := exists_keyRegistry_of_listedKeys hactive hdocument
      (listedKeys_eq_ok_iff.mpr ⟨entries, hlists, hread⟩) ((nodup_entryId?_iff hread).mp hdistinct)
    exact ⟨registry, hregistry⟩

/-- Every registry that an installation publishes holds the active key, if there is one, and after
it the keys that the document lists, in its order and as they are read there; left out are only the
entries under the identifier of the active key. No two of the keys go by one identifier, each is
found under its own and nothing under any other. The windows have instants at their ends, and at an
instant those keys are given, in their order, whose window holds it. No registry is published where the active key fails, an entry that counts is
no key, or two that count give one identifier. -/
theorem keyRegistry_is_what_is_listed (installation : Installation) :
    (∀ registry, installation.keyRegistry.value = .ok registry →
      (registry.keys.map PublishedKey.id).Nodup ∧
      (∃ active others entries, installation.activeKey.value = .ok active ∧
        registry.keys = active.toList ++ others ∧
        installation.files.ListsKeys installation.settings.keysPath entries ∧
        List.Forall₂ (fun entry key => PublishedKey.ofJson entry = .ok key)
          (entries.filter fun entry => !isOf active entry) others) ∧
      (∀ id key, registry.find? id = some key ↔ key ∈ registry.keys ∧ key.id = id) ∧
      (∀ id, registry.find? id = none ↔ id ∉ registry.keys.map PublishedKey.id) ∧
      (∀ key ∈ registry.keys, key.HasInstants) ∧
      ∀ now t, now.instant? = some t →
        registry.validAt (some now) = .ok (registry.keys.filter (·.isInUse t))) ∧
    (∀ failure, installation.activeKey.value = .error failure →
      installation.keyRegistry.value = .error failure) ∧
    (∀ active entries, installation.activeKey.value = .ok active →
      installation.files.ListsKeys installation.settings.keysPath entries →
      ((∃ registry, installation.keyRegistry.value = .ok registry) ↔
        (∀ entry ∈ entries.filter fun entry => !isOf active entry,
          ∃ key, PublishedKey.ofJson entry = .ok key) ∧
        ((entries.filter fun entry => !isOf active entry).map entryId?).Nodup)) ∧
    ∀ active entry, isOf active entry = true ↔
      ∃ own, active = some own ∧ entryId? entry = some (.str own.id) := by
  refine ⟨fun registry hregistry => ?_, fun failure hfailure => ?_, ?_, fun _ _ => isOf_eq_true_iff⟩
  · obtain ⟨active, others, hactive, hothers, hkeys⟩ := keyRegistry_eq_ok_iff.mp hregistry
    obtain ⟨document, hdocument, hlisted⟩ := otherKeys_eq_ok_iff.mp hothers
    obtain ⟨entries, hentries, hread⟩ := listedKeys_eq_ok_iff.mp hlisted
    have hlists := (Files.listsKeys_iff installation.settings.isBlankText_keysPath).mpr
      ⟨document, hdocument, hentries⟩
    have hwindows : ∀ key ∈ registry.keys, key.HasInstants := by
      intro key hkey
      obtain ⟨_, _, _, _, hbounds⟩ := exists_ofBounds_of_mem hregistry hkey
      exact PublishedKey.hasInstants_of_ofBounds hbounds
    refine ⟨registry.nodup, ⟨active, others, entries, hactive, KeyRegistry.keys_of_ofKeys hkeys,
      hlists, mapM_eq_ok_iff.mp hread⟩, ?_, ?_, hwindows, ?_⟩
    · exact fun _ _ => KeyRegistry.find?_eq_some_iff
    · exact fun _ => KeyRegistry.find?_eq_none_iff
    · exact fun _ _ hnow => KeyRegistry.validAt_eq_filter hwindows hnow
  · unfold keyRegistry
    rw [Logged.value_bind, hfailure]
    rfl
  · exact fun _ _ => exists_keyRegistry_of_lists

end

/-- A document that lists the key of last year, and gives of the active one no more than its
identifier. -/
def lastYearListed : String :=
  "[\x7b\"key_id\":\"key_2026\"\x7d," ++
  "\x7b\"key_id\":\"key_2025\",\"public_key\":\"01\"," ++
  "\"valid_from\":\"2025-01-01\",\"valid_until\":\"2026-01-01\"\x7d]"

def rotating : Installation :=
  { sample "key_2026" (some "00") with
    files := ⟨[], [(["config", "keys.json"], .file (Text.Utf8.encode lastYearListed))]⟩ }

/-- Midnight UTC at the beginning of 2026. -/
def newYear : Timestamp := .utc ⟨1767225600000000, by decide, by decide⟩

theorem keyRegistry_of_rotating :
    (∃ registry active entries, rotating.keyRegistry.value = .ok registry ∧
      rotating.activeKey.value = .ok active ∧
      rotating.files.ListsKeys rotating.settings.keysPath entries ∧
      ((entries.filter fun entry => !isOf active entry).map entryId?).Nodup ∧
      registry.find? "key_2024" = none ∧
      newYear.instant? = some ⟨1767225600000000⟩ ∧
      ∃ keys, registry.validAt (some newYear) = .ok keys ∧
        keys.map PublishedKey.id = ["key_2026"]) ∧
    ∃ failure, (sample " " (some "00")).activeKey.value = .error failure ∧
      (sample " " (some "00")).keyRegistry.value = .error failure := by
  have hrun : rotating.keyRegistry.value.toOption.map (fun registry =>
      (registry.keys.map PublishedKey.id,
        (registry.keys.filter (·.isInUse ⟨1767225600000000⟩)).map PublishedKey.id)) =
      some (["key_2026", "key_2025"], ["key_2026"]) := by decide +kernel
  obtain ⟨registry, hregistry, hids⟩ := Option.map_eq_some_iff.mp hrun
  rw [toOption_eq_some_iff] at hregistry
  obtain ⟨hall, hused⟩ := Prod.mk.inj hids
  obtain ⟨hpublished, -, hexists, -⟩ := keyRegistry_is_what_is_listed rotating
  obtain ⟨-, ⟨active, others, entries, hactive, -, hlists, -⟩, -, hnone, -, hvalid⟩ :=
    hpublished registry hregistry
  obtain ⟨-, hdistinct⟩ := (hexists active entries hactive hlists).mp ⟨registry, hregistry⟩
  have hblank : (sample " " (some "00")).activeKey.value.toOption.isSome = false := by
    decide +kernel
  refine ⟨⟨registry, active, entries, hregistry, hactive, hlists, hdistinct, ?_, rfl, _,
    hvalid newYear _ rfl, hused⟩, ?_⟩
  · rw [hnone, hall]
    decide
  · cases hfailure : (sample " " (some "00")).activeKey.value with
    | ok active =>
      rw [hfailure] at hblank
      cases hblank
    | error failure =>
      exact ⟨failure, rfl, (keyRegistry_is_what_is_listed _).2.1 failure hfailure⟩

end Installation

end TradingStatus
