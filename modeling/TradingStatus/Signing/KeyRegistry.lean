import TradingStatus.Signing.PublishedKey

/-! Key registries: the published keys in order, no two of them under one identifier. -/

namespace TradingStatus

/-- Published keys, no two of them under one identifier. -/
structure KeyRegistry where
  keys : List PublishedKey
  nodup : (keys.map PublishedKey.id).Nodup

namespace KeyRegistry

/-- The registry of some keys; the second of two under one identifier is refused. -/
def ofKeys (keys : List PublishedKey) : Except Failure KeyRegistry :=
  go [] .nil keys
where
  /-- The registry of some keys, the last one first, and others. -/
  go (found : List PublishedKey) (nodup : (found.map PublishedKey.id).Nodup) :
      List PublishedKey → Except Failure KeyRegistry
    | [] => .ok ⟨found.reverse, by
        rw [List.map_reverse]
        exact List.pairwise_reverse.mpr (nodup.imp Ne.symm)⟩
    | key :: rest =>
      if h : key.id ∈ found.map PublishedKey.id then .error (.keyRepeated key.id)
      else go (key :: found) (List.nodup_cons.mpr ⟨h, nodup⟩) rest

/-- The key under an identifier. -/
def find? (registry : KeyRegistry) (id : String) : Option PublishedKey :=
  registry.keys.find? fun key => key.id == id

/-- The keys in use at what a clock shows. -/
def validAt (registry : KeyRegistry) (clock : Option Timestamp) :
    Except Failure (List PublishedKey) :=
  registry.keys.filterMapM fun key => return if ← key.isValidAt clock then some key else none

/-- How the text that is signed is made, for those who verify. -/
def payloadRules : Json :=
  .obj [
    ("algorithm", .str "Ed25519"),
    ("encoding", .str "UTF-8"),
    ("serialization", .str "JSON object of every receipt field except 'signature'"),
    ("key_order", .str "lexicographic"),
    ("separators", .arr [.str ",", .str ":"]),
    ("whitespace", .str "none"),
    ("signature_format", .str "hex")]

def toJson (registry : KeyRegistry) : Except Failure Json :=
  return .obj [
    ("keys", .arr (← registry.keys.mapM PublishedKey.toJson)),
    ("canonical_payload_spec", payloadRules)]

/-- A registry is made of exactly the keys that are given, in their order. -/
theorem keys_of_go {found keys : List PublishedKey} {nodup : (found.map PublishedKey.id).Nodup}
    {registry : KeyRegistry} (h : ofKeys.go found nodup keys = .ok registry) :
    registry.keys = found.reverse ++ keys := by
  induction keys generalizing found with
  | nil => simp only [ofKeys.go, Except.ok.injEq] at h; simp [← h]
  | cons key rest ih =>
    unfold ofKeys.go at h
    split at h
    · simp at h
    · simp [ih h]

theorem keys_of_ofKeys {keys : List PublishedKey} {registry : KeyRegistry}
    (h : ofKeys keys = .ok registry) : registry.keys = keys := by
  simpa using keys_of_go h

end KeyRegistry

end TradingStatus
