import TradingStatus.Proofs.Signing.Pem
import TradingStatus.Signing.PrivateKey

/-! Documents of private keys. The document of a seed is read back, as bytes and between marked
lines. -/

namespace TradingStatus

namespace Der

variable {tag : UInt8} {contents : List UInt8}

theorem length_encodeShort (tag : UInt8) (contents : List UInt8) :
    (encodeShort tag contents).length = contents.length + 2 := rfl

theorem element?_encodeShort_self (tag : UInt8) (h : contents.length < 128) :
    element? tag (encodeShort tag contents) = some (contents, []) := by
  rw [← List.append_nil (encodeShort tag contents), element?_encodeShort tag [] h]

theorem only?_encodeShort (tag : UInt8) (h : contents.length < 128) :
    only? tag (encodeShort tag contents) = some contents := by
  rw [only?, element?_encodeShort_self tag h]

end Der

namespace PrivateKey

variable {seed bytes : List UInt8} {key : PrivateKey} {cs : List Char}

/-- The document of a seed ends with the seed, and what stands before it is always the same. -/
theorem toDer_eq (h : seed.length = 32) :
    toDer seed = [0x30, 0x2e, 0x02, 0x01, 0x00, 0x30, 0x05, 0x06, 0x03, 0x2b, 0x65, 0x70,
      0x04, 0x22, 0x04, 0x20] ++ seed := by
  simp [toDer, Der.encodeShort, Der.integerTag, Der.sequenceTag, Der.nameTag, Der.octetsTag,
    ed25519Name, h]

theorem length_toDer (h : seed.length = 32) : (toDer seed).length = 48 := by
  rw [toDer_eq h, List.length_append, h]
  rfl

theorem ofAlgorithm?_ed25519 (h : seed.length = 32) :
    ofAlgorithm? ed25519Name [] (Der.encodeShort Der.octetsTag seed) = some (.ed25519 seed) := by
  have hplain : plain? 32 (Der.encodeShort Der.octetsTag seed) = some seed := by
    rw [plain?, Der.only?_encodeShort _ (by omega)]
    exact if_pos h
  rw [ofAlgorithm?, if_pos rfl, hplain]
  rfl

/-- The document of a seed is read back. -/
theorem ofStated?_toDer (h : seed.length = 32) : ofStated? (toDer seed) = some (.ed25519 seed) := by
  have hkey : (Der.encodeShort Der.octetsTag seed).length = 34 := by
    rw [Der.length_encodeShort, h]
  have hlength : (Der.encodeShort Der.integerTag [0] ++
      (Der.encodeShort Der.sequenceTag (Der.encodeShort Der.nameTag ed25519Name) ++
        Der.encodeShort Der.octetsTag (Der.encodeShort Der.octetsTag seed))).length < 128 := by
    simp [Der.length_encodeShort, ed25519Name, hkey]
  rw [ofStated?, toDer, List.append_assoc]
  refine Option.bind_eq_some_iff.mpr ⟨_, Der.only?_encodeShort _ hlength, ?_⟩
  -- The parts are read one after another, and there are no attributes behind them.
  refine Option.bind_eq_some_iff.mpr ⟨_, Der.element?_encodeShort _ _ (by decide), ?_⟩
  refine Option.bind_eq_some_iff.mpr ⟨_, Der.element?_encodeShort _ _ (by decide), ?_⟩
  refine Option.bind_eq_some_iff.mpr ⟨_, Der.element?_encodeShort_self _ (by omega), ?_⟩
  refine Option.bind_eq_some_iff.mpr ⟨_, rfl, ?_⟩
  refine Option.bind_eq_some_iff.mpr ⟨(), rfl, ?_⟩
  refine Option.bind_eq_some_iff.mpr ⟨_, Der.element?_encodeShort_self _ (by decide), ?_⟩
  exact ofAlgorithm?_ed25519 h

theorem ofDer?_of_ofStated? (h : ofStated? bytes = some key) : ofDer? bytes = some key := by
  rw [ofDer?, h]

/-- The key of a document in the lines of its text is the one of its bytes. -/
theorem ofPem?_of_writes (h : Pem.Writes "PRIVATE KEY" bytes cs) : ofPem? cs = ofStated? bytes := by
  have hdocuments : Pem.documents? cs = some [⟨"PRIVATE KEY", [], bytes⟩] :=
    Pem.documents?_of_writes (by decide) (by decide) h
  unfold ofPem?
  rw [hdocuments]
  rfl

end PrivateKey

end TradingStatus
