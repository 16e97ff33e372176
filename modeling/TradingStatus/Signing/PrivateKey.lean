import TradingStatus.Signing.ForeignKey
import TradingStatus.Signing.Pem

/-! Private keys as documents: the DER of a private key with its algorithm, and the same in base 64
between two marked lines. Keys of other kinds are told from documents that are no keys. -/

namespace TradingStatus

/-- A private key that was read: the seed of one that signs here, or one of another kind. -/
inductive PrivateKey
  | ed25519 (seed : List UInt8)
  | foreign
deriving DecidableEq

namespace PrivateKey

/-- The algorithms, by the contents of their names. -/
def ed25519Name : List UInt8 := [0x2b, 0x65, 0x70]
def x25519Name : List UInt8 := [0x2b, 0x65, 0x6e]
def ed448Name : List UInt8 := [0x2b, 0x65, 0x71]
def x448Name : List UInt8 := [0x2b, 0x65, 0x6f]
def ellipticName : List UInt8 := [0x2a, 0x86, 0x48, 0xce, 0x3d, 0x02, 0x01]
def rsaName : List UInt8 := [0x2a, 0x86, 0x48, 0x86, 0xf7, 0x0d, 0x01, 0x01, 0x01]
def dsaName : List UInt8 := [0x2a, 0x86, 0x48, 0xce, 0x38, 0x04, 0x01]

/-- The element that stands for parameters where there are none. -/
def noParameters : List UInt8 := [0x05, 0x00]

/-- The algorithms whose keys are any bytes of a length, with that length. -/
def plainLengths : List (List UInt8 × Nat) := [(x25519Name, 32), (ed448Name, 57), (x448Name, 56)]

/-- A key that is an element of its own with a number of bytes. -/
def plain? (length : Nat) (key : List UInt8) : Option (List UInt8) :=
  match Der.only? Der.octetsTag key with
  | some bytes => if bytes.length = length then some bytes else none
  | none => none

/-- A key of another algorithm is whole. -/
def isForeign (name parameters key : List UInt8) : Bool :=
  if name = ellipticName then
    match Der.only? Der.nameTag parameters with
    | some curve => ForeignKey.isEllipticKey (some curve) key
    | none => false
  else if name = rsaName then
    (parameters.isEmpty || parameters == noParameters) && ForeignKey.isRsaKey key
  else if name = dsaName then ForeignKey.isDsaNumber parameters key
  else
    match plainLengths.lookup name with
    | some length => parameters.isEmpty && (plain? length key).isSome
    | none => false

/-- The key of an algorithm with its parameters. -/
def ofAlgorithm? (name parameters key : List UInt8) : Option PrivateKey :=
  if name = ed25519Name then
    if parameters.isEmpty then (plain? 32 key).map .ed25519 else none
  else if isForeign name parameters key then some .foreign
  else none

/-- An attribute of a key: a name with a set of values. -/
def isAttribute (element : List UInt8) : Bool :=
  match (Der.only? Der.sequenceTag element).bind (Der.element? Der.nameTag) with
  | some (name, rest) =>
    Der.isName name && ((Der.only? Der.setTag rest).bind Der.set?).isSome
  | none => false

/-- A set of attributes. -/
def areAttributes (contents : List UInt8) : Bool :=
  match Der.set? contents with
  | some attributes => attributes.all isAttribute
  | none => false

/-- The key of a document that states the algorithm. -/
def ofStated? (bytes : List UInt8) : Option PrivateKey := do
  let body ← Der.only? Der.sequenceTag bytes
  let (version, rest) ← Der.element? Der.integerTag body
  let (algorithm, rest) ← Der.element? Der.sequenceTag rest
  let (key, rest) ← Der.element? Der.octetsTag rest
  let (attributes, rest) ← Der.optional (Der.partTag 0) rest
  guard (version == [0] && rest.isEmpty && attributes.all areAttributes)
  let (name, parameters) ← Der.element? Der.nameTag algorithm
  ofAlgorithm? name parameters key

/-- The key of a document in DER. Keys of other kinds may come in forms of their own. -/
def ofDer? (bytes : List UInt8) : Option PrivateKey :=
  match ofStated? bytes with
  | some key => some key
  | none =>
    if ForeignKey.isEllipticKey none bytes || ForeignKey.isRsaKey bytes || ForeignKey.isDsaKey bytes
    then some .foreign
    else none

/-- The labels of documents that hold private keys. -/
inductive Label
  | stated
  | encrypted
  | elliptic
  | rsa
  | dsa
deriving DecidableEq

/-- The label with a name. -/
def Label.ofName? : String → Option Label
  | "PRIVATE KEY" => some .stated
  | "ENCRYPTED PRIVATE KEY" => some .encrypted
  | "EC PRIVATE KEY" => some .elliptic
  | "RSA PRIVATE KEY" => some .rsa
  | "DSA PRIVATE KEY" => some .dsa
  | _ => none

/-- The key of a document's bytes under a label. What is encrypted cannot be read. -/
def ofLabelled? (bytes : List UInt8) : Label → Option PrivateKey
  | .stated => ofStated? bytes
  | .encrypted => none
  | .elliptic => if ForeignKey.isEllipticKey none bytes then some .foreign else none
  | .rsa => if ForeignKey.isRsaKey bytes then some .foreign else none
  | .dsa => if ForeignKey.isDsaKey bytes then some .foreign else none

/-- The property of a document that says how it was processed. -/
def processing : String := "Proc-Type"

/-- The key of the first document of a text that holds a private key, provided that nothing was done to
it. -/
def ofPem? (cs : List Char) : Option PrivateKey := do
  let documents ← Pem.documents? cs
  let document ← documents.find? fun document => (Label.ofName? document.label).isSome
  let label ← Label.ofName? document.label
  guard (document.properties.all fun property => property.1 != processing)
  ofLabelled? document.bytes label

/-- The document of a seed in DER. -/
def toDer (seed : List UInt8) : List UInt8 :=
  Der.encodeShort Der.sequenceTag
    (Der.encodeShort Der.integerTag [0] ++
      Der.encodeShort Der.sequenceTag (Der.encodeShort Der.nameTag ed25519Name) ++
      Der.encodeShort Der.octetsTag (Der.encodeShort Der.octetsTag seed))

/-- The lines of the document of a seed in base 64. -/
def toPemLines (seed : List UInt8) : List (List Char) := Pem.encode "PRIVATE KEY" (toDer seed)

end PrivateKey

end TradingStatus
