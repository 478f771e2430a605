import XousAppSignal.Store.KyberPreKeyStore
import XousAppSignal.Text

/-! The types of presage and libsignal that the store keeps, with the serializers it calls
for them. They are parameters: nothing is assumed about them but their signatures.
-/

namespace XousAppSignal.Store

/-- A binary form that libsignal defines for a record, and that may fail both ways. -/
structure RecordCodec (τ : Type) where
  serialize : τ → Except SignalProtocolError Bytes
  deserialize : Bytes → Except SignalProtocolError τ

/-- A binary form that libsignal defines for a key. -/
structure KeyCodec (τ : Type) where
  serialize : τ → Bytes
  decode : Bytes → Except SignalProtocolError τ

abbrev ProfileKey := Vector UInt8 32

abbrev GroupMasterKeyBytes := Vector UInt8 32

inductive Thread where
  | contact (serviceId : ServiceId)
  | group (masterKey : GroupMasterKeyBytes)
  deriving DecidableEq

/-- The envelope data of a message. -/
structure Metadata where
  sender : ServiceId
  destination : ServiceId
  senderDevice : DeviceId
  serverGuid : Option Uuid
  timestamp : UInt64
  needsReceipt : Bool
  unidentifiedSender : Bool
  wasPlaintext : Bool

structure MessageContent (body : Type) where
  metadata : Metadata
  body : body

/-- The on-disk wrapper of a single message. -/
structure StoredMessage where
  sender : String
  destination : String
  senderDevice : UInt32
  serverGuid : Option String
  timestamp : UInt64
  needsReceipt : Bool
  unidentifiedSender : Bool
  wasPlaintext : Bool
  bodyProto : Bytes

/-- What the store uses of presage, libsignal, `uuid` and `sha2`. Errors of the JSON and
protobuf layers, of a certificate and of a device id are rendered.
-/
structure Presage where
  RegistrationData : Type
  registrationData : JsonCodec RegistrationData
  registrationId : RegistrationData → UInt32
  IdentityKeyPair : Type
  identityKeyPair : KeyCodec IdentityKeyPair
  SenderCertificate : Type
  certificateSerialized : SenderCertificate → Except String Bytes
  certificateDeserialize : Bytes → Except String SenderCertificate
  MasterKey : Type
  masterKeyInner : MasterKey → Bytes
  masterKeyFromSlice : Bytes → Except String MasterKey
  Contact : Type
  contact : JsonCodec Contact
  contactUuid : Contact → Uuid
  Group : Type
  group : JsonCodec Group
  Profile : Type
  profile : JsonCodec Profile
  profileKey : JsonCodec ProfileKey
  StickerPack : Type
  stickerPack : JsonCodec StickerPack
  stickerPackId : StickerPack → Bytes
  ContentBody : Type
  Proto : Type
  encodeBody : ContentBody → Bytes
  decodeProto : Bytes → Except String Proto
  fromProto : Proto → Metadata → Except String (MessageContent ContentBody)
  storedMessage : JsonCodec StoredMessage
  parseServiceId : String → Option ServiceId
  parseUuid : String → Option Uuid
  deviceIdError : UInt32 → String
  sha256 : Bytes → Vector UInt8 32
  IdentityKey : Type
  identityKey : KeyCodec IdentityKey
  identityKeyEq : DecidableEq IdentityKey
  PreKeyRecord : Type
  preKeyRecord : RecordCodec PreKeyRecord
  preKeyBundle : JsonCodec (List (UInt32 × Bytes))
  SignedPreKeyRecord : Type
  signedPreKeyRecord : RecordCodec SignedPreKeyRecord
  KyberPreKeyRecord : Type
  kyber : KyberFormat KyberPreKeyRecord
  SenderKeyRecord : Type
  senderKeyRecord : RecordCodec SenderKeyRecord

instance (presage : Presage) : DecidableEq presage.IdentityKey := presage.identityKeyEq

/-- Values that are their own bytes, to run the store on. -/
def JsonCodec.raw : JsonCodec Bytes := ⟨.ok, .ok⟩

def KeyCodec.raw : KeyCodec Bytes := ⟨id, .ok⟩

def RecordCodec.raw : RecordCodec Bytes := ⟨.ok, .ok⟩

/-- Every record is its own bytes; a contact is named by its first byte, and a message is
reduced to its body.
-/
def Presage.plain : Presage where
  RegistrationData := Bytes
  registrationData := .raw
  registrationId _ := 1
  IdentityKeyPair := Bytes
  identityKeyPair := .raw
  SenderCertificate := Bytes
  certificateSerialized := .ok
  certificateDeserialize := .ok
  MasterKey := Bytes
  masterKeyInner := id
  masterKeyFromSlice := .ok
  Contact := Bytes
  contact := .raw
  contactUuid bytes := ⟨BitVec.ofNat 128 (bytes.headD 0).toNat⟩
  Group := Bytes
  group := .raw
  Profile := Bytes
  profile := .raw
  profileKey := ⟨fun key => .ok key.toList, fun _ => .error "invalid length"⟩
  StickerPack := Bytes
  stickerPack := .raw
  stickerPackId := id
  ContentBody := Bytes
  Proto := Bytes
  encodeBody := id
  decodeProto := .ok
  fromProto body metadata := .ok { metadata, body }
  storedMessage := ⟨fun stored => .ok stored.bodyProto, fun _ => .error "missing field"⟩
  parseServiceId _ := none
  parseUuid _ := none
  deviceIdError _ := "invalid device id"
  sha256 bytes := .replicate 32 (bytes.headD 0)
  IdentityKey := Bytes
  identityKey := .raw
  identityKeyEq := inferInstanceAs (DecidableEq Bytes)
  PreKeyRecord := Bytes
  preKeyRecord := .raw
  preKeyBundle := ⟨fun _ => .ok [], fun _ => .ok []⟩
  SignedPreKeyRecord := Bytes
  signedPreKeyRecord := .raw
  KyberPreKeyRecord := Bytes
  kyber := .flagged
  SenderKeyRecord := Bytes
  senderKeyRecord := .raw

variable {β τ : Type} [KvBackend β]

def backendGetJson (codec : JsonCodec τ) (dict key : String) : Call β (Option τ) :=
  Attempt.andThen (KvBackend.get dict key) (fun
    | some bytes => Attempt.lift ((codec.fromSlice bytes).map some |>.mapError .decode)
    | none => Attempt.lift (.ok none))

/-- Like `backendGetJson`, with an error for a missing key. -/
def backendGetJsonRequired (codec : JsonCodec τ) (dict key missingMsg : String) : Call β τ :=
  Attempt.andThen (KvBackend.get dict key) (fun
    | some bytes => Attempt.lift ((codec.fromSlice bytes).mapError .decode)
    | none => Attempt.lift (.error (.backend missingMsg)))

def backendPutJson (codec : JsonCodec τ) (dict key : String) (value : τ) : Call β Unit :=
  Attempt.andThen (Attempt.lift ((codec.toVec value).mapError .encode))
    (KvBackend.put dict key)

/-- The keys of a dictionary that parse as `u32`; the others are dropped silently. -/
def listKeysAsU32s (dict : String) : Call β (List UInt32) :=
  Attempt.map (List.filterMap (fun key => (fromStrRadix 32 10 key).map UInt32.ofNat))
    (KvBackend.listKeys dict)

end XousAppSignal.Store
