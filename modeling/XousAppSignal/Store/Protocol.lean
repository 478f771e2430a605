import XousAppSignal.Store.Backend
import XousAppSignal.Uuid

/-! What the protocol stores share: the ACI/PNI discriminator and the dictionary names
routed through it, addresses, and the error shape libsignal expects.
-/

namespace XousAppSignal.Store

/-- ACI vs PNI: the two protocol stores share their schema, only the dictionaries differ. -/
inductive IdentityType where
  | aci
  | pni
  deriving DecidableEq, Repr

def IdentityType.asStr : IdentityType → String
  | .aci => "aci"
  | .pni => "pni"

def dictSession (identity : IdentityType) : String :=
  "signal.protocol." ++ identity.asStr ++ ".session"

def dictIdentity (identity : IdentityType) : String :=
  "signal.protocol." ++ identity.asStr ++ ".identity"

def dictPrekeyBundle (identity : IdentityType) : String :=
  "signal.protocol." ++ identity.asStr ++ ".prekey_bundle"

def dictSignedPrekey (identity : IdentityType) : String :=
  "signal.protocol." ++ identity.asStr ++ ".signed_prekey"

def dictKyberPrekey (identity : IdentityType) : String :=
  "signal.protocol." ++ identity.asStr ++ ".kyber_prekey"

def dictKyberMeta (identity : IdentityType) : String :=
  "signal.protocol." ++ identity.asStr ++ ".kyber_meta"

def dictSenderKey (identity : IdentityType) : String :=
  "signal.protocol." ++ identity.asStr ++ ".sender_key"

/-- No two identities share their session dictionary. -/
theorem dictSession_injective {left right : IdentityType}
    (same : dictSession left = dictSession right)
    : left = right := by
  revert same
  cases left <;> cases right <;> decide

/-- A libsignal device id: `DeviceId::try_from` accepts 1 to 127. -/
structure DeviceId where
  id : UInt32
  valid : 1 ≤ id.toNat ∧ id.toNat ≤ 127
  deriving DecidableEq

def DeviceId.tryFrom (id : UInt32) : Option DeviceId :=
  if valid : 1 ≤ id.toNat ∧ id.toNat ≤ 127 then some ⟨id, valid⟩ else none

/-- The primary device of an account. -/
def defaultDeviceId : DeviceId := ⟨1, by decide⟩

structure ProtocolAddress where
  name : String
  deviceId : DeviceId
  deriving DecidableEq

inductive ServiceId where
  | aci (uuid : Uuid)
  | pni (uuid : Uuid)
  deriving DecidableEq

def ServiceId.rawUuid : ServiceId → Uuid
  | .aci uuid => uuid
  | .pni uuid => uuid

/-- The name of the addresses of a service id. -/
def ServiceId.serviceIdString : ServiceId → String
  | .aci uuid => uuid.toString
  | .pni uuid => "PNI:" ++ uuid.toString

inductive CiphertextMessageType where
  | whisper
  | preKey
  | senderKey
  | plaintext
  deriving DecidableEq, Repr

/-- The protocol errors a store returns itself, or a libsignal error forwarded unchanged. -/
inductive SignalProtocolError where
  | invalidState (context : String) (message : String)
  | invalidMessage (type : CiphertextMessageType) (message : String)
  | invalidPreKeyId
  | invalidSignedPreKeyId
  | invalidKyberPreKeyId
  | libsignal (message : String)
  deriving DecidableEq, Repr

def protocolBackendErr (e : Error) : SignalProtocolError :=
  .invalidState "kv backend" e.display

/-- One call of a protocol-store method on the store it shares. -/
abbrev ProtocolCall (σ α : Type) := σ → Except SignalProtocolError α × σ

/-- `serde_json` at one type; errors are rendered. -/
structure JsonCodec (τ : Type) where
  toVec : τ → Except String Bytes
  fromSlice : Bytes → Except String τ

/-- Reading back what was written. -/
def JsonCodec.RoundTrip {τ : Type} (codec : JsonCodec τ) : Prop :=
  ∀ {value bytes}, codec.toVec value = .ok bytes → codec.fromSlice bytes = .ok value

variable {β τ : Type} [KvBackend β]

def backendGetJsonProtocol (codec : JsonCodec τ) (dict key decodeContext : String)
    : ProtocolCall β (Option τ) := fun backend =>
  match KvBackend.get dict key backend with
  | (.error e, backend) => (.error (protocolBackendErr e), backend)
  | (.ok none, backend) => (.ok none, backend)
  | (.ok (some bytes), backend) =>
      ((codec.fromSlice bytes).map some |>.mapError (.invalidState decodeContext), backend)

def backendPutJsonProtocol (codec : JsonCodec τ) (dict key encodeContext : String)
    (value : τ)
    : ProtocolCall β Unit := fun backend =>
  match codec.toVec value with
  | .error message => (.error (.invalidState encodeContext message), backend)
  | .ok bytes =>
      match KvBackend.put dict key bytes backend with
      | (.error e, backend) => (.error (protocolBackendErr e), backend)
      | (.ok (), backend) => (.ok (), backend)

/-- A delete whose error is reported to libsignal. -/
def backendDeleteProtocol (dict key : String) : ProtocolCall β Unit := fun backend =>
  match KvBackend.delete dict key backend with
  | (.error e, backend) => (.error (protocolBackendErr e), backend)
  | (.ok (), backend) => (.ok (), backend)

end XousAppSignal.Store
