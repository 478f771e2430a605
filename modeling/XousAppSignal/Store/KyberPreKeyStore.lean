import XousAppSignal.Store.Protocol

/-! The Kyber pre-keys: JSON envelopes `{record, is_last_resort}` by id, and the dedup table
of last-resort keys, one base key per (Kyber id, EC id) pair.
-/

namespace XousAppSignal.Store

/-- A Curve25519 public key; its serialized form has a leading type byte. -/
structure PublicKey where
  bytes : Vector UInt8 32
  deriving DecidableEq

def PublicKey.serialize (key : PublicKey) : Bytes := 0x05 :: key.bytes.toList

theorem PublicKey.serialize_injective {left right : PublicKey}
    (same : left.serialize = right.serialize)
    : left = right := by
  obtain ⟨left⟩ := left
  obtain ⟨right⟩ := right
  simp only [serialize, List.cons.injEq, true_and] at same
  exact congrArg PublicKey.mk (Vector.toList_inj.mp same)

/-- The stored envelope of a Kyber pre-key. -/
structure KyberStored where
  record : Bytes
  isLastResort : Bool
  deriving DecidableEq

/-- libsignal's binary form of a Kyber record, and the envelope's JSON form. -/
structure KyberFormat (κ : Type) where
  serialize : κ → Except SignalProtocolError Bytes
  deserialize : Bytes → Except SignalProtocolError κ
  envelope : JsonCodec KyberStored

/-- Records that are their own bytes, in an envelope led by its flag, to run the store on. -/
def KyberFormat.flagged : KyberFormat Bytes where
  serialize := .ok
  deserialize := .ok
  envelope :=
    { toVec := fun stored => .ok ((if stored.isLastResort then 1 else 0) :: stored.record)
      fromSlice := fun
        | flag :: record => .ok { record, isLastResort := flag = 1 }
        | [] => .error "EOF while parsing a value at line 1 column 0" }

theorem KyberFormat.flagged_roundTrip : KyberFormat.flagged.envelope.RoundTrip := by
  rintro ⟨record, isLastResort⟩ bytes written
  cases written
  cases isLastResort <;> rfl

namespace Kyber

variable {κ β : Type} [KvBackend β] (format : KyberFormat κ)

/-- The key of a Kyber pre-key's envelope. -/
def envelopeKey (id : UInt32) : String := id.toNat.repr

/-- The key of a pair in the dedup table. -/
def metaKey (kyberPrekeyId ecPrekeyId : UInt32) : String :=
  kyberPrekeyId.toNat.repr ++ "." ++ ecPrekeyId.toNat.repr

def storeEnvelope (identity : IdentityType) (id : UInt32) (record : κ) (isLastResort : Bool)
    : ProtocolCall β Unit := fun backend =>
  match format.serialize record with
  | .error e => (.error e, backend)
  | .ok bytes =>
      backendPutJsonProtocol format.envelope (dictKyberPrekey identity) (envelopeKey id)
        "encode kyber envelope" { record := bytes, isLastResort } backend

def loadEnvelope (identity : IdentityType) (id : UInt32) : ProtocolCall β (Option KyberStored) :=
  backendGetJsonProtocol format.envelope (dictKyberPrekey identity) (envelopeKey id)
    "decode kyber envelope"

def getKyberPreKey (identity : IdentityType) (id : UInt32) : ProtocolCall β κ := fun backend =>
  match loadEnvelope format identity id backend with
  | (.error e, backend) => (.error e, backend)
  | (.ok none, backend) => (.error .invalidKyberPreKeyId, backend)
  | (.ok (some envelope), backend) => (format.deserialize envelope.record, backend)

def saveKyberPreKey (identity : IdentityType) (id : UInt32) (record : κ) : ProtocolCall β Unit :=
  storeEnvelope format identity id record false

def storeLastResortKyberPreKey (identity : IdentityType) (id : UInt32) (record : κ)
    : ProtocolCall β Unit :=
  storeEnvelope format identity id record true

def removeKyberPreKey (identity : IdentityType) (id : UInt32) : ProtocolCall β Unit :=
  backendDeleteProtocol (dictKyberPrekey identity) (envelopeKey id)

/-- The error of a replayed last-resort key. -/
def reusedBaseKey : SignalProtocolError := .invalidMessage .preKey "reused base key"

/-- A one-time key is deleted. A last-resort key stays, and the base key replaces the one
the dedup table holds for the pair, unless it is the same one.
-/
def markKyberPreKeyUsed (identity : IdentityType) (kyberPrekeyId ecPrekeyId : UInt32)
    (baseKey : PublicKey)
    : ProtocolCall β Unit := fun backend =>
  match loadEnvelope format identity kyberPrekeyId backend with
  | (.error e, backend) => (.error e, backend)
  | (.ok none, backend) => (.error .invalidKyberPreKeyId, backend)
  | (.ok (some envelope), backend) =>
      if envelope.isLastResort then
        let dict := dictKyberMeta identity
        let key := metaKey kyberPrekeyId ecPrekeyId
        let newBaseBytes := baseKey.serialize
        match KvBackend.get dict key backend with
        | (.error e, backend) => (.error (protocolBackendErr e), backend)
        | (.ok prior, backend) =>
            if prior = some newBaseBytes then (.error reusedBaseKey, backend)
            else
              match KvBackend.put dict key newBaseBytes backend with
              | (.error e, backend) => (.error (protocolBackendErr e), backend)
              | (.ok (), backend) => (.ok (), backend)
      else backendDeleteProtocol (dictKyberPrekey identity) (envelopeKey kyberPrekeyId) backend

end Kyber

end XousAppSignal.Store
