import XousAppSignal.Store.StateStore

/-! The protocol stores besides sessions: identities, one-time pre-keys in one packed value,
signed pre-keys, the queries over Kyber pre-keys, sender keys, and the id counters.
-/

namespace XousAppSignal.Store.Records

variable {β : Type} [KvBackend β] (presage : Presage) (identity : IdentityType)

/-- A backend call whose error is reported to libsignal. -/
def onProtocol {α : Type} (call : Call β α) : ProtocolCall β α :=
  Attempt.mapError protocolBackendErr call

-----------------------------------------------------------------------------------------
-- Identities
-----------------------------------------------------------------------------------------

def stateKeyIdentityKeyPair : IdentityType → String
  | .aci => State.keyAciIdentityKeyPair
  | .pni => State.keyPniIdentityKeyPair

def identityKey (address : ProtocolAddress) : String :=
  address.name ++ "." ++ address.deviceId.id.toNat.repr

def getIdentityKeyPair : ProtocolCall β presage.IdentityKeyPair :=
  let key := stateKeyIdentityKeyPair identity
  Attempt.andThen (onProtocol (KvBackend.get dictState key)) (fun
    | some bytes => Attempt.lift (presage.identityKeyPair.decode bytes)
    | none =>
        Attempt.lift (.error (.invalidState "get_identity_key_pair"
          ("no " ++ key ++ " stored"))))

def getLocalRegistrationId : ProtocolCall β UInt32 :=
  Attempt.andThen
    (Attempt.mapError (fun e : Error => .invalidState "get_local_registration_id" e.display)
      (State.loadRegistrationData presage))
    (fun
      | some data => Attempt.lift (.ok (presage.registrationId data))
      | none =>
          Attempt.lift (.error (.invalidState "get_local_registration_id"
            "no registration data")))

/-- Returns whether another key was stored for the address. -/
def saveIdentity (address : ProtocolAddress) (key : presage.IdentityKey)
    : ProtocolCall β Bool :=
  let dict := dictIdentity identity
  let newBytes := presage.identityKey.serialize key
  Attempt.andThen (onProtocol (KvBackend.get dict (identityKey address))) (fun prior =>
    Attempt.map (fun _ => prior.any (· ≠ newBytes))
      (onProtocol (KvBackend.put dict (identityKey address) newBytes)))

def getIdentity (address : ProtocolAddress) : ProtocolCall β (Option presage.IdentityKey) :=
  Attempt.andThen (onProtocol (KvBackend.get (dictIdentity identity) (identityKey address)))
    (fun
      | some bytes => Attempt.lift ((presage.identityKey.decode bytes).map some)
      | none => Attempt.lift (.ok none))

/-- What the store does with a changed identity key. -/
inductive OnNewIdentity where
  | reject
  | trust
  deriving DecidableEq

/-- A known key is trusted, a changed one as the policy says, and the first one always. -/
def isTrustedIdentity (trustNewIdentities : OnNewIdentity) (address : ProtocolAddress)
    (key : presage.IdentityKey)
    : ProtocolCall β Bool :=
  Attempt.map
    (fun
      | some stored => stored = key || trustNewIdentities = .trust
      | none => true)
    (getIdentity presage identity address)

-----------------------------------------------------------------------------------------
-- Pre-keys
-----------------------------------------------------------------------------------------

def prekeyBundleKey : String := "all"

/-- The packed pre-keys; none if the key does not exist. -/
def loadBundle : ProtocolCall β (List (UInt32 × Bytes)) :=
  Attempt.map (·.getD [])
    (backendGetJsonProtocol presage.preKeyBundle (dictPrekeyBundle identity) prekeyBundleKey
      "decode prekey bundle")

def saveBundle (bundle : List (UInt32 × Bytes)) : ProtocolCall β Unit :=
  backendPutJsonProtocol presage.preKeyBundle (dictPrekeyBundle identity) prekeyBundleKey
    "encode prekey bundle" bundle

/-- Replace the first entry with this id, or append one. -/
def setEntry (id : UInt32) (bytes : Bytes) (bundle : List (UInt32 × Bytes))
    : List (UInt32 × Bytes) :=
  match bundle with
  | [] => [(id, bytes)]
  | entry :: rest =>
      if entry.1 = id then (id, bytes) :: rest else entry :: setEntry id bytes rest

def getPreKey (id : UInt32) : ProtocolCall β presage.PreKeyRecord :=
  Attempt.andThen (loadBundle presage identity) (fun bundle =>
    match bundle.find? (fun entry => entry.1 = id) with
    | some entry => Attempt.lift (presage.preKeyRecord.deserialize entry.2)
    | none => Attempt.lift (.error .invalidPreKeyId))

def savePreKey (id : UInt32) (record : presage.PreKeyRecord) : ProtocolCall β Unit :=
  Attempt.andThen (Attempt.lift (presage.preKeyRecord.serialize record)) (fun bytes =>
    Attempt.andThen (loadBundle presage identity) (fun bundle =>
      saveBundle presage identity (setEntry id bytes bundle)))

def removePreKey (id : UInt32) : ProtocolCall β Unit :=
  Attempt.andThen (loadBundle presage identity) (fun bundle =>
    saveBundle presage identity (bundle.filter (fun entry => entry.1 ≠ id)))

def maxPreKeyId : ProtocolCall β (Option UInt32) :=
  Attempt.map (fun bundle => (bundle.map Prod.fst).max?) (loadBundle presage identity)

def signedPreKeyKey (id : UInt32) : String := id.toNat.repr

def getSignedPreKey (id : UInt32) : ProtocolCall β presage.SignedPreKeyRecord :=
  Attempt.andThen
    (onProtocol (KvBackend.get (dictSignedPrekey identity) (signedPreKeyKey id)))
    (fun
      | some bytes => Attempt.lift (presage.signedPreKeyRecord.deserialize bytes)
      | none => Attempt.lift (.error .invalidSignedPreKeyId))

def saveSignedPreKey (id : UInt32) (record : presage.SignedPreKeyRecord)
    : ProtocolCall β Unit :=
  Attempt.andThen (Attempt.lift (presage.signedPreKeyRecord.serialize record)) (fun bytes =>
    onProtocol (KvBackend.put (dictSignedPrekey identity) (signedPreKeyKey id) bytes))

def countSignedPreKeys : ProtocolCall β Nat :=
  onProtocol (Attempt.map List.length (KvBackend.listKeys (dictSignedPrekey identity)))

def maxSignedPreKeyId : ProtocolCall β (Option UInt32) :=
  Attempt.map List.max? (onProtocol (listKeysAsU32s (dictSignedPrekey identity)))

/-- The ids of the last-resort keys, in listing order. -/
def lastResortIds : ProtocolCall β (List UInt32) :=
  Attempt.andThen (onProtocol (listKeysAsU32s (dictKyberPrekey identity))) (fun ids =>
    Attempt.map (List.filterMap id)
      (Attempt.collect
        (fun id => Attempt.map
          (fun envelope =>
            if envelope.any KyberStored.isLastResort then some id else none)
          (Kyber.loadEnvelope presage.kyber identity id))
        ids))

def countKyberPreKeys (lastResortOnly : Bool) : ProtocolCall β Nat :=
  if lastResortOnly then Attempt.map List.length (lastResortIds presage identity)
  else
    Attempt.map List.length (onProtocol (listKeysAsU32s (dictKyberPrekey identity)))

def maxKyberPreKeyId : ProtocolCall β (Option UInt32) :=
  Attempt.map List.max? (onProtocol (listKeysAsU32s (dictKyberPrekey identity)))

def maxLastResortKyberPreKeyId : ProtocolCall β (Option UInt32) :=
  Attempt.map List.max? (lastResortIds presage identity)

/-- The first last-resort record that does not deserialize ends the loop. -/
def loadLastResortKyberPreKeys : ProtocolCall β (List presage.KyberPreKeyRecord) :=
  Attempt.andThen (onProtocol (listKeysAsU32s (dictKyberPrekey identity))) (fun ids =>
    Attempt.map (List.filterMap id)
      (Attempt.collect
        (fun id => Attempt.andThen (Kyber.loadEnvelope presage.kyber identity id) (fun
          | some ⟨record, true⟩ =>
              Attempt.lift ((presage.kyber.deserialize record).map some)
          | _ => Attempt.lift (.ok none)))
        ids))

/-- One above the largest id, or 1. The addition is a `u32` one: `none` is its overflow, a
panic where overflow is checked.
-/
def nextId : Option UInt32 → Option UInt32
  | some id => if id.toNat + 1 < 2 ^ 32 then some (id + 1) else none
  | none => some 1

def nextPreKeyId : ProtocolCall β (Option UInt32) :=
  Attempt.map nextId (maxPreKeyId presage identity)

def nextSignedPreKeyId : ProtocolCall β (Option UInt32) :=
  Attempt.map nextId (maxSignedPreKeyId identity)

def nextPqPreKeyId : ProtocolCall β (Option UInt32) :=
  Attempt.map nextId (maxKyberPreKeyId identity)

-----------------------------------------------------------------------------------------
-- Sender keys
-----------------------------------------------------------------------------------------

/-- The undashed form of a UUID. -/
def simpleUuid (uuid : Uuid) : String := String.ofList (Uuid.hexDigits 32 uuid.bits.toNat)

def senderKeyKey (address : ProtocolAddress) (distributionId : Uuid) : String :=
  address.name ++ "." ++ address.deviceId.id.toNat.repr ++ "." ++ simpleUuid distributionId

def storeSenderKey (sender : ProtocolAddress) (distributionId : Uuid)
    (record : presage.SenderKeyRecord)
    : ProtocolCall β Unit :=
  Attempt.andThen (Attempt.lift (presage.senderKeyRecord.serialize record)) (fun bytes =>
    onProtocol (KvBackend.put (dictSenderKey identity) (senderKeyKey sender distributionId)
      bytes))

def loadSenderKey (sender : ProtocolAddress) (distributionId : Uuid)
    : ProtocolCall β (Option presage.SenderKeyRecord) :=
  Attempt.andThen
    (onProtocol (KvBackend.get (dictSenderKey identity) (senderKeyKey sender distributionId)))
    (fun
      | some bytes => Attempt.lift ((presage.senderKeyRecord.deserialize bytes).map some)
      | none => Attempt.lift (.ok none))

end XousAppSignal.Store.Records
