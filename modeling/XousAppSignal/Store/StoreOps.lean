import XousAppSignal.Store.ContentsStore
import XousAppSignal.Store.ProtocolRecords

/-! Every operation of the store: the reads with their answers, the writes, and runs of both
through a buffering backend.
-/

namespace XousAppSignal.Store

open StoreOp (Buffered)

variable {ρ : Type} {presage : Presage}

/-- A read operation of the state, contents or protocol stores. -/
inductive StoreRead (presage : Presage) where
  | loadRegistrationData
  | senderCertificate
  | isRegistered
  | fetchMasterKey
  | hasAccountState
  | profile (uuid : Uuid) (key : ProfileKey)
  | profileAvatar (uuid : Uuid) (key : ProfileKey)
  | profileKey (serviceId : ServiceId)
  | contacts
  | contactById (id : ServiceId)
  | groups
  | group (masterKey : GroupMasterKeyBytes)
  | groupAvatar (masterKey : GroupMasterKeyBytes)
  | stickerPack (id : Bytes)
  | stickerPacks
  | message (thread : Thread) (timestamp : UInt64)
  | messages (thread : Thread) (range : Contents.TimestampRange)
  | getIdentityKeyPair (identity : IdentityType)
  | getLocalRegistrationId
  | getIdentity (identity : IdentityType) (address : ProtocolAddress)
  | isTrustedIdentity (identity : IdentityType) (trustNewIdentities : Records.OnNewIdentity)
      (address : ProtocolAddress) (key : presage.IdentityKey)
  | getPreKey (identity : IdentityType) (id : UInt32)
  | getSignedPreKey (identity : IdentityType) (id : UInt32)
  | getKyberPreKey (identity : IdentityType) (id : UInt32)
  | loadLastResortKyberPreKeys (identity : IdentityType)
  | nextPreKeyId (identity : IdentityType)
  | nextSignedPreKeyId (identity : IdentityType)
  | nextPqPreKeyId (identity : IdentityType)
  | signedPreKeysCount (identity : IdentityType)
  | kyberPreKeysCount (identity : IdentityType) (lastResort : Bool)
  | signedPrekeyId (identity : IdentityType)
  | lastResortKyberPrekeyId (identity : IdentityType)
  | loadSenderKey (identity : IdentityType) (sender : ProtocolAddress) (distributionId : Uuid)
  | loadSession (order : HashOrder) (identity : IdentityType) (address : ProtocolAddress)
  | getSubDeviceSessions (identity : IdentityType) (name : ServiceId)

namespace StoreRead

/-- What a read returns. -/
def Answer (ρ : Type) : StoreRead presage → Type
  | .loadRegistrationData => Except Error (Option presage.RegistrationData)
  | .senderCertificate => Except Error (Option presage.SenderCertificate)
  | .isRegistered => Bool
  | .fetchMasterKey => Except Error (Option presage.MasterKey)
  | .hasAccountState => Bool
  | .profile _ _ => Except Error (Option presage.Profile)
  | .profileAvatar _ _ => Except Error (Option Bytes)
  | .profileKey _ => Except Error (Option ProfileKey)
  | .contacts => Except Error (List (Except Error presage.Contact))
  | .contactById _ => Except Error (Option presage.Contact)
  | .groups => Except Error (List (Except Error (Option (Bytes × presage.Group))))
  | .group _ => Except Error (Option presage.Group)
  | .groupAvatar _ => Except Error (Option Bytes)
  | .stickerPack _ => Except Error (Option presage.StickerPack)
  | .stickerPacks => Except Error (List (Except Error presage.StickerPack))
  | .message _ _ => Except Error (Option (MessageContent presage.ContentBody))
  | .messages _ _ => Except Error (List (Except Error (MessageContent presage.ContentBody)))
  | .getIdentityKeyPair _ => Except SignalProtocolError presage.IdentityKeyPair
  | .getLocalRegistrationId => Except SignalProtocolError UInt32
  | .getIdentity _ _ => Except SignalProtocolError (Option presage.IdentityKey)
  | .isTrustedIdentity _ _ _ _ => Except SignalProtocolError Bool
  | .getPreKey _ _ => Except SignalProtocolError presage.PreKeyRecord
  | .getSignedPreKey _ _ => Except SignalProtocolError presage.SignedPreKeyRecord
  | .getKyberPreKey _ _ => Except SignalProtocolError presage.KyberPreKeyRecord
  | .loadLastResortKyberPreKeys _ =>
      Except SignalProtocolError (List presage.KyberPreKeyRecord)
  | .nextPreKeyId _ | .nextSignedPreKeyId _ | .nextPqPreKeyId _ | .signedPrekeyId _
  | .lastResortKyberPrekeyId _ => Except SignalProtocolError (Option UInt32)
  | .signedPreKeysCount _ | .kyberPreKeysCount _ _ => Except SignalProtocolError Nat
  | .loadSenderKey _ _ _ => Except SignalProtocolError (Option presage.SenderKeyRecord)
  | .loadSession _ _ _ => Except SignalProtocolError (Option ρ)
  | .getSubDeviceSessions _ _ => Except SignalProtocolError (List DeviceId)

/-- A read that only asks the backend. -/
def onBackend {α β : Type} (call : β → α × β) (store : PddbStore β ρ) : α × PddbStore β ρ :=
  ((call store.backend).1, { store with backend := (call store.backend).2 })

variable {β : Type} [KvBackend β]

def perform (format : RecordFormat ρ)
    : (read : StoreRead presage) → PddbStore β ρ → read.Answer ρ × PddbStore β ρ
  | .loadRegistrationData => onBackend (State.loadRegistrationData presage)
  | .senderCertificate => onBackend (State.senderCertificate presage)
  | .isRegistered => onBackend (State.isRegistered presage)
  | .fetchMasterKey => onBackend (State.fetchMasterKey presage)
  | .hasAccountState => PddbStore.hasAccountState
  | .profile uuid key => onBackend (Contents.profile presage uuid key)
  | .profileAvatar uuid key => onBackend (Contents.profileAvatar presage uuid key)
  | .profileKey serviceId => onBackend (Contents.profileKey presage serviceId)
  | .contacts => onBackend (Contents.contacts presage)
  | .contactById id => onBackend (Contents.contactById presage id)
  | .groups => onBackend (Contents.groups presage)
  | .group masterKey => onBackend (Contents.group presage masterKey)
  | .groupAvatar masterKey => onBackend (Contents.groupAvatar masterKey)
  | .stickerPack id => onBackend (Contents.stickerPack presage id)
  | .stickerPacks => onBackend (Contents.stickerPacks presage)
  | .message thread timestamp => onBackend (Contents.message presage thread timestamp)
  | .messages thread range => onBackend (Contents.messages presage thread range)
  | .getIdentityKeyPair identity => onBackend (Records.getIdentityKeyPair presage identity)
  | .getLocalRegistrationId => onBackend (Records.getLocalRegistrationId presage)
  | .getIdentity identity address =>
      onBackend (Records.getIdentity presage identity address)
  | .isTrustedIdentity identity trustNewIdentities address key =>
      onBackend (Records.isTrustedIdentity presage identity trustNewIdentities address key)
  | .getPreKey identity id => onBackend (Records.getPreKey presage identity id)
  | .getSignedPreKey identity id => onBackend (Records.getSignedPreKey presage identity id)
  | .getKyberPreKey identity id => onBackend (Kyber.getKyberPreKey presage.kyber identity id)
  | .loadLastResortKyberPreKeys identity =>
      onBackend (Records.loadLastResortKyberPreKeys presage identity)
  | .nextPreKeyId identity => onBackend (Records.nextPreKeyId presage identity)
  | .nextSignedPreKeyId identity => onBackend (Records.nextSignedPreKeyId identity)
  | .nextPqPreKeyId identity => onBackend (Records.nextPqPreKeyId identity)
  | .signedPreKeysCount identity => onBackend (Records.countSignedPreKeys identity)
  | .kyberPreKeysCount identity lastResort =>
      onBackend (Records.countKyberPreKeys presage identity lastResort)
  | .signedPrekeyId identity => onBackend (Records.maxSignedPreKeyId identity)
  | .lastResortKyberPrekeyId identity =>
      onBackend (Records.maxLastResortKyberPreKeyId presage identity)
  | .loadSenderKey identity sender distributionId =>
      onBackend (Records.loadSenderKey presage identity sender distributionId)
  | .loadSession order identity address => PddbStore.loadSession format order identity address
  | .getSubDeviceSessions identity name =>
      PddbStore.getSubDeviceSessions format identity name

end StoreRead

/-- An operation that writes, deletes or clears. -/
inductive StoreWrite (presage : Presage) (ρ : Type) where
  | setAciIdentityKeyPair (keyPair : presage.IdentityKeyPair)
  | setPniIdentityKeyPair (keyPair : presage.IdentityKeyPair)
  | saveRegistrationData (state : presage.RegistrationData)
  | saveSenderCertificate (certificate : presage.SenderCertificate)
  | clearRegistration
  | storeMasterKey (masterKey : Option presage.MasterKey)
  | saveProfile (uuid : Uuid) (key : ProfileKey) (profile : presage.Profile)
  | saveProfileAvatar (uuid : Uuid) (key : ProfileKey) (avatar : Bytes)
  | upsertProfileKey (uuid : Uuid) (key : ProfileKey)
  | clearProfiles
  | saveContact (contact : presage.Contact)
  | clearContacts
  | saveGroup (masterKey : GroupMasterKeyBytes) (group : presage.Group)
  | saveGroupAvatar (masterKey : GroupMasterKeyBytes) (avatar : Bytes)
  | clearGroups
  | addStickerPack (pack : presage.StickerPack)
  | removeStickerPack (id : Bytes)
  | saveMessage (thread : Thread) (message : MessageContent presage.ContentBody)
  | deleteMessage (thread : Thread) (timestamp : UInt64)
  | clearThread (thread : Thread)
  | clearMessages
  | clearContents
  | saveIdentity (identity : IdentityType) (address : ProtocolAddress)
      (key : presage.IdentityKey)
  | savePreKey (identity : IdentityType) (id : UInt32) (record : presage.PreKeyRecord)
  | removePreKey (identity : IdentityType) (id : UInt32)
  | saveSignedPreKey (identity : IdentityType) (id : UInt32)
      (record : presage.SignedPreKeyRecord)
  | saveKyberPreKey (identity : IdentityType) (id : UInt32)
      (record : presage.KyberPreKeyRecord)
  | storeLastResortKyberPreKey (identity : IdentityType) (id : UInt32)
      (record : presage.KyberPreKeyRecord)
  | markKyberPreKeyUsed (identity : IdentityType) (kyberPrekeyId ecPrekeyId : UInt32)
      (baseKey : PublicKey)
  | removeKyberPreKey (identity : IdentityType) (id : UInt32)
  | storeSenderKey (identity : IdentityType) (sender : ProtocolAddress)
      (distributionId : Uuid) (record : presage.SenderKeyRecord)
  | storeSession (identity : IdentityType) (address : ProtocolAddress) (record : ρ)
  | deleteSession (order : HashOrder) (identity : IdentityType) (address : ProtocolAddress)
  | deleteAllSessions (identity : IdentityType) (address : ServiceId)
  | flushSessions (order : FlushOrder)
  | clear

namespace StoreWrite

variable {β : Type} [KvBackend β]

/-- The store after a write. -/
def perform (format : RecordFormat ρ) (store : PddbStore β ρ)
    : StoreWrite presage ρ → PddbStore β ρ
  | .setAciIdentityKeyPair keyPair => on (State.setAciIdentityKeyPair presage keyPair)
  | .setPniIdentityKeyPair keyPair => on (State.setPniIdentityKeyPair presage keyPair)
  | .saveRegistrationData state => on (State.saveRegistrationData presage state)
  | .saveSenderCertificate certificate => on (State.saveSenderCertificate presage certificate)
  | .clearRegistration => on State.clearRegistration
  | .storeMasterKey masterKey => on (State.storeMasterKey presage masterKey)
  | .saveProfile uuid key profile => on (Contents.saveProfile presage uuid key profile)
  | .saveProfileAvatar uuid key avatar =>
      on (Contents.saveProfileAvatar presage uuid key avatar)
  | .upsertProfileKey uuid key => on (Contents.upsertProfileKey presage uuid key)
  | .clearProfiles => on Contents.clearProfiles
  | .saveContact contact => on (Contents.saveContact presage contact)
  | .clearContacts => on Contents.clearContacts
  | .saveGroup masterKey group => on (Contents.saveGroup presage masterKey group)
  | .saveGroupAvatar masterKey avatar => on (Contents.saveGroupAvatar masterKey avatar)
  | .clearGroups => on Contents.clearGroups
  | .addStickerPack pack => on (Contents.addStickerPack presage pack)
  | .removeStickerPack id => on (Contents.removeStickerPack id)
  | .saveMessage thread message => on (Contents.saveMessage presage thread message)
  | .deleteMessage thread timestamp => on (Contents.deleteMessage presage thread timestamp)
  | .clearThread thread => on (Contents.clearThread presage thread)
  | .clearMessages => on Contents.clearMessages
  | .clearContents => on Contents.clearContents
  | .saveIdentity identity address key => on (Records.saveIdentity presage identity address key)
  | .savePreKey identity id record => on (Records.savePreKey presage identity id record)
  | .removePreKey identity id => on (Records.removePreKey presage identity id)
  | .saveSignedPreKey identity id record =>
      on (Records.saveSignedPreKey presage identity id record)
  | .saveKyberPreKey identity id record =>
      on (Kyber.saveKyberPreKey presage.kyber identity id record)
  | .storeLastResortKyberPreKey identity id record =>
      on (Kyber.storeLastResortKyberPreKey presage.kyber identity id record)
  | .markKyberPreKeyUsed identity kyberPrekeyId ecPrekeyId baseKey =>
      on (Kyber.markKyberPreKeyUsed presage.kyber identity kyberPrekeyId ecPrekeyId baseKey)
  | .removeKyberPreKey identity id => on (Kyber.removeKyberPreKey identity id)
  | .storeSenderKey identity sender distributionId record =>
      on (Records.storeSenderKey presage identity sender distributionId record)
  | .storeSession identity address record => store.storeSession identity address record
  | .deleteSession order identity address =>
      (store.deleteSession format order identity address).2
  | .deleteAllSessions identity address =>
      (store.deleteAllSessions format identity address).2
  | .flushSessions order => (store.flushSessions format order).2
  | .clear => store.clear.2
where
  on {ε α : Type} (call : Attempt β ε α) : PddbStore β ρ :=
    { store with backend := (call store.backend).2 }

end StoreWrite

/-- One step of a run of the store: an operation, the begin or end of a batch, or a new
store over the same storage.
-/
inductive StoreAction (presage : Presage) (ρ : Type) where
  | read (op : StoreRead presage)
  | write (op : StoreWrite presage ρ)
  | beginSendBatch
  | commit (order : HashOrder)
  | abort
  | restart

/-- A batch can be ended only through the guard of an open one. -/
def StoreAction.perform (format : RecordFormat ρ) (store : Buffered ρ)
    : StoreAction presage ρ → Buffered ρ
  | .read op => (op.perform format store).2
  | .write op => op.perform format store
  | .beginSendBatch => store.beginSendBatch.2
  | .commit order => if store.backend.isBatching then (store.commitBatch order).2 else store
  | .abort => if store.backend.isBatching then store.abortBatch else store
  | .restart => StoreOp.restart store

end XousAppSignal.Store
