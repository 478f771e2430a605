import XousAppSignal.Library.DecimalKeys
import XousAppSignal.Store.KeyDerivations
import XousAppSignal.Store.ProtocolRecords

/-! The records of the store, each with the slot it is kept in: a dictionary and a key. No two
of them share a slot. Dictionaries are told apart by name; within one, the derived keys are
told apart part by part.
-/

namespace XousAppSignal.Store

/-- The fields of the account state. -/
inductive StateField where
  | registration
  | aciIdentityKeyPair
  | pniIdentityKeyPair
  | senderCertificate
  | masterKey
  deriving DecidableEq

def StateField.key : StateField → String
  | .registration => State.keyRegistration
  | .aciIdentityKeyPair => State.keyAciIdentityKeyPair
  | .pniIdentityKeyPair => State.keyPniIdentityKeyPair
  | .senderCertificate => State.keySenderCertificate
  | .masterKey => State.keyMasterKey

/-- The records of one protocol store. -/
inductive ProtocolRecord where
  | session (name : String)
  | peerIdentity (address : ProtocolAddress)
  | preKeyBundle
  | signedPreKey (id : UInt32)
  | kyberPreKey (id : UInt32)
  | kyberMeta (kyberPrekeyId ecPrekeyId : UInt32)
  | senderKey (address : ProtocolAddress) (distributionId : Uuid)
  deriving DecidableEq

inductive LogicalRecord where
  | state (field : StateField)
  | contact (uuid : Uuid)
  | group (masterKey : GroupMasterKeyBytes)
  | groupAvatar (masterKey : GroupMasterKeyBytes)
  | profile (uuid : Uuid) (key : ProfileKey)
  | profileAvatar (uuid : Uuid) (key : ProfileKey)
  | profileKey (uuid : Uuid)
  | stickerPack (id : Bytes)
  | message (thread : Thread) (timestamp : UInt64)
  | protocol (identity : IdentityType) (record : ProtocolRecord)
  deriving DecidableEq

-----------------------------------------------------------------------------------------
-- Slots
-----------------------------------------------------------------------------------------

/-- The seven dictionaries of a protocol store. -/
inductive ProtocolDict where
  | session
  | identity
  | prekeyBundle
  | signedPrekey
  | kyberPrekey
  | kyberMeta
  | senderKey
  deriving DecidableEq

/-- The dictionaries with a name of their own, all but those of the threads. -/
inductive FixedDict where
  | state
  | contacts
  | groups
  | groupAvatars
  | profiles
  | profileAvatars
  | profileKeys
  | stickerPacks
  | protocol (identity : IdentityType) (dict : ProtocolDict)
  deriving DecidableEq

def ProtocolDict.name (identity : IdentityType) : ProtocolDict → String
  | .session => dictSession identity
  | .identity => dictIdentity identity
  | .prekeyBundle => dictPrekeyBundle identity
  | .signedPrekey => dictSignedPrekey identity
  | .kyberPrekey => dictKyberPrekey identity
  | .kyberMeta => dictKyberMeta identity
  | .senderKey => dictSenderKey identity

def FixedDict.name : FixedDict → String
  | .state => dictState
  | .contacts => Contents.dictContacts
  | .groups => Contents.dictGroups
  | .groupAvatars => Contents.dictGroupAvatars
  | .profiles => Contents.dictProfiles
  | .profileAvatars => Contents.dictProfileAvatars
  | .profileKeys => Contents.dictProfileKeys
  | .stickerPacks => Contents.dictStickerPacks
  | .protocol identity dict => dict.name identity

def ProtocolDict.all : List ProtocolDict :=
  [.session, .identity, .prekeyBundle, .signedPrekey, .kyberPrekey, .kyberMeta, .senderKey]

def FixedDict.all : List FixedDict :=
  [.state, .contacts, .groups, .groupAvatars, .profiles, .profileAvatars, .profileKeys,
      .stickerPacks]
    ++ (ProtocolDict.all.map (.protocol .aci) ++ ProtocolDict.all.map (.protocol .pni))

theorem FixedDict.mem_all (dict : FixedDict) : dict ∈ all := by
  cases dict with
  | protocol identity dict => cases identity <;> cases dict <;> decide
  | _ => decide

theorem FixedDict.name_injective {left right : FixedDict} (same : left.name = right.name)
    : left = right := by
  have distinct : (all.map (fun dict => asBytes dict.name)).Nodup := by decide +kernel
  exact List.inj_on_of_nodup_map distinct left.mem_all right.mem_all (congrArg asBytes same)

/-- No dictionary with a name of its own is named like a thread's. -/
theorem FixedDict.not_thread (dict : FixedDict)
    : ¬asBytes Contents.threadDictPrefix <+: asBytes dict.name := by
  have none : ∀ dict ∈ all, ¬asBytes Contents.threadDictPrefix <+: asBytes dict.name := by
    decide +kernel
  exact none dict dict.mem_all

theorem FixedDict.name_ne_thread (presage : Presage) (dict : FixedDict) (thread : Thread)
    : dict.name ≠ Contents.threadDictName presage thread := by
  intro same
  apply dict.not_thread
  rw [same, Contents.threadDictName, asBytes_append]
  exact List.prefix_append ..

def ProtocolRecord.dict : ProtocolRecord → ProtocolDict
  | .session _ => .session
  | .peerIdentity _ => .identity
  | .preKeyBundle => .prekeyBundle
  | .signedPreKey _ => .signedPrekey
  | .kyberPreKey _ => .kyberPrekey
  | .kyberMeta _ _ => .kyberMeta
  | .senderKey _ _ => .senderKey

def ProtocolRecord.key : ProtocolRecord → String
  | .session name => name
  | .peerIdentity address => Records.identityKey address
  | .preKeyBundle => Records.prekeyBundleKey
  | .signedPreKey id => Records.signedPreKeyKey id
  | .kyberPreKey id => Kyber.envelopeKey id
  | .kyberMeta kyberPrekeyId ecPrekeyId => Kyber.metaKey kyberPrekeyId ecPrekeyId
  | .senderKey address distributionId => Records.senderKeyKey address distributionId

-----------------------------------------------------------------------------------------
-- Keys
-----------------------------------------------------------------------------------------

/-- An address's name is free text; its device is the number behind the last dot. -/
theorem identityKey_injective {left right : ProtocolAddress}
    (same : Records.identityKey left = Records.identityKey right)
    : left = right := by
  obtain ⟨names, devices⟩ := DecimalKeys.dotted_text_injective (DecimalKeys.dot_notMem_repr _)
    (DecimalKeys.dot_notMem_repr _) same
  rcases left with ⟨name, id, valid⟩
  rcases right with ⟨name', id', valid'⟩
  obtain rfl : name = name' := names
  obtain rfl : id = id' := UInt32.toNat_inj.mp (DecimalKeys.repr_injective devices)
  rfl

theorem dot_notMem_simpleUuid (uuid : Uuid) : '.' ∉ (Records.simpleUuid uuid).toList := by
  have digit : ∀ value < 16, Nat.digitChar value ≠ '.' := by decide
  rw [Records.simpleUuid, String.toList_ofList]
  intro listed
  obtain ⟨place, -, here⟩ := List.mem_map.mp listed
  exact digit _ (Nat.mod_lt _ (by decide)) here

theorem simpleUuid_injective {left right : Uuid}
    (same : Records.simpleUuid left = Records.simpleUuid right)
    : left = right := by
  have bits := Uuid.hexDigits_injective (String.ofList_injective same)
  have small (uuid : Uuid) : uuid.bits.toNat < 16 ^ 32 := uuid.bits.isLt
  rw [Nat.mod_eq_of_lt (small left), Nat.mod_eq_of_lt (small right)] at bits
  cases left
  cases right
  exact congrArg Uuid.mk (BitVec.eq_of_toNat_eq bits)

theorem senderKeyKey_injective {left right : ProtocolAddress} {id id' : Uuid}
    (same : Records.senderKeyKey left id = Records.senderKeyKey right id')
    : left = right ∧ id = id' := by
  obtain ⟨addresses, ids⟩ := DecimalKeys.dotted_text_injective (dot_notMem_simpleUuid id)
    (dot_notMem_simpleUuid id') same
  exact ⟨identityKey_injective addresses, simpleUuid_injective ids⟩

theorem envelopeKey_injective {left right : UInt32}
    (same : Kyber.envelopeKey left = Kyber.envelopeKey right)
    : left = right :=
  UInt32.toNat_inj.mp (DecimalKeys.repr_injective same)

theorem metaKey_injective {kyber kyber' ec ec' : UInt32}
    (same : Kyber.metaKey kyber ec = Kyber.metaKey kyber' ec')
    : kyber = kyber' ∧ ec = ec' := by
  obtain ⟨kybers, ecs⟩ := DecimalKeys.dotted_injective same
  exact ⟨UInt32.toNat_inj.mp kybers, UInt32.toNat_inj.mp ecs⟩

theorem groupKey_injective {left right : GroupMasterKeyBytes}
    (same : Contents.groupKey left = Contents.groupKey right)
    : left = right :=
  Vector.toList_inj.mp (Contents.hexEncode_injective same)

/-- The account's bytes come first and are sixteen. -/
theorem profileDictKey_injective {presage : Presage} {uuid uuid' : Uuid} {key key' : ProfileKey}
    (apart : presage.sha256 (Contents.uuidBytes uuid ++ key.toList)
        = presage.sha256 (Contents.uuidBytes uuid' ++ key'.toList)
      → Contents.uuidBytes uuid ++ key.toList = Contents.uuidBytes uuid' ++ key'.toList)
    (same : Contents.profileDictKey presage uuid key = Contents.profileDictKey presage uuid' key')
    : uuid = uuid' ∧ key = key' := by
  have hashes := Vector.toList_inj.mp (Contents.hexEncode_injective same)
  obtain ⟨uuids, keys⟩ := List.append_inj (apart hashes) (by simp)
  exact ⟨Contents.uuidBytes_injective uuids, Vector.toList_inj.mp keys⟩

theorem StateField.key_injective {left right : StateField} (same : left.key = right.key)
    : left = right := by
  revert same
  cases left <;> cases right <;> decide

theorem ProtocolRecord.eq_of_key {left right : ProtocolRecord} (dicts : left.dict = right.dict)
    (keys : left.key = right.key)
    : left = right := by
  match left, right, dicts with
  | .session name, .session name', _ => exact congrArg session keys
  | .peerIdentity address, .peerIdentity address', _ => rw [identityKey_injective keys]
  | .preKeyBundle, .preKeyBundle, _ => rfl
  | .signedPreKey id, .signedPreKey id', _ => rw [envelopeKey_injective keys]
  | .kyberPreKey id, .kyberPreKey id', _ => rw [envelopeKey_injective keys]
  | .kyberMeta kyber ec, .kyberMeta kyber' ec', _ =>
      obtain ⟨rfl, rfl⟩ := metaKey_injective keys
      rfl
  | .senderKey address id, .senderKey address' id', _ =>
      obtain ⟨rfl, rfl⟩ := senderKeyKey_injective keys
      rfl

namespace LogicalRecord

variable (presage : Presage)

/-- The record's dictionary, or the thread whose dictionary it is in. -/
def dict : LogicalRecord → FixedDict ⊕ Thread
  | .state _ => .inl .state
  | .contact _ => .inl .contacts
  | .group _ => .inl .groups
  | .groupAvatar _ => .inl .groupAvatars
  | .profile _ _ => .inl .profiles
  | .profileAvatar _ _ => .inl .profileAvatars
  | .profileKey _ => .inl .profileKeys
  | .stickerPack _ => .inl .stickerPacks
  | .message thread _ => .inr thread
  | .protocol identity record => .inl (.protocol identity record.dict)

def dictName (record : LogicalRecord) : String :=
  record.dict.elim FixedDict.name (Contents.threadDictName presage)

def key : LogicalRecord → String
  | .state field => field.key
  | .contact uuid => uuid.toString
  | .group masterKey => Contents.groupKey masterKey
  | .groupAvatar masterKey => Contents.groupKey masterKey
  | .profile uuid key => Contents.profileDictKey presage uuid key
  | .profileAvatar uuid key => Contents.profileDictKey presage uuid key
  | .profileKey uuid => uuid.toString
  | .stickerPack id => Contents.stickerPackKey id
  | .message _ timestamp => Contents.messageKey timestamp
  | .protocol _ record => record.key

/-- Where the record is kept. -/
def slot (record : LogicalRecord) : String × String :=
  (record.dictName presage, record.key presage)

/-- The bytes that are hashed into the record's slot. -/
def hashed : LogicalRecord → Option Bytes
  | .profile uuid key => some (Contents.uuidBytes uuid ++ key.toList)
  | .profileAvatar uuid key => some (Contents.uuidBytes uuid ++ key.toList)
  | .message thread _ => some (Contents.threadKey thread).toUTF8.toList
  | _ => none

/-- The hash tells these two records apart, if what is hashed for them differs. -/
def Apart (left right : LogicalRecord) : Prop :=
  ∀ bytes ∈ left.hashed, ∀ bytes' ∈ right.hashed,
    presage.sha256 bytes = presage.sha256 bytes' → bytes = bytes'

variable {presage : Presage} {left right : LogicalRecord}

/-- A record in a thread's dictionary is one whose thread is hashed. -/
theorem hashed_of_thread {record : LogicalRecord} {thread : Thread}
    (here : record.dict = .inr thread)
    : record.hashed = some (Contents.threadKey thread).toUTF8.toList := by
  match record, here with
  | .message thread' timestamp, here => rw [hashed, Sum.inr.inj here]

theorem dict_of_name (apart : Apart presage left right)
    (same : left.dictName presage = right.dictName presage)
    : left.dict = right.dict := by
  unfold dictName at same
  rcases here : left.dict with fixed | thread <;>
    rcases there : right.dict with fixed' | thread' <;>
    rw [here, there] at same
  · exact congrArg Sum.inl (FixedDict.name_injective same)
  · exact absurd same (fixed.name_ne_thread presage thread')
  · exact absurd same.symm (fixed'.name_ne_thread presage thread)
  · have threads : presage.Apart thread thread' :=
      apart _ (hashed_of_thread here) _ (hashed_of_thread there)
    exact congrArg Sum.inr ((threadDictName_inj threads).mp same)

/-- Within a dictionary the keys differ, by cases on what it keeps. -/
theorem eq_of_key (apart : Apart presage left right) (dicts : left.dict = right.dict)
    (keys : left.key presage = right.key presage)
    : left = right := by
  match left, right, dicts with
  | .state field, .state field', _ => rw [StateField.key_injective keys]
  | .contact uuid, .contact uuid', _ => rw [Uuid.toString_injective keys]
  | .group masterKey, .group masterKey', _ => rw [groupKey_injective keys]
  | .groupAvatar masterKey, .groupAvatar masterKey', _ => rw [groupKey_injective keys]
  | .profile uuid key, .profile uuid' key', _ =>
      obtain ⟨rfl, rfl⟩ := profileDictKey_injective (apart _ rfl _ rfl) keys
      rfl
  | .profileAvatar uuid key, .profileAvatar uuid' key', _ =>
      obtain ⟨rfl, rfl⟩ := profileDictKey_injective (apart _ rfl _ rfl) keys
      rfl
  | .profileKey uuid, .profileKey uuid', _ => rw [Uuid.toString_injective keys]
  | .stickerPack id, .stickerPack id', _ => rw [Contents.hexEncode_injective keys]
  | .message thread timestamp, .message thread' timestamp', dicts =>
      rw [Sum.inr.inj dicts, Contents.messageKey_injective keys]
  | .protocol identity record, .protocol identity' record', dicts =>
      obtain ⟨identities, records⟩ := FixedDict.protocol.inj (Sum.inl.inj dicts)
      rw [identities, ProtocolRecord.eq_of_key records keys]

/-- No two records share a slot. -/
theorem slot_injective (apart : Apart presage left right)
    (same : left.slot presage = right.slot presage)
    : left = right := by
  obtain ⟨names, keys⟩ := Prod.mk.inj same
  exact eq_of_key apart (dict_of_name apart names) keys

end LogicalRecord

end XousAppSignal.Store
