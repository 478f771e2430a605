import XousAppSignal.Store.LogicalRecords
import XousAppSignal.Store.SessionDeletion
import XousAppSignal.Store.StoreOps

/-! Saving or deleting one record and loading another. A load answers from one `get` of its
record's slot, and the sessions of an address also from memory; a write of other records
changes neither.
-/

namespace XousAppSignal.Store

variable {β ρ τ : Type} [KvBackend β] {presage : Presage}

-----------------------------------------------------------------------------------------
-- Loads
-----------------------------------------------------------------------------------------

/-- The call's answer depends on the backend through one `get` only. -/
def AnswersFrom {α : Type} (slot : String × String) (call : β → α × β) : Prop :=
  ∀ ⦃left right⦄,
    (KvBackend.get slot.1 slot.2 left).1 = (KvBackend.get slot.1 slot.2 right).1
      → (call left).1 = (call right).1

namespace AnswersFrom

variable {ε ε' α γ : Type} {slot : String × String}

theorem get (slot : String × String)
    : AnswersFrom slot (KvBackend.get slot.1 slot.2 : Call β (Option Bytes)) :=
  fun _ _ same => same

theorem mapError {call : Attempt β ε α} (answers : AnswersFrom slot call) (rename : ε → ε')
    : AnswersFrom slot (call.mapError rename) :=
  fun _ _ same => congrArg (Except.mapError rename) (answers same)

theorem map {call : Attempt β ε α} (answers : AnswersFrom slot call) (f : α → γ)
    : AnswersFrom slot (call.map f) :=
  fun _ _ same => congrArg (Except.map f) (answers same)

/-- What is made of the value may not ask the backend again. -/
theorem andThen {call : Attempt β ε α} {next : α → Attempt β ε γ}
    (answers : AnswersFrom slot call) (only : ∀ value, ∃ result, next value = Attempt.lift result)
    : AnswersFrom slot (call.andThen next) := by
  intro left right same
  have first := answers same
  simp only [Attempt.andThen]
  generalize call left = outcome at first ⊢
  generalize call right = outcome' at first ⊢
  obtain ⟨result, left'⟩ := outcome
  obtain ⟨result', right'⟩ := outcome'
  obtain rfl : result = result' := first
  cases result with
  | error e => rfl
  | ok value =>
      obtain ⟨result, made⟩ := only value
      simp only [made, Attempt.lift]

theorem json (codec : JsonCodec τ) (slot : String × String)
    : AnswersFrom slot (backendGetJson codec slot.1 slot.2 : Call β (Option τ)) :=
  (get slot).andThen (fun found => by cases found <;> exact ⟨_, rfl⟩)

theorem jsonProtocol (codec : JsonCodec τ) (slot : String × String) (decodeContext : String)
    : AnswersFrom slot
        (backendGetJsonProtocol codec slot.1 slot.2 decodeContext : ProtocolCall β (Option τ)) := by
  intro left right same
  simp only [backendGetJsonProtocol]
  generalize KvBackend.get slot.1 slot.2 left = outcome at same ⊢
  generalize KvBackend.get slot.1 slot.2 right = outcome' at same ⊢
  obtain ⟨result, left'⟩ := outcome
  obtain ⟨result', right'⟩ := outcome'
  obtain rfl : result = result' := same
  obtain _ | _ | bytes := result <;> rfl

theorem kyberPreKey (identity : IdentityType) (id : UInt32)
    : AnswersFrom (dictKyberPrekey identity, Kyber.envelopeKey id)
        (Kyber.getKyberPreKey presage.kyber identity id : ProtocolCall β _) := by
  intro left right same
  have envelope := jsonProtocol presage.kyber.envelope
    (dictKyberPrekey identity, Kyber.envelopeKey id) "decode kyber envelope" same
  simp only [Kyber.getKyberPreKey, Kyber.loadEnvelope]
  generalize backendGetJsonProtocol _ _ _ _ left = outcome at envelope ⊢
  generalize backendGetJsonProtocol _ _ _ _ right = outcome' at envelope ⊢
  obtain ⟨result, left'⟩ := outcome
  obtain ⟨result', right'⟩ := outcome'
  obtain rfl : result = result' := envelope
  obtain _ | _ | stored := result <;> rfl

theorem bundle (format : RecordFormat ρ) (slot : String × String)
    : AnswersFrom slot
        (backendGetSessionBundleProtocol format slot.1 slot.2
          : ProtocolCall β (Option SessionBundle)) := by
  intro left right same
  simp only [backendGetSessionBundleProtocol]
  generalize KvBackend.get slot.1 slot.2 left = outcome at same ⊢
  generalize KvBackend.get slot.1 slot.2 right = outcome' at same ⊢
  obtain ⟨result, left'⟩ := outcome
  obtain ⟨result', right'⟩ := outcome'
  obtain rfl : result = result' := same
  obtain _ | _ | bytes := result
  · rfl
  · rfl
  · dsimp only
    split <;> rfl

end AnswersFrom

/-- The record a read loads; a read that lists a dictionary loads no single one. -/
def StoreRead.loads : StoreRead presage → Option LogicalRecord
  | .loadRegistrationData | .isRegistered | .getLocalRegistrationId => some (.state .registration)
  | .senderCertificate => some (.state .senderCertificate)
  | .fetchMasterKey => some (.state .masterKey)
  | .getIdentityKeyPair .aci => some (.state .aciIdentityKeyPair)
  | .getIdentityKeyPair .pni => some (.state .pniIdentityKeyPair)
  | .profile uuid key => some (.profile uuid key)
  | .profileAvatar uuid key => some (.profileAvatar uuid key)
  | .profileKey serviceId => some (.profileKey serviceId.rawUuid)
  | .contactById id => some (.contact id.rawUuid)
  | .group masterKey => some (.group masterKey)
  | .groupAvatar masterKey => some (.groupAvatar masterKey)
  | .stickerPack id => some (.stickerPack id)
  | .message thread timestamp => some (.message thread timestamp)
  | .getIdentity identity address | .isTrustedIdentity identity _ address _ =>
      some (.protocol identity (.peerIdentity address))
  | .getPreKey identity _ | .nextPreKeyId identity => some (.protocol identity .preKeyBundle)
  | .getSignedPreKey identity id => some (.protocol identity (.signedPreKey id))
  | .getKyberPreKey identity id => some (.protocol identity (.kyberPreKey id))
  | .loadSenderKey identity sender distributionId =>
      some (.protocol identity (.senderKey sender distributionId))
  | .loadSession _ identity address => some (.protocol identity (.session address.name))
  | .getSubDeviceSessions identity name =>
      some (.protocol identity (.session name.rawUuid.toString))
  | .hasAccountState | .contacts | .groups | .stickerPacks | .messages _ _
  | .loadLastResortKyberPreKeys _ | .nextSignedPreKeyId _ | .nextPqPreKeyId _
  | .signedPreKeysCount _ | .kyberPreKeysCount _ _ | .signedPrekeyId _
  | .lastResortKyberPrekeyId _ => none

/-- The records a write saves or deletes. A flush saves the addresses with a dirty session, and
a used Kyber pre-key is deleted or entered in the dedup table. The clears name no record: they
count as touching all of them.
-/
def StoreWrite.touches (store : PddbStore β ρ) : StoreWrite presage ρ → Set LogicalRecord
  | .setAciIdentityKeyPair _ => {.state .aciIdentityKeyPair}
  | .setPniIdentityKeyPair _ => {.state .pniIdentityKeyPair}
  | .saveRegistrationData _ => {.state .registration}
  | .saveSenderCertificate _ => {.state .senderCertificate}
  | .storeMasterKey _ => {.state .masterKey}
  | .saveProfile uuid key _ => {.profile uuid key}
  | .saveProfileAvatar uuid key _ => {.profileAvatar uuid key}
  | .upsertProfileKey uuid _ => {.profileKey uuid}
  | .saveContact contact => {.contact (presage.contactUuid contact)}
  | .saveGroup masterKey _ => {.group masterKey}
  | .saveGroupAvatar masterKey _ => {.groupAvatar masterKey}
  | .addStickerPack pack => {.stickerPack (presage.stickerPackId pack)}
  | .removeStickerPack id => {.stickerPack id}
  | .saveMessage thread message => {.message thread message.metadata.timestamp}
  | .deleteMessage thread timestamp => {.message thread timestamp}
  | .saveIdentity identity address _ => {.protocol identity (.peerIdentity address)}
  | .savePreKey identity _ _ | .removePreKey identity _ => {.protocol identity .preKeyBundle}
  | .saveSignedPreKey identity id _ => {.protocol identity (.signedPreKey id)}
  | .saveKyberPreKey identity id _ | .storeLastResortKyberPreKey identity id _
  | .removeKyberPreKey identity id => {.protocol identity (.kyberPreKey id)}
  | .markKyberPreKeyUsed identity kyberPrekeyId ecPrekeyId _ =>
      {.protocol identity (.kyberPreKey kyberPrekeyId),
        .protocol identity (.kyberMeta kyberPrekeyId ecPrekeyId)}
  | .storeSenderKey identity sender distributionId _ =>
      {.protocol identity (.senderKey sender distributionId)}
  | .storeSession identity address _ | .deleteSession _ identity address =>
      {.protocol identity (.session address.name)}
  | .deleteAllSessions identity address =>
      {.protocol identity (.session address.rawUuid.toString)}
  | .flushSessions _ =>
      {record | ∃ key ∈ store.sessionDirty.keys, record = .protocol key.1 (.session key.2.1)}
  | .clearRegistration | .clearProfiles | .clearContacts | .clearGroups | .clearThread _
  | .clearMessages | .clearContents | .clear => Set.univ

/-! Sessions are loaded from memory too -/

/-- Both caches hold the same sessions of this address. -/
def CachedAlike (identity : IdentityType) (name : String)
    (left right : FiniteMap SessionKey ρ)
    : Prop :=
  ∀ device, left.lookup (identity, name, device) = right.lookup (identity, name, device)

/-- Filling in a bundle ends alike, by induction on its entries. -/
theorem prefill_congr (format : RecordFormat ρ) {identity : IdentityType} {name : String}
    (entries : List (UInt32 × Bytes)) {left right : FiniteMap SessionKey ρ}
    (alike : CachedAlike identity name left right)
    : (PddbStore.prefill format identity name entries left).1
      = (PddbStore.prefill format identity name entries right).1 := by
  induction entries generalizing left right with
  | nil => rfl
  | cons entry rest ih =>
      obtain ⟨device, ser⟩ := entry
      simp only [PddbStore.prefill, alike device]
      split
      · exact ih alike
      · cases format.deserialize ser with
        | error e => rfl
        | ok record =>
            refine ih fun other => ?_
            rw [FiniteMap.lookup_insert', FiniteMap.lookup_insert', alike other]

theorem loadSession_congr (format : RecordFormat ρ) (order : HashOrder)
    (identity : IdentityType) (address : ProtocolAddress) {left right : PddbStore β ρ}
    (gets : (KvBackend.get (dictSession identity) address.name left.backend).1
      = (KvBackend.get (dictSession identity) address.name right.backend).1)
    (alike : CachedAlike identity address.name left.sessionCache right.sessionCache)
    : (PddbStore.loadSession format order identity address left).1
      = (PddbStore.loadSession format order identity address right).1 := by
  have same := AnswersFrom.bundle format (dictSession identity, address.name) gets
  have here := alike address.deviceId.id
  simp only [PddbStore.loadSession, PddbStore.onBackend, sessionKey]
  cases cached : right.sessionCache.lookup (identity, address.name, address.deviceId.id) with
  | some record => simp only [here, cached]
  | none =>
      simp only [here, cached]
      generalize backendGetSessionBundleProtocol format _ _ left.backend = outcome at same ⊢
      generalize backendGetSessionBundleProtocol format _ _ right.backend = outcome' at same ⊢
      obtain ⟨result, left'⟩ := outcome
      obtain ⟨result', right'⟩ := outcome'
      obtain rfl : result = result' := same
      obtain _ | _ | bundle := result
      · rfl
      · rfl
      · have filled := prefill_congr format (order.arrange (FiniteMap.pairs bundle)) alike
        dsimp only
        rw [filled]
        split
        · rfl
        · split <;> rfl

/-- A sorted list without repetitions is determined by its members. -/
theorem dedup_mergeSort_congr {left right : List UInt32}
    (same : ∀ device, device ∈ left ↔ device ∈ right)
    : (left.mergeSort (· ≤ ·)).dedup = (right.mergeSort (· ≤ ·)).dedup := by
  have sorted (devices : List UInt32)
      : (devices.mergeSort (· ≤ ·)).dedup.Pairwise (· ≤ ·) := by
    have all : (devices.mergeSort (· ≤ ·)).Pairwise (fun a b => decide (a ≤ b) = true) :=
      List.pairwise_mergeSort (by simpa using fun a b c => UInt32.le_trans)
        (by simpa using UInt32.le_total) devices
    exact (all.imp fun le => by simpa using le).sublist (List.dedup_sublist _)
  have perm : (left.mergeSort (· ≤ ·)).dedup.Perm (right.mergeSort (· ≤ ·)).dedup := by
    refine (List.perm_ext_iff_of_nodup (List.nodup_dedup _) (List.nodup_dedup _)).mpr ?_
    intro device
    simp [same device]
  exact perm.eq_of_pairwise (fun a b _ _ => UInt32.le_antisymm) (sorted left) (sorted right)

theorem getSubDeviceSessions_congr (format : RecordFormat ρ) (identity : IdentityType)
    (name : ServiceId) {left right : PddbStore β ρ}
    (gets : (KvBackend.get (dictSession identity) name.rawUuid.toString left.backend).1
      = (KvBackend.get (dictSession identity) name.rawUuid.toString right.backend).1)
    (alike : CachedAlike identity name.rawUuid.toString left.sessionCache right.sessionCache)
    : (PddbStore.getSubDeviceSessions format identity name left).1
      = (PddbStore.getSubDeviceSessions format identity name right).1 := by
  have same := AnswersFrom.bundle format (dictSession identity, name.rawUuid.toString) gets
  have devices (device : UInt32)
      : device ∈ PddbStore.cachedDevices identity name.rawUuid.toString left.sessionCache
        ↔ device ∈ PddbStore.cachedDevices identity name.rawUuid.toString right.sessionCache := by
    rw [PddbStore.mem_cachedDevices, PddbStore.mem_cachedDevices, FiniteMap.mem_iff_lookup,
      FiniteMap.mem_iff_lookup, alike device]
  simp only [PddbStore.getSubDeviceSessions, PddbStore.onBackend]
  generalize backendGetSessionBundleProtocol format _ _ left.backend = outcome at same ⊢
  generalize backendGetSessionBundleProtocol format _ _ right.backend = outcome' at same ⊢
  obtain ⟨result, left'⟩ := outcome
  obtain ⟨result', right'⟩ := outcome'
  obtain rfl : result = result' := same
  cases result with
  | error e => rfl
  | ok found =>
      dsimp only
      rw [dedup_mergeSort_congr]
      intro device
      simp [devices device]

-----------------------------------------------------------------------------------------
-- Writes
-----------------------------------------------------------------------------------------

section Writes

variable (kv : KvAtomic β)

/-- A usable backend with this value in the slot. -/
def Shows (slot : String × String) (value : Option Bytes) (backend : β) : Prop :=
  kv.Ready backend ∧ kv.view backend slot = value

namespace Shows

variable {kv} {slot : String × String} {value : Option Bytes}

theorem settled {ε α : Type} {backend : β} {outcome : Except ε α × β} {result : α}
    {after : View} (shows : Shows kv slot value backend)
    (call : AllOrNothing kv.Ready kv.view kv.MayFail (kv.view backend) outcome result after)
    (same : after slot = kv.view backend slot)
    : Shows kv slot value outcome.2 := by
  cases call with
  | done returns => exact ⟨returns.ready, by rw [returns.view, same, shows.2]⟩
  | failed e may result ready kept => exact ⟨ready, by rw [kept, shows.2]⟩

theorem get (dict key : String)
    : Keeps (Shows kv slot value) (KvBackend.get dict key : Call β (Option Bytes)) :=
  fun _ shows => shows.settled (kv.get shows.1 dict key) rfl

theorem put {dict key : String} (other : (dict, key) ≠ slot) (bytes : Bytes)
    : Keeps (Shows kv slot value) (KvBackend.put dict key bytes : Call β Unit) :=
  fun _ shows =>
    shows.settled (kv.put shows.1 dict key bytes) (Function.update_of_ne other.symm _ _)

theorem delete {dict key : String} (other : (dict, key) ≠ slot)
    : Keeps (Shows kv slot value) (KvBackend.delete dict key : Call β Unit) :=
  fun _ shows =>
    shows.settled (kv.delete shows.1 dict key) (Function.update_of_ne other.symm _ _)

theorem putJson (codec : JsonCodec τ) {dict key : String} (other : (dict, key) ≠ slot) (item : τ)
    : Keeps (Shows kv slot value) (backendPutJson codec dict key item : Call β Unit) :=
  (Keeps.lift _).andThen (fun bytes => put other bytes)

theorem putJsonProtocol (codec : JsonCodec τ) {dict key : String} (other : (dict, key) ≠ slot)
    (encodeContext : String) (item : τ)
    : Keeps (Shows kv slot value)
        (backendPutJsonProtocol codec dict key encodeContext item : ProtocolCall β Unit) := by
  intro backend shows
  unfold backendPutJsonProtocol
  split
  · exact shows
  · next bytes encoded =>
      have wrote := put other bytes shows
      generalize KvBackend.put dict key bytes backend = outcome at wrote ⊢
      rcases outcome with ⟨_ | _, next⟩ <;> exact wrote

theorem deleteProtocol {dict key : String} (other : (dict, key) ≠ slot)
    : Keeps (Shows kv slot value) (backendDeleteProtocol dict key : ProtocolCall β Unit) := by
  intro backend shows
  have gone := delete other shows
  unfold backendDeleteProtocol
  generalize KvBackend.delete dict key backend = outcome at gone ⊢
  rcases outcome with ⟨_ | _, next⟩ <;> exact gone

theorem getJsonProtocol (codec : JsonCodec τ) (dict key decodeContext : String)
    : Keeps (Shows kv slot value)
        (backendGetJsonProtocol codec dict key decodeContext : ProtocolCall β (Option τ)) := by
  intro backend shows
  have asked := get dict key shows
  unfold backendGetJsonProtocol
  generalize KvBackend.get dict key backend = outcome at asked ⊢
  rcases outcome with ⟨_ | _ | bytes, next⟩ <;> exact asked

theorem deleteExisting {dict key : String} (other : (dict, key) ≠ slot)
    : Keeps (Shows kv slot value) (Contents.deleteExisting dict key : Call β Bool) :=
  (get dict key).andThen (fun _ => (delete other).map _)

theorem storeEnvelope {identity : IdentityType} {id : UInt32}
    (other : (dictKyberPrekey identity, Kyber.envelopeKey id) ≠ slot)
    (record : presage.KyberPreKeyRecord) (isLastResort : Bool)
    : Keeps (Shows kv slot value)
        (Kyber.storeEnvelope presage.kyber identity id record isLastResort
          : ProtocolCall β Unit) := by
  intro backend shows
  unfold Kyber.storeEnvelope
  split
  · exact shows
  · exact putJsonProtocol _ other _ _ shows

/-- The envelope's slot may be deleted, or the pair's slot in the dedup table be written. -/
theorem markKyberPreKeyUsed {identity : IdentityType} {kyberPrekeyId ecPrekeyId : UInt32}
    (envelope : (dictKyberPrekey identity, Kyber.envelopeKey kyberPrekeyId) ≠ slot)
    (pair : (dictKyberMeta identity, Kyber.metaKey kyberPrekeyId ecPrekeyId) ≠ slot)
    (baseKey : PublicKey)
    : Keeps (Shows kv slot value)
        (Kyber.markKyberPreKeyUsed presage.kyber identity kyberPrekeyId ecPrekeyId baseKey
          : ProtocolCall β Unit) := by
  intro backend shows
  have loaded := getJsonProtocol presage.kyber.envelope (dictKyberPrekey identity)
    (Kyber.envelopeKey kyberPrekeyId) "decode kyber envelope" shows
  change Shows kv slot value
    (Kyber.loadEnvelope presage.kyber identity kyberPrekeyId backend).2 at loaded
  unfold Kyber.markKyberPreKeyUsed
  generalize Kyber.loadEnvelope presage.kyber identity kyberPrekeyId backend = outcome
    at loaded ⊢
  rcases outcome with ⟨_ | _ | stored, next⟩
  · exact loaded
  · exact loaded
  · dsimp only at loaded ⊢
    split
    · have asked := get (dictKyberMeta identity) (Kyber.metaKey kyberPrekeyId ecPrekeyId) loaded
      generalize KvBackend.get (dictKyberMeta identity)
        (Kyber.metaKey kyberPrekeyId ecPrekeyId) next = outcome at asked ⊢
      rcases outcome with ⟨_ | prior, last⟩
      · exact asked
      · dsimp only at asked ⊢
        split
        · exact asked
        · have wrote := put pair baseKey.serialize asked
          generalize KvBackend.put _ _ _ last = outcome at wrote ⊢
          rcases outcome with ⟨_ | _, final⟩ <;> exact wrote
    · exact deleteProtocol envelope loaded

/-! Sessions -/

theorem getBundle (format : RecordFormat ρ) (dict key : String)
    : Keeps (Shows kv slot value)
        (backendGetSessionBundle format dict key : Call β (Option SessionBundle)) := by
  intro backend shows
  have asked := get dict key shows
  unfold backendGetSessionBundle
  generalize KvBackend.get dict key backend = outcome at asked ⊢
  rcases outcome with ⟨_ | _ | bytes, next⟩ <;> exact asked

theorem getBundleProtocol (format : RecordFormat ρ) (dict key : String)
    : Keeps (Shows kv slot value)
        (backendGetSessionBundleProtocol format dict key
          : ProtocolCall β (Option SessionBundle)) := by
  intro backend shows
  have asked := get dict key shows
  unfold backendGetSessionBundleProtocol
  generalize KvBackend.get dict key backend = outcome at asked ⊢
  rcases outcome with ⟨_ | _ | bytes, next⟩
  · exact asked
  · exact asked
  · dsimp only at asked ⊢
    split <;> exact asked

theorem putBundleProtocol (order : HashOrder) {dict key : String} (other : (dict, key) ≠ slot)
    (bundle : SessionBundle)
    : Keeps (Shows kv slot value)
        (backendPutSessionBundleProtocol order dict key bundle : ProtocolCall β Unit) := by
  intro backend shows
  have wrote := put other (serializeSessionBundle order bundle) shows
  unfold backendPutSessionBundleProtocol
  generalize KvBackend.put dict key _ backend = outcome at wrote ⊢
  rcases outcome with ⟨_ | _, next⟩ <;> exact wrote

theorem dropDevice (format : RecordFormat ρ) (order : HashOrder) (key : SessionKey)
    (other : (dictSession key.1, key.2.1) ≠ slot)
    : Keeps (Shows kv slot value)
        (PddbStore.dropDevice format order key : ProtocolCall β Unit) := by
  intro backend shows
  have asked := getBundleProtocol format (dictSession key.1) key.2.1 shows
  unfold PddbStore.dropDevice
  generalize backendGetSessionBundleProtocol format _ _ backend = outcome at asked ⊢
  rcases outcome with ⟨_ | _ | bundle, next⟩
  · exact asked
  · exact asked
  · dsimp only at asked ⊢
    split
    · exact asked
    · split
      · exact deleteProtocol other asked
      · exact putBundleProtocol order other _ asked

theorem dropAddress (format : RecordFormat ρ) (address : IdentityType × String)
    (other : (dictSession address.1, address.2) ≠ slot)
    : Keeps (Shows kv slot value)
        (PddbStore.dropAddress format address : ProtocolCall β SessionBundle) := by
  intro backend shows
  have asked := getBundleProtocol format (dictSession address.1) address.2 shows
  unfold PddbStore.dropAddress
  generalize backendGetSessionBundleProtocol format _ _ backend = outcome at asked ⊢
  rcases outcome with ⟨_ | _ | bundle, next⟩
  · exact asked
  · exact asked
  · have gone := deleteProtocol other asked
    dsimp only at gone ⊢
    generalize backendDeleteProtocol _ _ next = outcome at gone ⊢
    rcases outcome with ⟨_ | _, last⟩ <;> exact gone

/-- By induction on the groups, each of which reads and writes its own slot. -/
theorem writeGroups (format : RecordFormat ρ) (order : IdentityType × String → HashOrder)
    {groups : List ((IdentityType × String) × List (UInt32 × Bytes))}
    (others : ∀ group ∈ groups, (dictSession group.1.1, group.1.2) ≠ slot) (written : Nat)
    : Keeps (Shows kv slot value)
        (PddbStore.writeGroups format order groups written : Call β Nat) := by
  induction groups generalizing written with
  | nil => exact fun _ shows => shows
  | cons group rest ih =>
      obtain ⟨other, others⟩ := List.forall_mem_cons.mp others
      intro backend shows
      have asked := getBundle format (dictSession group.1.1) group.1.2 shows
      unfold PddbStore.writeGroups
      dsimp only
      generalize backendGetSessionBundle format _ _ backend = outcome at asked ⊢
      rcases outcome with ⟨_ | found, next⟩
      · exact asked
      · have wrote := put other (serializeSessionBundle (order group.1)
          (FiniteMap.insertAll (found.getD ∅) group.2)) asked
        change Shows kv slot value (backendPutSessionBundle _ _ _ _ next).2 at wrote
        dsimp only at wrote ⊢
        generalize backendPutSessionBundle _ _ _ _ next = outcome at wrote ⊢
        rcases outcome with ⟨_ | _, last⟩
        · exact wrote
        · exact ih others _ wrote

end Shows

/-- Every group of a flush is a dirty key's address, by induction on the keys. -/
theorem groupDirty_addresses {format : RecordFormat ρ} {cache : FiniteMap SessionKey ρ}
    {keys : List SessionKey} {groups collected : PddbStore.SessionGroups}
    (grouped : PddbStore.groupDirty format cache keys groups = .ok collected)
    : ∀ address ∈ collected, address ∈ groups ∨ ∃ key ∈ keys, (key.1, key.2.1) = address := by
  induction keys generalizing groups with
  | nil =>
      cases grouped
      exact fun address listed => .inl listed
  | cons key rest ih =>
      unfold PddbStore.groupDirty at grouped
      have later {address : IdentityType × String}
          (here : ∃ key ∈ rest, (key.1, key.2.1) = address)
          : ∃ other ∈ key :: rest, (other.1, other.2.1) = address :=
        here.imp fun _ both => ⟨List.mem_cons_of_mem _ both.1, both.2⟩
      split at grouped
      · exact fun address listed => (ih grouped address listed).imp_right later
      · split at grouped
        · cases grouped
        · intro address listed
          rcases ih grouped address listed with inserted | here
          · rcases (AList.mem_insert _).mp inserted with rfl | old
            · exact .inr ⟨key, List.mem_cons_self, rfl⟩
            · exact .inl old
          · exact .inr (later here)

end Writes

-----------------------------------------------------------------------------------------
-- Every write and every load
-----------------------------------------------------------------------------------------

/-- The sessions in memory that belong to a record agree. -/
def MemoryAlike (record : LogicalRecord) (left right : FiniteMap SessionKey ρ) : Prop :=
  ∀ identity name, record = .protocol identity (.session name)
    → CachedAlike identity name left right

/-- A load answers alike on stores that agree on its record, by cases on the load. -/
theorem StoreRead.perform_congr (format : RecordFormat ρ) {read : StoreRead presage}
    {record : LogicalRecord} (loads : read.loads = some record) {left right : PddbStore β ρ}
    (gets : (KvBackend.get (record.slot presage).1 (record.slot presage).2 left.backend).1
      = (KvBackend.get (record.slot presage).1 (record.slot presage).2 right.backend).1)
    (memory : MemoryAlike record left.sessionCache right.sessionCache)
    : (read.perform format left).1 = (read.perform format right).1 := by
  have peer (identity : IdentityType) (address : ProtocolAddress)
      : AnswersFrom (dictIdentity identity, Records.identityKey address)
          (Records.getIdentity presage identity address : ProtocolCall β _) :=
    ((AnswersFrom.get (dictIdentity identity, Records.identityKey address)).mapError
      protocolBackendErr).andThen (fun found => by cases found <;> exact ⟨_, rfl⟩)
  have keyPair (identity : IdentityType)
      : AnswersFrom (dictState, Records.stateKeyIdentityKeyPair identity)
          (Records.getIdentityKeyPair presage identity : ProtocolCall β _) :=
    ((AnswersFrom.get (dictState, Records.stateKeyIdentityKeyPair identity)).mapError
      protocolBackendErr).andThen (fun found => by cases found <;> exact ⟨_, rfl⟩)
  have preKeys (identity : IdentityType)
      : AnswersFrom (dictPrekeyBundle identity, Records.prekeyBundleKey)
          (Records.loadBundle presage identity : ProtocolCall β _) :=
    (AnswersFrom.jsonProtocol presage.preKeyBundle
      (dictPrekeyBundle identity, Records.prekeyBundleKey) "decode prekey bundle").map _
  cases read with
  | loadRegistrationData =>
      cases loads
      exact AnswersFrom.json presage.registrationData (dictState, State.keyRegistration) gets
  | senderCertificate =>
      cases loads
      exact (AnswersFrom.get (dictState, State.keySenderCertificate)).andThen
        (fun found => by cases found <;> exact ⟨_, rfl⟩) gets
  | isRegistered =>
      cases loads
      have same := AnswersFrom.json presage.registrationData (dictState, State.keyRegistration) gets
      change (State.isRegistered presage left.backend).1
        = (State.isRegistered presage right.backend).1
      simp only [State.isRegistered, State.loadRegistrationData, same]
  | fetchMasterKey =>
      cases loads
      exact (AnswersFrom.get (dictState, State.keyMasterKey)).andThen
        (fun found => by cases found <;> exact ⟨_, rfl⟩) gets
  | profile uuid key =>
      cases loads
      exact AnswersFrom.json presage.profile
        (Contents.dictProfiles, Contents.profileDictKey presage uuid key) gets
  | profileAvatar uuid key =>
      cases loads
      exact gets
  | profileKey serviceId =>
      cases loads
      exact AnswersFrom.json presage.profileKey
        (Contents.dictProfileKeys, serviceId.rawUuid.toString) gets
  | contactById id =>
      cases loads
      exact AnswersFrom.json presage.contact (Contents.dictContacts, id.rawUuid.toString) gets
  | group masterKey =>
      cases loads
      exact AnswersFrom.json presage.group (Contents.dictGroups, Contents.groupKey masterKey) gets
  | groupAvatar masterKey =>
      cases loads
      exact gets
  | stickerPack id =>
      cases loads
      exact AnswersFrom.json presage.stickerPack
        (Contents.dictStickerPacks, Contents.stickerPackKey id) gets
  | message thread timestamp =>
      cases loads
      exact (AnswersFrom.json presage.storedMessage
        (Contents.threadDictName presage thread, Contents.messageKey timestamp)).andThen
        (fun found => by cases found <;> exact ⟨_, rfl⟩) gets
  | getIdentityKeyPair identity =>
      cases identity <;> cases loads <;> exact keyPair _ gets
  | getLocalRegistrationId =>
      cases loads
      exact ((AnswersFrom.json presage.registrationData
        (dictState, State.keyRegistration)).mapError _).andThen
        (fun found => by cases found <;> exact ⟨_, rfl⟩) gets
  | getIdentity identity address =>
      cases loads
      exact peer identity address gets
  | isTrustedIdentity identity trustNewIdentities address key =>
      cases loads
      exact (peer identity address).map _ gets
  | getPreKey identity id =>
      cases loads
      exact (preKeys identity).andThen (fun bundle => by split <;> exact ⟨_, rfl⟩) gets
  | nextPreKeyId identity =>
      cases loads
      exact ((preKeys identity).map _).map _ gets
  | getSignedPreKey identity id =>
      cases loads
      exact ((AnswersFrom.get (dictSignedPrekey identity, Records.signedPreKeyKey id)).mapError
        protocolBackendErr).andThen (fun found => by cases found <;> exact ⟨_, rfl⟩) gets
  | getKyberPreKey identity id =>
      cases loads
      exact AnswersFrom.kyberPreKey identity id gets
  | loadSenderKey identity sender distributionId =>
      cases loads
      exact ((AnswersFrom.get (dictSenderKey identity,
        Records.senderKeyKey sender distributionId)).mapError protocolBackendErr).andThen
        (fun found => by cases found <;> exact ⟨_, rfl⟩) gets
  | loadSession order identity address =>
      cases loads
      exact loadSession_congr format order identity address gets (memory _ _ rfl)
  | getSubDeviceSessions identity name =>
      cases loads
      exact getSubDeviceSessions_congr format identity name gets (memory _ _ rfl)
  -- a listing loads no single record
  | hasAccountState | contacts | groups | stickerPacks | messages thread range
  | loadLastResortKyberPreKeys identity | nextSignedPreKeyId identity
  | nextPqPreKeyId identity | signedPreKeysCount identity
  | kyberPreKeysCount identity lastResort | signedPrekeyId identity
  | lastResortKyberPrekeyId identity => cases loads

/-- Forgetting or adding sessions of one address leaves those of a record elsewhere. -/
theorem memoryAlike_of_address {record : LogicalRecord} {identity : IdentityType} {name : String}
    (other : (LogicalRecord.protocol identity (.session name)).slot presage ≠ record.slot presage)
    {left right : FiniteMap SessionKey ρ}
    (alike : ∀ key : SessionKey, (key.1, key.2.1) ≠ (identity, name)
      → left.lookup key = right.lookup key)
    : MemoryAlike record left right := by
  rintro identity' name' rfl device
  refine alike _ fun same => other ?_
  obtain ⟨rfl, rfl⟩ := Prod.mk.inj same
  rfl

/-- A write that touches records in other slots leaves this slot and the sessions of this record,
by cases on the write.
-/
theorem StoreWrite.perform_frame (kv : KvAtomic β) (format : RecordFormat ρ)
    {store : PddbStore β ρ} (ready : kv.Ready store.backend) (write : StoreWrite presage ρ)
    {record : LogicalRecord}
    (others : ∀ touched ∈ write.touches store, touched.slot presage ≠ record.slot presage)
    : Shows kv (record.slot presage) (kv.view store.backend (record.slot presage))
        (write.perform format store).backend
      ∧ MemoryAlike record (write.perform format store).sessionCache store.sessionCache := by
  have shows : Shows kv (record.slot presage) (kv.view store.backend (record.slot presage))
      store.backend := ⟨ready, rfl⟩
  have sameMemory : MemoryAlike record store.sessionCache store.sessionCache :=
    fun _ _ _ _ => rfl
  have everything {α : Prop} (all : write.touches store = Set.univ) : α :=
    absurd rfl (others record (all ▸ Set.mem_univ record))
  cases write with
  | setAciIdentityKeyPair keyPair => exact ⟨Shows.put (others _ rfl) _ shows, sameMemory⟩
  | setPniIdentityKeyPair keyPair => exact ⟨Shows.put (others _ rfl) _ shows, sameMemory⟩
  | saveRegistrationData state => exact ⟨Shows.putJson _ (others _ rfl) _ shows, sameMemory⟩
  | saveSenderCertificate certificate =>
      exact ⟨(Keeps.lift _).andThen (fun bytes => Shows.put (others _ rfl) bytes) shows,
        sameMemory⟩
  | storeMasterKey masterKey =>
      refine ⟨?_, sameMemory⟩
      cases masterKey with
      | none => exact Shows.delete (others _ rfl) shows
      | some key => exact Shows.put (others _ rfl) _ shows
  | saveProfile uuid key profile => exact ⟨Shows.putJson _ (others _ rfl) _ shows, sameMemory⟩
  | saveProfileAvatar uuid key avatar => exact ⟨Shows.put (others _ rfl) _ shows, sameMemory⟩
  | upsertProfileKey uuid key =>
      exact ⟨(Shows.get _ _).andThen (fun _ => (Shows.putJson _ (others _ rfl) _).map _) shows,
        sameMemory⟩
  | saveContact contact => exact ⟨Shows.putJson _ (others _ rfl) _ shows, sameMemory⟩
  | saveGroup masterKey group => exact ⟨Shows.putJson _ (others _ rfl) _ shows, sameMemory⟩
  | saveGroupAvatar masterKey avatar => exact ⟨Shows.put (others _ rfl) _ shows, sameMemory⟩
  | addStickerPack pack => exact ⟨Shows.putJson _ (others _ rfl) _ shows, sameMemory⟩
  | removeStickerPack id => exact ⟨Shows.deleteExisting (others _ rfl) shows, sameMemory⟩
  | saveMessage thread message => exact ⟨Shows.putJson _ (others _ rfl) _ shows, sameMemory⟩
  | deleteMessage thread timestamp =>
      exact ⟨Shows.deleteExisting (others _ rfl) shows, sameMemory⟩
  | saveIdentity identity address key =>
      exact ⟨((Shows.get _ _).mapError _).andThen
        (fun _ => ((Shows.put (others _ rfl) _).mapError _).map _) shows, sameMemory⟩
  | savePreKey identity id item =>
      exact ⟨(Keeps.lift _).andThen (fun bytes =>
        ((Shows.getJsonProtocol _ _ _ _).map _).andThen
          (fun bundle => Shows.putJsonProtocol _ (others _ rfl) _ _)) shows, sameMemory⟩
  | removePreKey identity id =>
      exact ⟨((Shows.getJsonProtocol _ _ _ _).map _).andThen
        (fun bundle => Shows.putJsonProtocol _ (others _ rfl) _ _) shows, sameMemory⟩
  | saveSignedPreKey identity id item =>
      exact ⟨(Keeps.lift _).andThen
        (fun bytes => (Shows.put (others _ rfl) bytes).mapError _) shows, sameMemory⟩
  | saveKyberPreKey identity id item =>
      exact ⟨Shows.storeEnvelope (others _ rfl) item false shows, sameMemory⟩
  | storeLastResortKyberPreKey identity id item =>
      exact ⟨Shows.storeEnvelope (others _ rfl) item true shows, sameMemory⟩
  | markKyberPreKeyUsed identity kyberPrekeyId ecPrekeyId baseKey =>
      exact ⟨Shows.markKyberPreKeyUsed (others _ (.inl rfl)) (others _ (.inr rfl)) baseKey shows,
        sameMemory⟩
  | removeKyberPreKey identity id =>
      exact ⟨Shows.deleteProtocol (others _ rfl) shows, sameMemory⟩
  | storeSenderKey identity sender distributionId item =>
      exact ⟨(Keeps.lift _).andThen
        (fun bytes => (Shows.put (others _ rfl) bytes).mapError _) shows, sameMemory⟩
  | storeSession identity address item =>
      refine ⟨shows, memoryAlike_of_address (others _ rfl) fun key elsewhere => ?_⟩
      refine (FiniteMap.lookup_insert' ..).trans (if_neg ?_)
      rintro rfl
      exact elsewhere rfl
  | deleteSession order identity address =>
      simp only [perform, PddbStore.deleteSession_eq, PddbStore.onBackend]
      refine ⟨Shows.dropDevice format order (sessionKey identity address) (others _ rfl) shows,
        memoryAlike_of_address (others _ rfl) fun key elsewhere => ?_⟩
      refine (FiniteMap.lookup_erase' ..).trans (if_neg ?_)
      rintro rfl
      exact elsewhere rfl
  | deleteAllSessions identity address =>
      simp only [perform, PddbStore.deleteAllSessions_eq]
      refine ⟨Shows.dropAddress format (identity, address.rawUuid.toString) (others _ rfl) shows,
        memoryAlike_of_address (others _ rfl) fun key elsewhere => ?_⟩
      rw [FiniteMap.lookup_retain]
      refine if_pos ?_
      simpa [imp_iff_not_or] using elsewhere
  | flushSessions order =>
      simp only [perform, PddbStore.flushSessions, PddbStore.onBackend]
      split
      · exact ⟨shows, sameMemory⟩
      · split
        · exact ⟨shows, sameMemory⟩
        · next groups grouped =>
            have elsewhere : ∀ group ∈ order.groups.arrange (FiniteMap.pairs groups),
                (dictSession group.1.1, group.1.2) ≠ record.slot presage := by
              intro group listed
              have present : group.1 ∈ groups :=
                FiniteMap.mem_iff_lookup.mpr
                  ⟨group.2, FiniteMap.mem_pairs.mp ((HashOrder.mem_arrange _).mp listed)⟩
              rcases groupDirty_addresses grouped group.1 present with nowhere | here
              · cases nowhere
              · obtain ⟨key, dirty, same⟩ := here
                have listed := (HashOrder.mem_arrange _).mp dirty
                rw [← same]
                exact others _ ⟨key, listed, rfl⟩
            have wrote := Shows.writeGroups format order.bundle elsewhere 0 shows
            generalize PddbStore.writeGroups format _ _ _ store.backend = outcome at wrote ⊢
            rcases outcome with ⟨_ | written, next⟩ <;> exact ⟨wrote, sameMemory⟩
  | clearRegistration | clearProfiles | clearContacts | clearGroups | clearThread thread
  | clearMessages | clearContents | clear => exact everything rfl

/-- No other record shares a record's slot, and writing others, whether it succeeds or fails,
leaves its bytes: a load that is not met by a failing backend returns what it returned before.
The hash is only asked to tell the records at hand apart.
-/
theorem records_do_not_interfere (presage : Presage) (format : RecordFormat ρ) (kv : KvAtomic β)
    (store : PddbStore β ρ) (ready : kv.Ready store.backend) (record : LogicalRecord)
    : (∀ other : LogicalRecord, other ≠ record → other.Apart presage record
        → other.slot presage ≠ record.slot presage)
      ∧ ∀ write : StoreWrite presage ρ,
        (∀ touched ∈ write.touches store, touched ≠ record ∧ touched.Apart presage record)
        → let slot := record.slot presage
          let after := write.perform format store
          kv.view after.backend slot = kv.view store.backend slot
          ∧ ∀ read : StoreRead presage, read.loads = some record
            → (∀ e, (KvBackend.get slot.1 slot.2 store.backend).1 ≠ .error e)
            → (∀ e, (KvBackend.get slot.1 slot.2 after.backend).1 ≠ .error e)
            → (read.perform format after).1 = (read.perform format store).1 := by
  refine ⟨fun other distinct apart same => distinct (LogicalRecord.slot_injective apart same),
    fun write others => ?_⟩
  intro slot after
  obtain ⟨⟨readyAfter, stored⟩, memory⟩ := write.perform_frame kv format ready
    fun touched here same =>
      (others touched here).1 (LogicalRecord.slot_injective (others touched here).2 same)
  refine ⟨stored, fun read loads working workingAfter => ?_⟩
  -- a call that does not fail answers what the backend shows
  have shown {backend : β} (ready : kv.Ready backend)
      (working : ∀ e, (KvBackend.get slot.1 slot.2 backend).1 ≠ .error e)
      : (KvBackend.get slot.1 slot.2 backend).1 = .ok (kv.view backend slot) := by
    cases kv.get ready slot.1 slot.2 with
    | done returns => exact returns.result
    | failed e may result => exact absurd result (working e)
  refine StoreRead.perform_congr format loads ?_ memory
  rw [shown readyAfter workingAfter, shown ready working, stored]

/-- A name may look like another name with a device behind it. -/
theorem records_do_not_interfere_dotted
    : let address : ProtocolAddress := ⟨"alice", defaultDeviceId⟩
      let lookalike : ProtocolAddress := ⟨"alice.1", defaultDeviceId⟩
      let store : PddbStore InnerBackend UInt8 :=
        .new { map := (∅ : FiniteMap _ _).insert (dictIdentity .aci, "alice.1") [7] }
      let write : StoreWrite Presage.plain UInt8 := .saveIdentity .aci lookalike [9]
      let read : StoreRead Presage.plain := .getIdentity .aci address
      (read.perform .oneByte (write.perform .oneByte store)).1
        = (read.perform .oneByte store).1 := by
  intro address lookalike store write read
  have apart : ∀ touched ∈ write.touches store,
      touched ≠ .protocol .aci (.peerIdentity address)
      ∧ touched.Apart Presage.plain (.protocol .aci (.peerIdentity address)) := by
    rintro touched rfl
    refine ⟨by decide, ?_⟩
    rintro bytes ⟨⟩
  refine ((records_do_not_interfere Presage.plain .oneByte InnerBackend.atomic store
    FaultPlan.putsKeep_default (.protocol .aci (.peerIdentity address))).2 write apart).2 read rfl ?_ ?_
  · intro e failed
    cases failed
  · intro e failed
    cases failed

end XousAppSignal.Store
