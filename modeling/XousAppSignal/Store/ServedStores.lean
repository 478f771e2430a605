import XousAppSignal.Library.Listings
import XousAppSignal.Store.ServedCalls
import XousAppSignal.Store.StoreReads

/-! Stores over backends that cannot be told apart by calls with served names: every write of
records with served names leaves them alike, and every read answers alike, a listing in any
order.
-/

namespace XousAppSignal.Store

variable {α β ρ τ : Type} [KvBackend α] [KvBackend β] {limits : NameLimits}
  {R : α → β → Prop} {presage : Presage}

/-- The names that the store makes up are served. -/
structure NameLimits.Covers (limits : NameLimits) (presage : Presage) : Prop where
  dict : ∀ {dict}, ReadDict presage dict → limits.dict dict
  message : ∀ timestamp, limits.key (Contents.messageKey timestamp)
  envelope : ∀ id, limits.key (Kyber.envelopeKey id)

/-- The records of a write have served names; a clear names no record. -/
def StoreWrite.Served (limits : NameLimits) (store : PddbStore β ρ)
    : StoreWrite presage ρ → Prop
  | .clearRegistration | .clearProfiles | .clearContacts | .clearGroups | .clearThread _
  | .clearMessages | .clearContents | .clear => True
  | write => ∀ record ∈ write.touches store, limits.Allows (record.slot presage)

/-- The record that a read loads, if it loads a single one, has served names. -/
def StoreRead.Served (limits : NameLimits) (read : StoreRead presage) : Prop :=
  ∀ record, read.loads = some record → limits.Allows (record.slot presage)

/-- What a read answers on alike stores: the same, but for the order of a listing. Where one of
several listed records fails to decode, either of their errors may be reported.
-/
def StoreRead.Agree : (read : StoreRead presage) → read.Answer ρ → read.Answer ρ → Prop
  | .contacts | .groups | .stickerPacks | .loadLastResortKyberPreKeys _ => UpTo List.Perm
  | .kyberPreKeysCount _ true | .lastResortKyberPrekeyId _ => UpTo Eq
  | _ => Eq

/-- Stores over related backends, with the same sessions in memory. -/
structure Twins (R : α → β → Prop) (left : PddbStore α ρ) (right : PddbStore β ρ) : Prop where
  backend : R left.backend right.backend
  sessionCache : left.sessionCache = right.sessionCache
  sessionDirty : left.sessionDirty = right.sessionDirty

-----------------------------------------------------------------------------------------
-- Writes
-----------------------------------------------------------------------------------------

omit [KvBackend α] [KvBackend β] in
theorem Twins.write {ε γ : Type} {call : Attempt α ε γ} {call' : Attempt β ε γ}
    (alike : Alike R call call') {left : PddbStore α ρ} {right : PddbStore β ρ}
    (twins : Twins R left right)
    : Twins R (StoreWrite.perform.on left call) (StoreWrite.perform.on right call') :=
  ⟨(alike twins.backend).2, twins.sessionCache, twins.sessionDirty⟩

namespace CallsAlike

variable (alike : CallsAlike limits R)

include alike

theorem preKeys {identity : IdentityType}
    (allows : limits.Allows (dictPrekeyBundle identity, Records.prekeyBundleKey))
    : AskAlike R (Records.loadBundle presage identity) (Records.loadBundle presage identity) :=
  (alike.jsonProtocol presage.preKeyBundle allows "decode prekey bundle").map _

theorem savePreKeys {identity : IdentityType}
    (allows : limits.Allows (dictPrekeyBundle identity, Records.prekeyBundleKey))
    (bundle : List (UInt32 × Bytes))
    : Alike R (Records.saveBundle presage identity bundle)
        (Records.saveBundle presage identity bundle) :=
  alike.putJsonProtocol presage.preKeyBundle allows "encode prekey bundle" bundle

/-- A flush writes the addresses of the dirty sessions. -/
theorem flushSessions (format : RecordFormat ρ) (order : FlushOrder)
    {left : PddbStore α ρ} {right : PddbStore β ρ} (twins : Twins R left right)
    (served : ∀ key ∈ left.sessionDirty.keys, limits.Allows (dictSession key.1, key.2.1))
    : (left.flushSessions format order).1 = (right.flushSessions format order).1
      ∧ Twins R (left.flushSessions format order).2 (right.flushSessions format order).2 := by
  obtain ⟨a, cache, dirty⟩ := left
  obtain ⟨b, cache', dirty'⟩ := right
  obtain ⟨related, caches, dirties⟩ := twins
  dsimp only at related caches dirties served
  subst caches dirties
  simp only [PddbStore.flushSessions, PddbStore.onBackend]
  split
  · exact ⟨rfl, related, rfl, rfl⟩
  · split
    · exact ⟨rfl, related, rfl, rfl⟩
    · next groups grouped =>
        have allows : ∀ group ∈ order.groups.arrange (FiniteMap.pairs groups),
            limits.Allows (dictSession group.1.1, group.1.2) := by
          intro group listed
          have present : group.1 ∈ groups :=
            FiniteMap.mem_iff_lookup.mpr
              ⟨group.2, FiniteMap.mem_pairs.mp ((HashOrder.mem_arrange _).mp listed)⟩
          rcases groupDirty_addresses grouped group.1 present with nowhere | ⟨key, dirty, same⟩
          · cases nowhere
          · rw [← same]
            exact served key ((HashOrder.mem_arrange _).mp dirty)
        obtain ⟨result, a', b', wrote, wrote', left_behind⟩ :=
          (alike.writeGroups format order.bundle allows 0).outcomes related
        simp only [wrote, wrote']
        cases result <;> exact ⟨rfl, left_behind, rfl, rfl⟩

end CallsAlike

/-- A write of records with served names leaves alike stores alike, by cases on the write. -/
theorem StoreWrite.perform_twins (alike : CallsAlike limits R) (covers : limits.Covers presage)
    (format : RecordFormat ρ) {left : PddbStore α ρ} {right : PddbStore β ρ}
    (twins : Twins R left right) {write : StoreWrite presage ρ} (served : write.Served limits left)
    : Twins R (write.perform format left) (write.perform format right) := by
  have cleared {dicts : List String} (listed : ∀ dict ∈ dicts, dict ∈ clearedDicts)
      : Alike R (Store.deleteDicts dicts) (Store.deleteDicts dicts) :=
    alike.deleteDicts (fun dict member => covers.dict (.inl (listed dict member)))
  have contents {dict : String} (listed : dict ∈ contentsDicts) : limits.dict dict :=
    covers.dict (.contents presage listed)
  cases write with
  | setAciIdentityKeyPair keyPair => exact twins.write (alike.put (served _ rfl) _)
  | setPniIdentityKeyPair keyPair => exact twins.write (alike.put (served _ rfl) _)
  | saveRegistrationData state => exact twins.write (alike.putJson _ (served _ rfl) _)
  | saveSenderCertificate certificate =>
      exact twins.write ((Alike.lift _).andThen (fun bytes => alike.put (served _ rfl) bytes))
  | clearRegistration => exact twins.write (alike.deleteDict (covers.dict (.state presage)))
  | storeMasterKey masterKey =>
      cases masterKey with
      | none => exact twins.write (alike.delete (served _ rfl))
      | some key => exact twins.write (alike.put (served _ rfl) _)
  | saveProfile uuid key profile => exact twins.write (alike.putJson _ (served _ rfl) _)
  | saveProfileAvatar uuid key avatar => exact twins.write (alike.put (served _ rfl) _)
  | upsertProfileKey uuid key =>
      exact twins.write ((alike.get (served _ rfl)).alike.andThen
        (fun _ => (alike.putJson _ (served _ rfl) _).map _))
  | clearProfiles =>
      exact twins.write (cleared fun dict member => contents_cleared (by
        revert dict
        decide))
  | saveContact contact => exact twins.write (alike.putJson _ (served _ rfl) _)
  | clearContacts => exact twins.write (alike.deleteDict (contents (by decide)))
  | saveGroup masterKey group => exact twins.write (alike.putJson _ (served _ rfl) _)
  | saveGroupAvatar masterKey avatar => exact twins.write (alike.put (served _ rfl) _)
  | clearGroups =>
      exact twins.write (cleared fun dict member => contents_cleared (by
        revert dict
        decide))
  | addStickerPack pack => exact twins.write (alike.putJson _ (served _ rfl) _)
  | removeStickerPack id => exact twins.write (alike.deleteExisting (served _ rfl))
  | saveMessage thread message => exact twins.write (alike.putJson _ (served _ rfl) _)
  | deleteMessage thread timestamp => exact twins.write (alike.deleteExisting (served _ rfl))
  | clearThread thread =>
      exact twins.write (alike.deleteDict (covers.dict (.thread presage thread)))
  | clearMessages => exact twins.write (.lift _)
  | clearContents =>
      refine twins.write ((cleared fun dict member => contents_cleared ?_).andThen
        (fun _ => cleared fun dict member => contents_cleared ?_))
      · revert dict
        decide
      · revert dict
        decide
  | saveIdentity identity address key =>
      exact twins.write (((alike.get (served _ rfl)).mapError _).alike.andThen
        (fun _ => ((alike.put (served _ rfl) _).mapError _).map _))
  | savePreKey identity id record =>
      exact twins.write ((Alike.lift _).andThen (fun bytes =>
        (alike.preKeys (served _ rfl)).alike.andThen
          (fun bundle => alike.savePreKeys (served _ rfl) _)))
  | removePreKey identity id =>
      exact twins.write ((alike.preKeys (served _ rfl)).alike.andThen
        (fun bundle => alike.savePreKeys (served _ rfl) _))
  | saveSignedPreKey identity id record =>
      exact twins.write ((Alike.lift _).andThen
        (fun bytes => (alike.put (served _ rfl) bytes).mapError _))
  | saveKyberPreKey identity id record =>
      exact twins.write (alike.storeEnvelope _ (served _ rfl) record false)
  | storeLastResortKyberPreKey identity id record =>
      exact twins.write (alike.storeEnvelope _ (served _ rfl) record true)
  | markKyberPreKeyUsed identity kyberPrekeyId ecPrekeyId baseKey =>
      exact twins.write (alike.markKyberPreKeyUsed _ (served _ (.inl rfl)) (served _ (.inr rfl))
        baseKey)
  | removeKyberPreKey identity id => exact twins.write (alike.deleteProtocol (served _ rfl))
  | storeSenderKey identity sender distributionId record =>
      exact twins.write ((Alike.lift _).andThen
        (fun bytes => (alike.put (served _ rfl) bytes).mapError _))
  | storeSession identity address record =>
      simp only [perform, PddbStore.storeSession]
      exact ⟨twins.backend, by rw [twins.sessionCache], by rw [twins.sessionDirty]⟩
  | deleteSession order identity address =>
      simp only [perform, PddbStore.deleteSession_eq, PddbStore.onBackend]
      have allows : limits.Allows
          (dictSession (sessionKey identity address).1, (sessionKey identity address).2.1) :=
        served _ rfl
      have dropped := alike.dropDevice format order allows twins.backend
      exact ⟨dropped.2, by rw [twins.sessionCache], by rw [twins.sessionDirty]⟩
  | deleteAllSessions identity address =>
      simp only [perform, PddbStore.deleteAllSessions_eq]
      have allows : limits.Allows (dictSession identity, address.rawUuid.toString) :=
        served _ rfl
      have dropped := @CallsAlike.dropAddress _ _ _ _ _ _ _ format alike
        (identity, address.rawUuid.toString) allows _ _ twins.backend
      exact ⟨dropped.2, by rw [twins.sessionCache],
        by rw [twins.sessionCache, twins.sessionDirty]⟩
  | flushSessions order =>
      exact (alike.flushSessions format order twins fun key dirty => served _ ⟨key, dirty, rfl⟩).2
  | clear =>
      obtain ⟨result, a, b, dropped, dropped', left_behind⟩ :=
        (cleared fun dict member => member).outcomes twins.backend
      simp only [perform, PddbStore.clear, PddbStore.onBackend, dropped, dropped']
      cases result with
      | error e => exact ⟨left_behind, twins.sessionCache, twins.sessionDirty⟩
      | ok done => exact ⟨left_behind, rfl, rfl⟩

-----------------------------------------------------------------------------------------
-- Listings
-----------------------------------------------------------------------------------------

/-- Sorting forgets the order of the listing. -/
theorem listedTimestamps_perm (range : Contents.TimestampRange) {keys keys' : List String}
    (perm : keys.Perm keys')
    : Contents.listedTimestamps range keys = Contents.listedTimestamps range keys' := by
  have sorted (times : List UInt64) : (times.mergeSort (· ≤ ·)).Pairwise (· ≤ ·) := by
    have all : (times.mergeSort (· ≤ ·)).Pairwise (fun a b => decide (a ≤ b) = true) :=
      List.pairwise_mergeSort (by simpa using fun a b c => UInt64.le_trans)
        (by simpa using UInt64.le_total) times
    exact all.imp fun le => by simpa using le
  have same := (perm.filterMap (fun key => (fromStrRadix 64 16 key).map UInt64.ofNat)).filter
    (Contents.rangeContainsU64 range)
  exact ((List.mergeSort_perm _ _).trans (same.trans (List.mergeSort_perm _ _).symm)).eq_of_pairwise
    (fun a b _ _ => UInt64.le_antisymm) (sorted _) (sorted _)

namespace CallsAlike

variable (alike : CallsAlike limits R)

include alike

/-- Whether any dictionary lists a key, by induction on the dictionaries. -/
theorem listsAnyKey {dicts : List String} (served : ∀ dict ∈ dicts, limits.dict dict)
    : Alike R (Store.listsAnyKey dicts) (Store.listsAnyKey dicts) := by
  induction dicts with
  | nil => exact fun _ _ related => ⟨rfl, related⟩
  | cons dict rest ih =>
      obtain ⟨first, later⟩ := List.forall_mem_cons.mp served
      intro a b related
      obtain ⟨keys, keys', a', b', listed, listed', perm, -, left_behind⟩ :=
        alike.listKeys first related
      have empty : keys.isEmpty = keys'.isEmpty := by
        rw [Bool.eq_iff_iff, List.isEmpty_iff, List.isEmpty_iff, ← List.length_eq_zero_iff,
          ← List.length_eq_zero_iff, perm.length_eq]
      simp only [Store.listsAnyKey, listed, listed', empty]
      split
      · exact ih later left_behind
      · exact ⟨rfl, left_behind⟩

variable {a : α} {b : β} {dict : String}

/-- The same records of a dictionary, in any order. -/
theorem readAll (served : limits.dict dict) {read : String → Call α τ} {read' : String → Call β τ}
    (asks : ∀ key, limits.Allows (dict, key) → AskAlike R (read key) (read' key))
    (related : R a b)
    : UpTo List.Perm (Contents.readAll dict read a).1 (Contents.readAll dict read' b).1
      ∧ R (Contents.readAll dict read a).2 (Contents.readAll dict read' b).2 := by
  obtain ⟨keys, keys', a', b', listed, listed', perm, allowed, left_behind⟩ :=
    alike.listKeys served related
  obtain ⟨records, after⟩ := AskAlike.each_perm
    (fun key member => asks key ⟨served, allowed key member⟩) perm left_behind
  simp only [Contents.readAll, Attempt.andThen, listed, listed']
  exact ⟨.ok records, after⟩

/-- The same ids, in any order. -/
theorem keysAsU32s (served : limits.dict dict) (related : R a b)
    : ∃ ids ids' a' b', Records.onProtocol (listKeysAsU32s dict) a = (.ok ids, a')
        ∧ Records.onProtocol (listKeysAsU32s dict) b = (.ok ids', b')
        ∧ ids.Perm ids' ∧ R a' b' := by
  obtain ⟨keys, keys', a', b', listed, listed', perm, -, left_behind⟩ :=
    alike.listKeys served related
  simp only [Records.onProtocol, listKeysAsU32s, Attempt.mapError, Attempt.map, listed, listed']
  exact ⟨_, _, a', b', rfl, rfl, perm.filterMap _, left_behind⟩

/-- What only depends on which ids are listed. -/
theorem mapKeysAsU32s {γ : Type} (served : limits.dict dict) {f : List UInt32 → γ}
    (same : ∀ {ids ids' : List UInt32}, ids.Perm ids' → f ids = f ids')
    : Alike R (Attempt.map f (Records.onProtocol (listKeysAsU32s dict)))
        (Attempt.map f (Records.onProtocol (listKeysAsU32s dict))) := by
  intro a b related
  obtain ⟨ids, ids', a', b', listed, listed', perm, left_behind⟩ :=
    alike.keysAsU32s served related
  simp only [Attempt.map, listed, listed']
  exact ⟨congrArg Except.ok (same perm), left_behind⟩

/-- One load per listed Kyber pre-key, keeping what it yields. -/
theorem envelopes (covers : limits.Covers presage) {identity : IdentityType}
    {load : UInt32 → ProtocolCall α (Option τ)} {load' : UInt32 → ProtocolCall β (Option τ)}
    (asks : ∀ id, limits.Allows (dictKyberPrekey identity, Kyber.envelopeKey id)
      → AskAlike R (load id) (load' id))
    (related : R a b)
    : let read : ProtocolCall α (List τ) :=
        Attempt.andThen (Records.onProtocol (listKeysAsU32s (dictKyberPrekey identity)))
          (fun ids => Attempt.map (List.filterMap id) (Attempt.collect load ids))
      let read' : ProtocolCall β (List τ) :=
        Attempt.andThen (Records.onProtocol (listKeysAsU32s (dictKyberPrekey identity)))
          (fun ids => Attempt.map (List.filterMap id) (Attempt.collect load' ids))
      UpTo List.Perm (read a).1 (read' b).1 ∧ R (read a).2 (read' b).2 := by
  intro read read'
  have served := covers.dict (.kyberPrekey presage identity)
  obtain ⟨ids, ids', a', b', listed, listed', perm, left_behind⟩ :=
    alike.keysAsU32s served related
  obtain ⟨loaded, after⟩ := AskAlike.collect_perm
    (fun id _ => asks id ⟨served, covers.envelope id⟩) perm left_behind
  simp only [read, read', Attempt.andThen, listed, listed', Attempt.map]
  exact ⟨loaded.map (fun perm => perm.filterMap _), after⟩

theorem lastResortIds (covers : limits.Covers presage) (identity : IdentityType)
    (related : R a b)
    : UpTo List.Perm (Records.lastResortIds presage identity a).1
        (Records.lastResortIds presage identity b).1
      ∧ R (Records.lastResortIds presage identity a).2
          (Records.lastResortIds presage identity b).2 :=
  alike.envelopes covers (fun _ allows => (alike.envelope presage.kyber allows).map _) related

end CallsAlike

-----------------------------------------------------------------------------------------
-- Reads
-----------------------------------------------------------------------------------------

section Reads

/-- Reads of two stores agree, and leave them alike. -/
def ReadTwins (R : α → β → Prop) {γ : Type} (agree : γ → γ → Prop)
    (left : γ × PddbStore α ρ) (right : γ × PddbStore β ρ)
    : Prop :=
  agree left.1 right.1 ∧ Twins R left.2 right.2

variable {left : PddbStore α ρ} {right : PddbStore β ρ} (twins : Twins R left right)

include twins

omit [KvBackend α] [KvBackend β] in
theorem Twins.ask {γ : Type} {agree : γ → γ → Prop} {call : α → γ × α} {call' : β → γ × β}
    (answers : R left.backend right.backend
      → agree (call left.backend).1 (call' right.backend).1
        ∧ R (call left.backend).2 (call' right.backend).2)
    : ReadTwins R agree (StoreRead.onBackend call left) (StoreRead.onBackend call' right) :=
  ⟨(answers twins.backend).1, (answers twins.backend).2, twins.sessionCache, twins.sessionDirty⟩

theorem Twins.loadSession (alike : CallsAlike limits R) (format : RecordFormat ρ)
    (order : HashOrder) (identity : IdentityType) (address : ProtocolAddress)
    (allows : limits.Allows (dictSession identity, address.name))
    : ReadTwins R Eq (left.loadSession format order identity address)
        (right.loadSession format order identity address) := by
  obtain ⟨a, cache, dirty⟩ := left
  obtain ⟨b, cache', dirty'⟩ := right
  obtain ⟨related, caches, dirties⟩ := twins
  dsimp only at related caches dirties
  subst caches dirties
  simp only [PddbStore.loadSession, PddbStore.onBackend]
  split
  · exact ⟨rfl, related, rfl, rfl⟩
  · obtain ⟨result, a', b', loaded, loaded', left_behind⟩ :=
      (alike.bundleProtocol format allows).outcomes related
    simp only [loaded, loaded']
    obtain _ | _ | bundle := result
    · exact ⟨rfl, left_behind, rfl, rfl⟩
    · exact ⟨rfl, left_behind, rfl, rfl⟩
    · dsimp only
      split
      · exact ⟨rfl, left_behind, rfl, rfl⟩
      · split <;> exact ⟨rfl, left_behind, rfl, rfl⟩

theorem Twins.getSubDeviceSessions (alike : CallsAlike limits R) (format : RecordFormat ρ)
    (identity : IdentityType) (name : ServiceId)
    (allows : limits.Allows (dictSession identity, name.rawUuid.toString))
    : ReadTwins R Eq (left.getSubDeviceSessions format identity name)
        (right.getSubDeviceSessions format identity name) := by
  obtain ⟨a, cache, dirty⟩ := left
  obtain ⟨b, cache', dirty'⟩ := right
  obtain ⟨related, caches, dirties⟩ := twins
  dsimp only at related caches dirties
  subst caches dirties
  obtain ⟨result, a', b', loaded, loaded', left_behind⟩ :=
    (alike.bundleProtocol format allows).outcomes related
  simp only [PddbStore.getSubDeviceSessions, PddbStore.onBackend, loaded, loaded']
  cases result <;> exact ⟨rfl, left_behind, rfl, rfl⟩

/-- A read of a record with served names, or a listing, agrees on alike stores, by cases on the
read.
-/
theorem StoreRead.perform_twins (alike : CallsAlike limits R) (covers : limits.Covers presage)
    (format : RecordFormat ρ) {read : StoreRead presage} (served : read.Served limits)
    : ReadTwins R read.Agree (read.perform format left) (read.perform format right) := by
  have equal {γ : Type} {call : α → γ × α} {call' : β → γ × β} (calls : Alike R call call')
      : ReadTwins R Eq (onBackend call left) (onBackend call' right) :=
    twins.ask (fun related => calls related)
  have contents {dict : String} (listed : dict ∈ contentsDicts) : limits.dict dict :=
    covers.dict (.contents presage listed)
  have peer {identity : IdentityType} {address : ProtocolAddress}
      (allows : limits.Allows (dictIdentity identity, Records.identityKey address))
      : AskAlike R (Records.getIdentity presage identity address)
          (Records.getIdentity presage identity address) :=
    alike.found allows _ (fun found => by cases found <;> exact ⟨_, rfl, rfl⟩)
  cases read with
  | loadRegistrationData => exact equal (alike.json _ (served _ rfl)).alike
  | senderCertificate =>
      refine equal ((alike.get (served _ rfl)).alike.andThen (fun found => ?_))
      cases found <;> exact .lift _
  | isRegistered =>
      refine equal (fun a b related => ?_)
      obtain ⟨result, a', b', loaded, loaded', left_behind⟩ :=
        (alike.json presage.registrationData (served _ rfl)).alike.outcomes related
      change backendGetJson _ dictState State.keyRegistration a = _ at loaded
      change backendGetJson _ dictState State.keyRegistration b = _ at loaded'
      simp only [State.isRegistered, State.loadRegistrationData, loaded, loaded']
      exact ⟨rfl, left_behind⟩
  | fetchMasterKey =>
      refine equal ((alike.get (served _ rfl)).alike.andThen (fun found => ?_))
      cases found <;> exact .lift _
  | hasAccountState =>
      exact equal (alike.listsAnyKey fun dict probed => covers.dict (.inl (probed_cleared probed)))
  | profile uuid key => exact equal (alike.json _ (served _ rfl)).alike
  | profileAvatar uuid key => exact equal (alike.get (served _ rfl)).alike
  | profileKey serviceId => exact equal (alike.json _ (served _ rfl)).alike
  | contacts =>
      exact twins.ask (alike.readAll (contents (by decide))
        (fun key allows => alike.jsonRequired _ allows _))
  | contactById id => exact equal (alike.json _ (served _ rfl)).alike
  | groups =>
      refine twins.ask (alike.readAll (contents (by decide)) (fun key allows =>
        (alike.jsonRequired _ allows _).andThen (fun group => ?_)))
      split <;> exact .lift _
  | group masterKey => exact equal (alike.json _ (served _ rfl)).alike
  | groupAvatar masterKey => exact equal (alike.get (served _ rfl)).alike
  | stickerPack id => exact equal (alike.json _ (served _ rfl)).alike
  | stickerPacks =>
      exact twins.ask (alike.readAll (covers.dict (.stickerPacks presage))
        (fun key allows => alike.jsonRequired _ allows _))
  | message thread timestamp =>
      refine equal ((alike.json _ (served _ rfl)).alike.andThen (fun found => ?_))
      cases found <;> exact .lift _
  | messages thread range =>
      refine equal (fun a b related => ?_)
      have served := covers.dict (.thread presage thread)
      obtain ⟨keys, keys', a', b', listed, listed', perm, -, left_behind⟩ :=
        alike.listKeys served related
      have asks (timestamp : UInt64) :=
        (alike.jsonRequired presage.storedMessage ⟨served, covers.message timestamp⟩
          ("message disappeared: " ++ Contents.messageKey timestamp)).andThen
          (fun stored => .lift (Contents.intoContent presage stored))
      obtain ⟨same, after⟩ := Alike.each (fun timestamp => (asks timestamp).alike)
        (Contents.listedTimestamps range keys') left_behind
      simp only [Contents.messages, Attempt.andThen, listed, listed',
        listedTimestamps_perm range perm]
      exact ⟨congrArg Except.ok same, after⟩
  | getIdentityKeyPair identity =>
      have allows : limits.Allows (dictState, Records.stateKeyIdentityKeyPair identity) := by
        cases identity <;> exact served _ rfl
      exact equal (alike.found allows _
        (fun found => by cases found <;> exact ⟨_, rfl, rfl⟩)).alike
  | getLocalRegistrationId =>
      refine equal (((alike.json _ (served _ rfl)).mapError _).alike.andThen (fun found => ?_))
      cases found <;> exact .lift _
  | getIdentity identity address => exact equal (peer (served _ rfl)).alike
  | isTrustedIdentity identity trustNewIdentities address key =>
      exact equal ((peer (served _ rfl)).map _).alike
  | getPreKey identity id =>
      refine equal ((alike.preKeys (served _ rfl)).alike.andThen (fun entries => ?_))
      split <;> exact .lift _
  | getSignedPreKey identity id =>
      exact equal (alike.found (served _ rfl) _
        (fun found => by cases found <;> exact ⟨_, rfl, rfl⟩)).alike
  | getKyberPreKey identity id => exact equal (alike.kyberPreKey presage.kyber (served _ rfl))
  | loadLastResortKyberPreKeys identity =>
      refine twins.ask (alike.envelopes covers (fun id allows =>
        (alike.envelope presage.kyber allows).andThen (fun found => ?_)))
      split <;> exact .lift _
  | nextPreKeyId identity =>
      exact equal (((alike.preKeys (served _ rfl)).map _).map _).alike
  | nextSignedPreKeyId identity =>
      exact equal ((alike.mapKeysAsU32s (covers.dict (.signedPrekey presage identity))
        Listings.max?_perm).map _)
  | nextPqPreKeyId identity =>
      exact equal ((alike.mapKeysAsU32s (covers.dict (.kyberPrekey presage identity))
        Listings.max?_perm).map _)
  | signedPreKeysCount identity =>
      refine equal (fun a b related => ?_)
      obtain ⟨keys, keys', a', b', listed, listed', perm, -, left_behind⟩ :=
        alike.listKeys (covers.dict (.signedPrekey presage identity)) related
      simp only [Records.countSignedPreKeys, Records.onProtocol, Attempt.mapError, Attempt.map,
        listed, listed', Except.map, perm.length_eq]
      exact ⟨rfl, left_behind⟩
  | kyberPreKeysCount identity lastResortOnly =>
      cases lastResortOnly with
      | true =>
          refine twins.ask (fun related => ?_)
          obtain ⟨ids, left_behind⟩ := alike.lastResortIds covers identity related
          exact ⟨ids.map (fun perm => perm.length_eq), left_behind⟩
      | false =>
          exact equal (alike.mapKeysAsU32s (covers.dict (.kyberPrekey presage identity))
            (fun perm => perm.length_eq))
  | signedPrekeyId identity =>
      exact equal (alike.mapKeysAsU32s (covers.dict (.signedPrekey presage identity)) Listings.max?_perm)
  | lastResortKyberPrekeyId identity =>
      refine twins.ask (fun related => ?_)
      obtain ⟨ids, left_behind⟩ := alike.lastResortIds covers identity related
      exact ⟨@UpTo.map _ _ _ _ _ List.max? (fun perm => Listings.max?_perm perm) _ _ ids,
        left_behind⟩
  | loadSenderKey identity sender distributionId =>
      exact equal (alike.found (served _ rfl) _
        (fun found => by cases found <;> exact ⟨_, rfl, rfl⟩)).alike
  | loadSession order identity address =>
      exact twins.loadSession alike format order identity address (served _ rfl)
  | getSubDeviceSessions identity name =>
      exact twins.getSubDeviceSessions alike format identity name (served _ rfl)

end Reads

end XousAppSignal.Store
