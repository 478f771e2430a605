import XousAppSignal.Store.LogicalRecords
import XousAppSignal.Store.StoreReads
import XousAppSignal.Store.Wipe

/-! What runs of the store leave behind. In every state reached from an empty store the slots
that hold a value, stored or about to be committed, are those of records: the keys of the
sticker-pack dictionary are keys of pack ids and those of a thread's dictionary are keys of
timestamps.
-/

namespace XousAppSignal.Store

open StoreOp (Buffered)
open BufferingBackend (Within Absent)

variable {ρ : Type} {allowed : String × String → Prop}

/-- Only allowed slots hold a value or are about to be written, and nothing is buffered
without a batch.
-/
structure Orderly (allowed : String × String → Prop) (backend : BufferingBackend InnerBackend)
    : Prop where
  absent : Absent (fun slot => ¬allowed slot) backend
  drained : backend.batching = false → backend.buffer = ∅

namespace Orderly

theorem start (plan : FaultPlan) : Orderly allowed (.new { map := ∅, plan }) :=
  ⟨⟨fun _ _ => rfl, fun _ _ _ stored => by cases stored⟩, fun _ => rfl⟩

theorem drained_within {mine : String → Prop} {before after : BufferingBackend InnerBackend}
    (orderly : Orderly allowed before) (within : Within mine before after)
    (closed : after.batching = false)
    : after.buffer = ∅ := by
  have wasClosed : before.batching = false := within.flag ▸ closed
  exact (within.idle wasClosed).trans (orderly.drained wasClosed)

/-- A call that changes dictionaries in which every slot is allowed. -/
theorem of_within {mine : String → Prop} {before after : BufferingBackend InnerBackend}
    (orderly : Orderly allowed before) (within : Within mine before after)
    (free : ∀ slot : String × String, mine slot.1 → allowed slot)
    : Orderly allowed after :=
  ⟨orderly.absent.of_within within (fun slot other here => other (free slot here)),
    orderly.drained_within within⟩

theorem of_read {before after : BufferingBackend InnerBackend}
    (orderly : Orderly allowed before) (within : Within (fun _ => False) before after)
    : Orderly allowed after :=
  orderly.of_within within (fun _ never => never.elim)

theorem get (dict key : String) : Keeps (Orderly allowed) (KvBackend.get dict key) :=
  fun self orderly => orderly.of_read (BufferingBackend.get_within dict key self)

theorem listKeys (dict : String) : Keeps (Orderly allowed) (KvBackend.listKeys dict) :=
  fun self orderly => orderly.of_read (BufferingBackend.listKeys_within dict self)

theorem put {dict key : String} (permitted : allowed (dict, key)) (value : Bytes)
    : Keeps (Orderly allowed) (KvBackend.put dict key value) :=
  fun self orderly =>
    ⟨orderly.absent.put (not_not_intro permitted) value,
      orderly.drained_within
        (@BufferingBackend.put_within (fun _ => True) dict trivial key value self)⟩

theorem delete (dict key : String) : Keeps (Orderly allowed) (KvBackend.delete dict key) :=
  fun self orderly =>
    ⟨orderly.absent.delete dict key,
      orderly.drained_within
        (@BufferingBackend.delete_within (fun _ => True) dict trivial key self)⟩

theorem deleteDict (dict : String) : Keeps (Orderly allowed) (KvBackend.deleteDict dict) :=
  fun _ orderly =>
    ⟨orderly.absent.deleteDict dict,
      BufferingBackend.deleteDict_drained orderly.drained dict⟩

theorem deleteDicts (dicts : List String)
    : Keeps (Orderly allowed) (Store.deleteDicts dicts) :=
  fun _ orderly =>
    ⟨orderly.absent.deleteDicts dicts, Drained.deleteDicts orderly.drained dicts⟩

theorem putJson {τ : Type} {dict key : String} (permitted : allowed (dict, key))
    (codec : JsonCodec τ) (value : τ)
    : Keeps (Orderly allowed) (backendPutJson codec dict key value) :=
  (Keeps.lift _).andThen (put permitted)

theorem putJsonProtocol {τ : Type} {dict key : String} (permitted : allowed (dict, key))
    (codec : JsonCodec τ) (encodeContext : String) (value : τ)
    : Keeps (Orderly allowed) (backendPutJsonProtocol codec dict key encodeContext value) := by
  intro self orderly
  simp only [backendPutJsonProtocol]
  cases codec.toVec value with
  | error message => exact orderly
  | ok bytes =>
      have written := put permitted bytes orderly
      dsimp only
      generalize KvBackend.put dict key bytes self = outcome at written ⊢
      obtain ⟨_ | _, next⟩ := outcome <;> exact written

theorem deleteProtocol (dict key : String)
    : Keeps (Orderly allowed) (backendDeleteProtocol dict key) := by
  intro self orderly
  have deleted := delete dict key orderly
  simp only [backendDeleteProtocol]
  generalize KvBackend.delete dict key self = outcome at deleted ⊢
  obtain ⟨_ | _, next⟩ := outcome <;> exact deleted

/-- What single reads keep, every read keeps. -/
theorem readsAlike (mine : String → Prop)
    : ReadsAlike mine (fun left right => left = right ∧ Orderly allowed left) where
  get _ key := by
    rintro self _ ⟨rfl, orderly⟩
    exact ⟨rfl, rfl, get _ key orderly⟩
  listKeys _ := by
    rintro self _ ⟨rfl, orderly⟩
    exact ⟨rfl, rfl, listKeys _ orderly⟩

end Orderly

theorem StoreRead.keeps_orderly {presage : Presage} (format : RecordFormat ρ)
    (read : StoreRead presage) {store : Buffered ρ} (orderly : Orderly allowed store.backend)
    : Orderly allowed (read.perform format store).2.backend :=
  (read.perform_alike (Orderly.readsAlike (ReadDict presage)) format
    ⟨⟨rfl, orderly⟩, rfl, rfl⟩).2.backend.2

-----------------------------------------------------------------------------------------
-- Values are kept in the slots of records
-----------------------------------------------------------------------------------------

section Recorded

variable (presage : Presage)

/-- The slot is that of a record. -/
def Recorded (slot : String × String) : Prop :=
  ∃ record : LogicalRecord, record.slot presage = slot

/-- A slot of the sticker packs is that of a pack id, one of a thread that of a timestamp. -/
structure Filed (slot : String × String) : Prop where
  stickerPack : slot.1 = Contents.dictStickerPacks → ∃ id, slot.2 = Contents.stickerPackKey id
  message
    : ∀ thread, slot.1 = Contents.threadDictName presage thread
        → ∃ timestamp, slot.2 = Contents.messageKey timestamp

theorem FixedDict.mem_cleared {dict : String} (cleared : dict ∈ clearedDicts)
    : ∃ fixed : FixedDict, fixed.name = dict := by
  have listed : clearedDicts ⊆ FixedDict.all.map FixedDict.name := by decide +kernel
  obtain ⟨fixed, -, same⟩ := List.mem_map.mp (listed cleared)
  exact ⟨fixed, same⟩

/-- The name of a thread's dictionary is none of the cleared names. -/
theorem threadDictName_not_cleared (thread : Thread)
    : Contents.threadDictName presage thread ∉ clearedDicts := by
  intro cleared
  obtain ⟨fixed, same⟩ := FixedDict.mem_cleared cleared
  exact fixed.name_ne_thread presage thread same

theorem stickerPacks_not_cleared : Contents.dictStickerPacks ∉ clearedDicts := by decide

theorem Recorded.of_session {slot : String × String} (session : IsSessionDict slot.1)
    : Recorded presage slot := by
  obtain ⟨dict, key⟩ := slot
  obtain ⟨identity, rfl⟩ := session
  exact ⟨.protocol identity (.session key), rfl⟩

/-- A slot of a dictionary with a name of its own is that of a record kept there. -/
theorem Recorded.of_fixed {fixed : FixedDict} {key : String}
    (recorded : Recorded presage (fixed.name, key))
    : ∃ record : LogicalRecord, record.dict = .inl fixed ∧ record.key presage = key := by
  obtain ⟨record, same⟩ := recorded
  obtain ⟨names, keys⟩ := Prod.mk.inj same
  refine ⟨record, ?_, keys⟩
  unfold LogicalRecord.dictName at names
  cases here : record.dict with
  | inr thread =>
      rw [here] at names
      exact absurd names.symm (fixed.name_ne_thread presage thread)
  | inl other =>
      rw [here] at names
      exact congrArg Sum.inl (FixedDict.name_injective names)

/-- The dictionary of a record tells its key's kind. -/
theorem Recorded.filed {slot : String × String} (recorded : Recorded presage slot)
    : Filed presage slot := by
  refine ⟨fun pack => ?_, fun thread same => ?_⟩
  · obtain ⟨dict, key⟩ := slot
    obtain rfl : dict = FixedDict.stickerPacks.name := pack
    obtain ⟨record, here, rfl⟩ := recorded.of_fixed
    cases record with
    | stickerPack id => exact ⟨id, rfl⟩
    | _ => cases here
  · obtain ⟨record, rfl⟩ := recorded
    change record.dict.elim FixedDict.name _ = _ at same
    cases here : record.dict with
    | inl fixed =>
        rw [here] at same
        exact absurd same (fixed.name_ne_thread presage thread)
    | inr thread =>
        cases record with
        | message thread timestamp => exact ⟨timestamp, rfl⟩
        | _ => cases here

end Recorded

namespace StoreWrite

variable {presage : Presage}

theorem deleteExisting_keeps (dict key : String)
    : Keeps (Orderly allowed) (Contents.deleteExisting dict key) :=
  (Orderly.get dict key).andThen (fun _ => (Orderly.delete dict key).map _)

theorem storeEnvelope_keeps (identity : IdentityType) (id : UInt32)
    (record : presage.KyberPreKeyRecord) (isLastResort : Bool)
    : Keeps (Orderly (Recorded presage))
        (Kyber.storeEnvelope presage.kyber identity id record isLastResort) := by
  intro self orderly
  simp only [Kyber.storeEnvelope]
  cases presage.kyber.serialize record with
  | error e => exact orderly
  | ok bytes =>
      exact Orderly.putJsonProtocol ⟨.protocol identity (.kyberPreKey id), rfl⟩
        presage.kyber.envelope _ _ orderly

theorem loadEnvelope_keeps (identity : IdentityType) (id : UInt32)
    : Keeps (Orderly (Recorded presage)) (Kyber.loadEnvelope presage.kyber identity id) :=
  fun _ orderly =>
    ((Orderly.readsAlike (ReadDict presage)).envelope presage.kyber
      (.kyberPrekey presage identity) id ⟨rfl, orderly⟩).2.2

theorem markKyberPreKeyUsed_keeps (identity : IdentityType) (kyberPrekeyId ecPrekeyId : UInt32)
    (baseKey : PublicKey)
    : Keeps (Orderly (Recorded presage))
        (Kyber.markKyberPreKeyUsed presage.kyber identity kyberPrekeyId ecPrekeyId baseKey) := by
  intro self orderly
  have loaded := loadEnvelope_keeps identity kyberPrekeyId orderly
  simp only [Kyber.markKyberPreKeyUsed]
  generalize Kyber.loadEnvelope presage.kyber identity kyberPrekeyId self = outcome at loaded ⊢
  obtain ⟨_ | _ | envelope, next⟩ := outcome
  · exact loaded
  · exact loaded
  · dsimp only
    split
    · have looked := Orderly.get (dictKyberMeta identity)
        (Kyber.metaKey kyberPrekeyId ecPrekeyId) loaded
      generalize KvBackend.get (dictKyberMeta identity)
        (Kyber.metaKey kyberPrekeyId ecPrekeyId) next = outcome at looked ⊢
      obtain ⟨_ | prior, next⟩ := outcome
      · exact looked
      · dsimp only
        split
        · exact looked
        · have permitted : Recorded presage
              (dictKyberMeta identity, Kyber.metaKey kyberPrekeyId ecPrekeyId) :=
            ⟨.protocol identity (.kyberMeta kyberPrekeyId ecPrekeyId), rfl⟩
          have written := Orderly.put permitted baseKey.serialize looked
          generalize KvBackend.put (dictKyberMeta identity)
            (Kyber.metaKey kyberPrekeyId ecPrekeyId) baseKey.serialize next = outcome
            at written ⊢
          obtain ⟨_ | _, next⟩ := outcome <;> exact written
    · exact Orderly.deleteProtocol _ _ loaded

theorem loadBundle_keeps (identity : IdentityType)
    : Keeps (Orderly (Recorded presage)) (Records.loadBundle presage identity) :=
  fun _ orderly =>
    ((Orderly.readsAlike (ReadDict presage)).jsonProtocol presage.preKeyBundle
      (.prekeyBundle presage identity) _ _ ⟨rfl, orderly⟩).2.2

theorem saveBundle_keeps (identity : IdentityType) (bundle : List (UInt32 × Bytes))
    : Keeps (Orderly (Recorded presage)) (Records.saveBundle presage identity bundle) :=
  Orderly.putJsonProtocol ⟨.protocol identity .preKeyBundle, rfl⟩ _ _ _

/-- Every write puts values into the slots of records only, by cases on the write. -/
theorem keeps_recorded (format : RecordFormat ρ) (write : StoreWrite presage ρ)
    {store : Buffered ρ} (orderly : Orderly (Recorded presage) store.backend)
    : Orderly (Recorded presage) (write.perform format store).backend := by
  have inState (field : StateField) : Recorded presage (dictState, field.key) :=
    ⟨.state field, rfl⟩
  cases write with
  | setAciIdentityKeyPair keyPair => exact Orderly.put (inState .aciIdentityKeyPair) _ orderly
  | setPniIdentityKeyPair keyPair => exact Orderly.put (inState .pniIdentityKeyPair) _ orderly
  | saveRegistrationData state => exact Orderly.putJson (inState .registration) _ _ orderly
  | saveSenderCertificate certificate =>
      exact (Keeps.lift _).andThen (Orderly.put (inState .senderCertificate)) orderly
  | clearRegistration => exact Orderly.deleteDict _ orderly
  | storeMasterKey masterKey =>
      cases masterKey with
      | some key => exact Orderly.put (inState .masterKey) _ orderly
      | none => exact Orderly.delete _ _ orderly
  | saveProfile uuid key profile =>
      exact Orderly.putJson ⟨.profile uuid key, rfl⟩ _ _ orderly
  | saveProfileAvatar uuid key avatar =>
      exact Orderly.put ⟨.profileAvatar uuid key, rfl⟩ _ orderly
  | upsertProfileKey uuid key =>
      exact (Orderly.get _ _).andThen
        (fun _ => (Orderly.putJson ⟨.profileKey uuid, rfl⟩ _ _).map _) orderly
  | clearProfiles => exact Orderly.deleteDicts _ orderly
  | saveContact contact => exact Orderly.putJson ⟨.contact _, rfl⟩ _ _ orderly
  | clearContacts => exact Orderly.deleteDict _ orderly
  | saveGroup masterKey group => exact Orderly.putJson ⟨.group masterKey, rfl⟩ _ _ orderly
  | saveGroupAvatar masterKey avatar =>
      exact Orderly.put ⟨.groupAvatar masterKey, rfl⟩ _ orderly
  | clearGroups => exact Orderly.deleteDicts _ orderly
  | addStickerPack pack => exact Orderly.putJson ⟨.stickerPack _, rfl⟩ _ _ orderly
  | removeStickerPack id => exact deleteExisting_keeps _ _ orderly
  | saveMessage thread message =>
      exact Orderly.putJson ⟨.message thread _, rfl⟩ _ _ orderly
  | deleteMessage thread timestamp => exact deleteExisting_keeps _ _ orderly
  | clearThread thread => exact Orderly.deleteDict _ orderly
  | clearMessages => exact orderly
  | clearContents =>
      exact (Orderly.deleteDicts _).andThen (fun _ => Orderly.deleteDicts _) orderly
  | saveIdentity identity address key =>
      exact ((Orderly.get _ _).mapError _).andThen
        (fun _ =>
          ((Orderly.put ⟨.protocol identity (.peerIdentity address), rfl⟩ _).mapError _).map _)
        orderly
  | savePreKey identity id record =>
      exact (Keeps.lift _).andThen (fun _ => (loadBundle_keeps identity).andThen
        (fun _ => saveBundle_keeps identity _)) orderly
  | removePreKey identity id =>
      exact (loadBundle_keeps identity).andThen (fun _ => saveBundle_keeps identity _) orderly
  | saveSignedPreKey identity id record =>
      exact (Keeps.lift _).andThen
        (fun _ => (Orderly.put ⟨.protocol identity (.signedPreKey id), rfl⟩ _).mapError _) orderly
  | saveKyberPreKey identity id record => exact storeEnvelope_keeps identity id record _ orderly
  | storeLastResortKyberPreKey identity id record =>
      exact storeEnvelope_keeps identity id record _ orderly
  | markKyberPreKeyUsed identity kyberPrekeyId ecPrekeyId baseKey =>
      exact markKyberPreKeyUsed_keeps identity kyberPrekeyId ecPrekeyId baseKey orderly
  | removeKyberPreKey identity id => exact Orderly.deleteProtocol _ _ orderly
  | storeSenderKey identity sender distributionId record =>
      exact (Keeps.lift _).andThen
        (fun _ =>
          (Orderly.put ⟨.protocol identity (.senderKey sender distributionId), rfl⟩ _).mapError _)
        orderly
  | storeSession identity address record => exact orderly
  | deleteSession order identity address =>
      exact orderly.of_within
        (SessionOp.perform_within format store (.deleteSession order identity address))
        (fun _ => Recorded.of_session presage)
  | deleteAllSessions identity address =>
      refine orderly.of_within ?_ (fun _ => Recorded.of_session presage)
      simp only [perform, PddbStore.deleteAllSessions_eq]
      exact BufferingBackend.dropAddress_within format _ store.backend
  | flushSessions order =>
      exact orderly.of_within (SessionOp.perform_within format store (.flushSessions order))
        (fun _ => Recorded.of_session presage)
  | clear =>
      simp only [perform]
      rw [(PddbStore.clear_backend store).1]
      exact Orderly.deleteDicts _ orderly

end StoreWrite

namespace StoreAction

variable {presage : Presage}

theorem keeps_recorded (format : RecordFormat ρ) (action : StoreAction presage ρ)
    {store : Buffered ρ} (orderly : Orderly (Recorded presage) store.backend)
    : Orderly (Recorded presage) (action.perform format store).backend := by
  cases action with
  | read op => exact op.keeps_orderly format orderly
  | write op => exact op.keeps_recorded format orderly
  | beginSendBatch =>
      exact ⟨orderly.absent.begin, @Drained.perform _ format _ orderly.drained .beginSendBatch⟩
  | commit order =>
      refine ⟨?_, @Drained.perform _ format _ orderly.drained (.commit order)⟩
      simp only [perform]
      split
      · exact orderly.absent.commit order
      · exact orderly.absent
  | abort =>
      refine ⟨?_, @Drained.perform _ format _ orderly.drained .abort⟩
      simp only [perform]
      split
      · exact orderly.absent.abort
      · exact orderly.absent
  | restart => exact ⟨⟨orderly.absent.inner, fun _ _ _ stored => by cases stored⟩, fun _ => rfl⟩

/-- In every state a run reaches only slots of records hold a value. -/
theorem run_recorded (format : RecordFormat ρ) (plan : FaultPlan)
    (history : List (StoreAction presage ρ))
    : Orderly (Recorded presage)
        (Runs.run (StoreAction.perform format) (.newBuffering { map := ∅, plan })
          history).backend :=
  @Runs.run_invariant _ _ (StoreAction.perform format)
    (fun store => Orderly (Recorded presage) store.backend)
    (fun _ action orderly => action.keeps_recorded format orderly) _ history (.start plan)

end StoreAction

end XousAppSignal.Store
