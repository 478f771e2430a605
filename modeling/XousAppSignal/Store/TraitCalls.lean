import XousAppSignal.Store.SessionDurability

/-! What the protocol library can do with a buffering store: session calls and single
key-value calls of the other store traits. Each call stays within its own dictionaries, and
where its puts are all-or-nothing it leaves readable session bundles readable.
-/

namespace XousAppSignal.Store

variable {β ρ : Type}

/-- The dictionary a key-value call works on. -/
def KvOp.dict : KvOp → String
  | .get dict _ => dict
  | .put dict _ _ => dict
  | .delete dict _ => dict
  | .deleteDict dict => dict
  | .listKeys dict => dict

/-- The dictionary holds session bundles. -/
def IsSessionDict (dict : String) : Prop := ∃ identity, dict = dictSession identity

instance (dict : String) : Decidable (IsSessionDict dict) :=
  decidable_of_iff (dict = dictSession .aci ∨ dict = dictSession .pni)
    ⟨fun same => same.elim (fun aci => ⟨.aci, aci⟩) (fun pni => ⟨.pni, pni⟩),
      fun ⟨identity, same⟩ => by cases identity <;> simp [same]⟩

/-- Flushing is the worker's own call; no store trait has it. -/
def SessionOp.isFlush : SessionOp ρ → Bool
  | .flushSessions _ => true
  | _ => false

/-- A call through the store traits. Session bundles are reached by session calls only. -/
inductive TraitCall (ρ : Type) where
  | session (op : SessionOp ρ) (trait : op.isFlush = false)
  | kv (op : KvOp) (other : ¬IsSessionDict op.dict)

namespace TraitCall

open StoreOp (Buffered)

def perform (format : RecordFormat ρ) (store : Buffered ρ) : TraitCall ρ → Buffered ρ
  | .session op _ => op.perform format store
  | .kv op _ => { store with backend := (op.perform store.backend).2 }

/-- The session calls among some calls. -/
def sessionOps (calls : List (TraitCall ρ)) : List (SessionOp ρ) :=
  calls.filterMap (fun call =>
    match call with
    | .session op _ => some op
    | .kv _ _ => none)

/-- The record last stored under a key and not deleted since. -/
def latestRecord (calls : List (TraitCall ρ)) (key : SessionKey) : Option ρ :=
  SessionOp.lastEffect (sessionOps calls) key

/-- What a call leaves under a slot outside the session dictionaries, given what earlier
calls left there. Dropping a whole dictionary is no write of the keys in it.
-/
def writeEffect (slot : String × String) (earlier : Option (Option Bytes))
    : TraitCall ρ → Option (Option Bytes)
  | .kv (.put dict key value) _ => if slot = (dict, key) then some (some value) else earlier
  | .kv (.delete dict key) _ => if slot = (dict, key) then some none else earlier
  | .kv (.deleteDict dict) _ => if slot.1 = dict then none else earlier
  | _ => earlier

/-- What the last write of a slot left there: a value, or nothing for a delete. -/
def latestWrite (calls : List (TraitCall ρ)) (slot : String × String)
    : Option (Option Bytes) :=
  calls.foldl (writeEffect slot) none

theorem latestWrite_append (calls : List (TraitCall ρ)) (call : TraitCall ρ)
    (slot : String × String)
    : latestWrite (calls ++ [call]) slot = writeEffect slot (latestWrite calls slot) call := by
  simp [latestWrite]

end TraitCall

-----------------------------------------------------------------------------------------
-- Calls stay within their dictionaries
-----------------------------------------------------------------------------------------

namespace BufferingBackend

/-- Only slots of the named dictionaries changed, in the buffer or below it, and the buffer
only inside a batch.
-/
structure Within (mine : String → Prop) (before after : BufferingBackend InnerBackend)
    : Prop where
  flag : after.batching = before.batching
  buffer : ∀ slot : String × String, ¬mine slot.1
    → after.buffer.lookup slot = before.buffer.lookup slot
  inner : ∀ slot : String × String, ¬mine slot.1
    → after.inner.map.lookup slot = before.inner.map.lookup slot
  idle : before.batching = false → after.buffer = before.buffer

variable {mine : String → Prop} {before middle after : BufferingBackend InnerBackend}

theorem Within.refl (mine : String → Prop) (self : BufferingBackend InnerBackend)
    : Within mine self self :=
  ⟨rfl, fun _ _ => rfl, fun _ _ => rfl, fun _ => rfl⟩

theorem Within.trans (first : Within mine before middle) (second : Within mine middle after)
    : Within mine before after :=
  ⟨second.flag.trans first.flag,
    fun slot other => (second.buffer slot other).trans (first.buffer slot other),
    fun slot other => (second.inner slot other).trans (first.inner slot other),
    fun closed => (second.idle (first.flag.trans closed)).trans (first.idle closed)⟩

theorem inner_get_map (dict key : String) (inner : InnerBackend)
    : (KvBackend.get dict key inner).2.map = inner.map := by
  simp only [KvBackend.get, InnerBackend.get]
  split <;> rfl

theorem get_within (dict key : String) (self : BufferingBackend InnerBackend)
    : Within mine self (KvBackend.get dict key self).2 := by
  simp only [KvBackend.get, get]
  split
  · exact .refl mine self
  · refine ⟨rfl, fun _ _ => rfl, fun slot _ => ?_, fun _ => rfl⟩
    exact congrArg (AList.lookup slot) (inner_get_map dict key self.inner)

theorem put_within {dict : String} (own : mine dict) (key : String) (value : Bytes)
    (self : BufferingBackend InnerBackend)
    : Within mine self (KvBackend.put dict key value self).2 := by
  have elsewhere {slot : String × String} (other : ¬mine slot.1) : slot ≠ (dict, key) := by
    rintro rfl
    exact other own
  simp only [KvBackend.put, put]
  split
  · next opened =>
      refine ⟨rfl, fun slot other => ?_, fun _ _ => rfl, fun closed => ?_⟩
      · exact AList.lookup_insert_ne (elsewhere other)
      · cases closed.symm.trans opened
  · refine ⟨rfl, fun _ _ => rfl, fun slot other => ?_, fun _ => rfl⟩
    exact InnerBackend.put_elsewhere self.inner value (elsewhere other)

theorem delete_within {dict : String} (own : mine dict) (key : String)
    (self : BufferingBackend InnerBackend)
    : Within mine self (KvBackend.delete dict key self).2 := by
  have elsewhere {slot : String × String} (other : ¬mine slot.1) : slot ≠ (dict, key) := by
    rintro rfl
    exact other own
  simp only [KvBackend.delete, delete]
  split
  · next opened =>
      refine ⟨rfl, fun slot other => ?_, fun _ _ => rfl, fun closed => ?_⟩
      · exact AList.lookup_insert_ne (elsewhere other)
      · cases closed.symm.trans opened
  · refine ⟨rfl, fun _ _ => rfl, fun slot other => ?_, fun _ => rfl⟩
    exact (InnerBackend.delete_lookup self.inner dict key slot).trans
      (if_neg (fun here => elsewhere other here.1))

theorem inner_deleteDict_lookup (dict : String) (inner : InnerBackend)
    {slot : String × String} (other : slot.1 ≠ dict)
    : (KvBackend.deleteDict dict inner).2.map.lookup slot = inner.map.lookup slot := by
  simp only [KvBackend.deleteDict, InnerBackend.deleteDict]
  split
  · rfl
  · rw [FiniteMap.lookup_retain, if_pos (by simpa using other)]

theorem deleteDict_within {dict : String} (own : mine dict)
    (self : BufferingBackend InnerBackend)
    : Within mine self (KvBackend.deleteDict dict self).2 := by
  have elsewhere {slot : String × String} (other : ¬mine slot.1) : slot.1 ≠ dict := by
    rintro rfl
    exact other own
  simp only [KvBackend.deleteDict, deleteDict]
  split
  · next opened =>
      refine ⟨rfl, fun slot other => ?_, fun slot other => ?_, fun closed => ?_⟩
      · exact (FiniteMap.lookup_retain _ _ _).trans (if_pos (by simpa using elsewhere other))
      · exact inner_deleteDict_lookup dict self.inner (elsewhere other)
      · cases closed.symm.trans opened
  · exact ⟨rfl, fun _ _ => rfl,
      fun slot other => inner_deleteDict_lookup dict self.inner (elsewhere other),
      fun _ => rfl⟩

theorem listKeys_within (dict : String) (self : BufferingBackend InnerBackend)
    : Within mine self (KvBackend.listKeys dict self).2 := by
  have forwarded : Within mine self (forward (KvBackend.listKeys dict) self).2 := by
    refine ⟨rfl, fun _ _ => rfl, fun slot _ => ?_, fun _ => rfl⟩
    simp only [forward, KvBackend.listKeys, InnerBackend.listKeys]
    split <;> rfl
  simp only [KvBackend.listKeys, listKeys]
  generalize forward (KvBackend.listKeys dict) self = outcome at forwarded ⊢
  obtain ⟨_ | keys, next⟩ := outcome
  · exact forwarded
  · dsimp only
    split <;> exact forwarded

/-- A key-value call changes no other dictionary. -/
theorem perform_within {op : KvOp} (own : mine op.dict) (self : BufferingBackend InnerBackend)
    : Within mine self (op.perform self).2 := by
  cases op with
  | get dict key => exact get_within dict key self
  | put dict key value => exact put_within own key value self
  | delete dict key => exact delete_within own key self
  | deleteDict dict => exact deleteDict_within own self
  | listKeys dict => exact listKeys_within dict self

theorem getBundle_within (format : RecordFormat ρ) (dict key : String)
    (self : BufferingBackend InnerBackend)
    : Within mine self (backendGetSessionBundle format dict key self).2 := by
  have read := @get_within mine dict key self
  unfold backendGetSessionBundle
  generalize KvBackend.get dict key self = outcome at read ⊢
  obtain ⟨_ | _ | bytes, next⟩ := outcome <;> exact read

theorem getBundleProtocol_within (format : RecordFormat ρ) (dict key : String)
    (self : BufferingBackend InnerBackend)
    : Within mine self (backendGetSessionBundleProtocol format dict key self).2 := by
  have read := @get_within mine dict key self
  unfold backendGetSessionBundleProtocol
  generalize KvBackend.get dict key self = outcome at read ⊢
  obtain ⟨_ | _ | bytes, next⟩ := outcome
  · exact read
  · exact read
  · dsimp only
    split <;> exact read

theorem putBundleProtocol_within {dict : String} (own : mine dict) (order : HashOrder)
    (key : String) (bundle : SessionBundle) (self : BufferingBackend InnerBackend)
    : Within mine self (backendPutSessionBundleProtocol order dict key bundle self).2 := by
  have wrote := put_within own key (serializeSessionBundle order bundle) self
  unfold backendPutSessionBundleProtocol
  generalize KvBackend.put dict key (serializeSessionBundle order bundle) self = outcome
    at wrote ⊢
  obtain ⟨_ | _, next⟩ := outcome <;> exact wrote

theorem deleteProtocol_within {dict : String} (own : mine dict) (key : String)
    (self : BufferingBackend InnerBackend)
    : Within mine self (backendDeleteProtocol dict key self).2 := by
  have gone := delete_within own key self
  unfold backendDeleteProtocol
  generalize KvBackend.delete dict key self = outcome at gone ⊢
  obtain ⟨_ | _, next⟩ := outcome <;> exact gone

theorem dropDevice_within (format : RecordFormat ρ) (order : HashOrder) (key : SessionKey)
    (self : BufferingBackend InnerBackend)
    : Within IsSessionDict self (PddbStore.dropDevice format order key self).2 := by
  have own : IsSessionDict (dictSession key.1) := ⟨key.1, rfl⟩
  have read := @getBundleProtocol_within _ IsSessionDict format (dictSession key.1) key.2.1 self
  unfold PddbStore.dropDevice
  generalize backendGetSessionBundleProtocol format (dictSession key.1) key.2.1 self = outcome
    at read ⊢
  obtain ⟨_ | _ | bundle, next⟩ := outcome
  · exact read
  · exact read
  · dsimp only
    split
    · exact read
    · split
      · exact read.trans (deleteProtocol_within own _ next)
      · exact read.trans (putBundleProtocol_within own order _ _ next)

theorem dropAddress_within (format : RecordFormat ρ) (slot : IdentityType × String)
    (self : BufferingBackend InnerBackend)
    : Within IsSessionDict self (PddbStore.dropAddress format slot self).2 := by
  have own : IsSessionDict (dictSession slot.1) := ⟨slot.1, rfl⟩
  have read := @getBundleProtocol_within _ IsSessionDict format (dictSession slot.1) slot.2 self
  unfold PddbStore.dropAddress
  generalize backendGetSessionBundleProtocol format (dictSession slot.1) slot.2 self = outcome
    at read ⊢
  obtain ⟨_ | _ | bundle, next⟩ := outcome
  · exact read
  · exact read
  · have gone := deleteProtocol_within own slot.2 next
    dsimp only
    generalize backendDeleteProtocol (dictSession slot.1) slot.2 next = outcome at gone ⊢
    obtain ⟨_ | _, last⟩ := outcome <;> exact read.trans gone

/-- Writing the groups of a flush changes session dictionaries only, by induction. -/
theorem writeGroups_within (format : RecordFormat ρ)
    (order : IdentityType × String → HashOrder)
    (groups : List ((IdentityType × String) × List (UInt32 × Bytes))) (written : Nat)
    (self : BufferingBackend InnerBackend)
    : Within IsSessionDict self (PddbStore.writeGroups format order groups written self).2 := by
  induction groups generalizing written self with
  | nil => exact .refl _ self
  | cons group rest ih =>
      obtain ⟨slot, entries⟩ := group
      have own : IsSessionDict (dictSession slot.1) := ⟨slot.1, rfl⟩
      have read := @getBundle_within _ IsSessionDict format (dictSession slot.1) slot.2 self
      unfold PddbStore.writeGroups
      dsimp only
      generalize backendGetSessionBundle format (dictSession slot.1) slot.2 self = outcome
        at read ⊢
      obtain ⟨_ | found, next⟩ := outcome
      · exact read
      · have wrote := put_within own slot.2 (serializeSessionBundle (order slot)
          (FiniteMap.insertAll (found.getD ∅) entries)) next
        change Within _ _ (backendPutSessionBundle (order slot) _ _ _ next).2 at wrote
        dsimp only
        generalize backendPutSessionBundle (order slot) (dictSession slot.1) slot.2
          (FiniteMap.insertAll (found.getD ∅) entries) next = outcome at wrote ⊢
        obtain ⟨_ | _, last⟩ := outcome
        · exact read.trans wrote
        · exact (read.trans wrote).trans (ih _ last)

end BufferingBackend

open BufferingBackend (Within)

/-- A session call changes session dictionaries only. -/
theorem SessionOp.perform_within (format : RecordFormat ρ)
    (store : PddbStore (BufferingBackend InnerBackend) ρ) (op : SessionOp ρ)
    : Within IsSessionDict store.backend (op.perform format store).backend := by
  cases op with
  | storeSession identity address record => exact .refl _ _
  | loadSession order identity address =>
      have read := @BufferingBackend.getBundleProtocol_within _ IsSessionDict format
        (dictSession identity) address.name store.backend
      simp only [SessionOp.perform, PddbStore.loadSession, PddbStore.onBackend]
      split
      · exact .refl _ _
      · generalize backendGetSessionBundleProtocol format (dictSession identity) address.name
          store.backend = outcome at read ⊢
        obtain ⟨_ | _ | bundle, next⟩ := outcome
        · exact read
        · exact read
        · dsimp only
          split
          · exact read
          · split <;> exact read
  | flushSessions order =>
      simp only [SessionOp.perform, PddbStore.flushSessions, PddbStore.onBackend]
      split
      · exact .refl _ _
      · split
        · exact .refl _ _
        · next groups collected =>
            have wrote := BufferingBackend.writeGroups_within format order.bundle
              (order.groups.arrange (FiniteMap.pairs groups)) 0 store.backend
            generalize PddbStore.writeGroups format order.bundle
              (order.groups.arrange (FiniteMap.pairs groups)) 0 store.backend = outcome
              at wrote ⊢
            obtain ⟨_ | written, next⟩ := outcome <;> exact wrote
  | deleteSession order identity address =>
      simp only [SessionOp.perform, PddbStore.deleteSession_eq, PddbStore.onBackend]
      exact BufferingBackend.dropDevice_within format order _ store.backend
  | deleteAllSessions identity aci =>
      simp only [SessionOp.perform, PddbStore.deleteAllSessions_eq]
      exact BufferingBackend.dropAddress_within format _ store.backend
  | getSubDeviceSessions identity aci =>
      have read := @BufferingBackend.getBundleProtocol_within _ IsSessionDict format
        (dictSession identity) (ServiceId.rawUuid (.aci aci)).toString store.backend
      simp only [SessionOp.perform, PddbStore.getSubDeviceSessions, PddbStore.onBackend]
      generalize backendGetSessionBundleProtocol format (dictSession identity)
        (ServiceId.rawUuid (.aci aci)).toString store.backend = outcome at read ⊢
      obtain ⟨_ | found, next⟩ := outcome <;> exact read

-----------------------------------------------------------------------------------------
-- Bundles stay readable
-----------------------------------------------------------------------------------------

theorem AllOrNothing.sound {ε α : Type} {Ready : β → Prop} {view : β → View} {MayFail : Prop}
    {format : RecordFormat ρ} {before after : View} {outcome : Except ε α × β} {value : α}
    (call : AllOrNothing Ready view MayFail before outcome value after)
    (soundBefore : Sound format before) (soundAfter : Sound format after)
    : Ready outcome.2 ∧ Sound format (view outcome.2) := by
  cases call with
  | done returns => exact ⟨returns.ready, returns.view ▸ soundAfter⟩
  | failed e may result ready same => exact ⟨ready, same ▸ soundBefore⟩

/-- A session call leaves readable bundles behind, whatever backend calls fail and whether
or not the cache agrees with them.
-/
theorem SessionOp.perform_sound [KvBackend β] (kv : KvAtomic β) {format : RecordFormat ρ}
    (roundTrip : format.RoundTrip) {store : PddbStore β ρ} (ready : kv.Ready store.backend)
    (sound : Sound format (kv.view store.backend)) (op : SessionOp ρ)
    : kv.Ready (op.perform format store).backend
      ∧ Sound format (kv.view (op.perform format store).backend) := by
  cases op with
  | storeSession identity address record => exact ⟨ready, sound⟩
  | loadSession order identity address =>
      have read := (backendGetSessionBundleProtocol_settles kv ready sound
        (identity, address.name)).sound sound sound
      simp only [SessionOp.perform, PddbStore.loadSession, PddbStore.onBackend]
      split
      · exact ⟨ready, sound⟩
      · generalize backendGetSessionBundleProtocol format (dictSession identity) address.name
          store.backend = outcome at read ⊢
        obtain ⟨_ | _ | bundle, next⟩ := outcome
        · exact read
        · exact read
        · dsimp only
          split
          · exact read
          · split <;> exact read
  | flushSessions order =>
      simp only [SessionOp.perform, PddbStore.flushSessions, PddbStore.onBackend]
      split
      · exact ⟨ready, sound⟩
      · rcases PddbStore.groupDirty_spec (order.dirty.arrange store.sessionDirty.keys)
            (PddbStore.grouped_nil format store.sessionCache)
            ((order.dirty.perm store.sessionDirty.keys).nodup_iff.mpr
              store.sessionDirty.keys_nodup) with
          ⟨e, record, message, failed, -⟩ | ⟨groups, collected, grouped⟩
        · simp only [failed]
          exact ⟨ready, sound⟩
        · have listed (group : (IdentityType × String) × List (UInt32 × Bytes))
              (member : group ∈ order.groups.arrange (FiniteMap.pairs groups))
              : groups.lookup group.1 = some group.2 :=
            FiniteMap.mem_pairs.mp (order.groups.mem_arrange.mp member)
          obtain ⟨wroteReady, wroteSound, -⟩ := PddbStore.writeGroups_spec kv order.bundle
            (order.groups.nodup_map_arrange _ (FiniteMap.pairs_keys_nodup groups))
            (fun group member => grouped.unique _ _ (listed group member))
            (fun group member => grouped.readable roundTrip (listed group member))
            0 ready sound
          simp only [collected]
          generalize PddbStore.writeGroups format order.bundle
            (order.groups.arrange (FiniteMap.pairs groups)) 0 store.backend = outcome
            at wroteReady wroteSound ⊢
          obtain ⟨_ | written, next⟩ := outcome <;> exact ⟨wroteReady, wroteSound⟩
  | deleteSession order identity address =>
      simp only [SessionOp.perform, PddbStore.deleteSession_eq, PddbStore.onBackend]
      obtain ⟨droppedReady, droppedSound, -⟩ := PddbStore.dropDevice_spec kv ready sound order
        (sessionKey identity address)
      exact ⟨droppedReady, droppedSound⟩
  | deleteAllSessions identity aci =>
      simp only [SessionOp.perform, PddbStore.deleteAllSessions_eq]
      obtain ⟨droppedReady, droppedSound, -⟩ := PddbStore.dropAddress_spec kv ready sound
        (identity, (ServiceId.rawUuid (.aci aci)).toString)
      exact ⟨droppedReady, droppedSound⟩
  | getSubDeviceSessions identity aci =>
      have read := (backendGetSessionBundleProtocol_settles kv ready sound
        (identity, (ServiceId.rawUuid (.aci aci)).toString)).sound sound sound
      simp only [SessionOp.perform, PddbStore.getSubDeviceSessions, PddbStore.onBackend]
      generalize backendGetSessionBundleProtocol format (dictSession identity)
        (ServiceId.rawUuid (.aci aci)).toString store.backend = outcome at read ⊢
      obtain ⟨_ | found, next⟩ := outcome <;> exact read

end XousAppSignal.Store
