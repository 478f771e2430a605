import XousAppSignal.Store.Clear

/-! Calls while a batch is open. They read from the storage and write into the buffer: what is
stored stays as it was until the batch is committed, unless a whole dictionary is dropped.
-/

namespace XousAppSignal.Store

variable {ρ : Type}

open StoreOp (Buffered)

namespace BufferingBackend

/-- A batch is open, over this stored map. -/
structure Frozen (map : FiniteMap (String × String) Bytes)
    (backend : BufferingBackend InnerBackend)
    : Prop where
  opened : backend.batching = true
  stored : backend.inner.map = map

namespace Frozen

variable {map : FiniteMap (String × String) Bytes}

theorem get (dict key : String)
    : Keeps (Frozen map)
        (KvBackend.get dict key : Call (BufferingBackend InnerBackend) (Option Bytes)) := by
  intro self frozen
  simp only [KvBackend.get, BufferingBackend.get]
  split
  · exact frozen
  · exact ⟨frozen.opened, (inner_get_map dict key self.inner).trans frozen.stored⟩

theorem put (dict key : String) (value : Bytes)
    : Keeps (Frozen map)
        (KvBackend.put dict key value : Call (BufferingBackend InnerBackend) Unit) := by
  intro self frozen
  simp only [KvBackend.put, BufferingBackend.put, isBatching, frozen.opened]
  exact ⟨rfl, frozen.stored⟩

theorem delete (dict key : String)
    : Keeps (Frozen map)
        (KvBackend.delete dict key : Call (BufferingBackend InnerBackend) Unit) := by
  intro self frozen
  simp only [KvBackend.delete, BufferingBackend.delete, isBatching, frozen.opened]
  exact ⟨rfl, frozen.stored⟩

theorem listKeys (dict : String)
    : Keeps (Frozen map)
        (KvBackend.listKeys dict : Call (BufferingBackend InnerBackend) (List String)) := by
  intro self frozen
  have listed : (KvBackend.listKeys dict self.inner).2.map = self.inner.map := by
    simp only [KvBackend.listKeys, InnerBackend.listKeys]
    split <;> rfl
  simp only [KvBackend.listKeys, BufferingBackend.listKeys]
  have forwarded : Frozen map (forward (KvBackend.listKeys dict) self).2 :=
    ⟨frozen.opened, listed.trans frozen.stored⟩
  generalize forward (KvBackend.listKeys dict) self = outcome at forwarded ⊢
  obtain ⟨_ | keys, next⟩ := outcome
  · exact forwarded
  · dsimp only at forwarded ⊢
    split <;> exact forwarded

theorem listsAnyKey (dicts : List String)
    : Keeps (Frozen map)
        (Store.listsAnyKey dicts : BufferingBackend InnerBackend → Bool × _) := by
  induction dicts with
  | nil => exact fun _ frozen => frozen
  | cons dict rest ih =>
      intro self frozen
      have listed := listKeys dict frozen
      unfold Store.listsAnyKey
      generalize KvBackend.listKeys dict self = outcome at listed ⊢
      obtain ⟨_ | keys, next⟩ := outcome
      · exact ih listed
      · dsimp only at listed ⊢
        split
        · exact ih listed
        · exact listed

/-- One call of the trait, but for the one that drops a dictionary. -/
theorem perform {op : KvOp} (keeps : ∀ dict, op ≠ .deleteDict dict)
    : Keeps (Frozen map)
        (op.perform : Call (BufferingBackend InnerBackend) KvReply) := by
  intro self frozen
  cases op with
  | get dict key => exact get dict key frozen
  | put dict key value => exact put dict key value frozen
  | delete dict key => exact delete dict key frozen
  | deleteDict dict => exact absurd rfl (keeps dict)
  | listKeys dict => exact listKeys dict frozen

/-! Sessions -/

theorem getBundle (format : RecordFormat ρ) (dict key : String)
    : Keeps (Frozen map)
        (backendGetSessionBundle format dict key
          : Call (BufferingBackend InnerBackend) (Option SessionBundle)) := by
  intro self frozen
  have asked := get dict key frozen
  unfold backendGetSessionBundle
  generalize KvBackend.get dict key self = outcome at asked ⊢
  obtain ⟨_ | _ | bytes, next⟩ := outcome <;> exact asked

theorem getBundleProtocol (format : RecordFormat ρ) (dict key : String)
    : Keeps (Frozen map)
        (backendGetSessionBundleProtocol format dict key
          : ProtocolCall (BufferingBackend InnerBackend) (Option SessionBundle)) := by
  intro self frozen
  have asked := get dict key frozen
  unfold backendGetSessionBundleProtocol
  generalize KvBackend.get dict key self = outcome at asked ⊢
  obtain ⟨_ | _ | bytes, next⟩ := outcome
  · exact asked
  · exact asked
  · dsimp only at asked ⊢
    split <;> exact asked

theorem deleteProtocol (dict key : String)
    : Keeps (Frozen map)
        (backendDeleteProtocol dict key
          : ProtocolCall (BufferingBackend InnerBackend) Unit) := by
  intro self frozen
  have gone := delete dict key frozen
  unfold backendDeleteProtocol
  generalize KvBackend.delete dict key self = outcome at gone ⊢
  obtain ⟨_ | _, next⟩ := outcome <;> exact gone

theorem dropDevice (format : RecordFormat ρ) (order : HashOrder) (key : SessionKey)
    : Keeps (Frozen map)
        (PddbStore.dropDevice format order key
          : ProtocolCall (BufferingBackend InnerBackend) Unit) := by
  intro self frozen
  have asked := getBundleProtocol format (dictSession key.1) key.2.1 frozen
  unfold PddbStore.dropDevice
  generalize backendGetSessionBundleProtocol format _ _ self = outcome at asked ⊢
  obtain ⟨_ | _ | bundle, next⟩ := outcome
  · exact asked
  · exact asked
  · dsimp only at asked ⊢
    split
    · exact asked
    · split
      · exact deleteProtocol _ _ asked
      · have wrote := put (dictSession key.1) key.2.1
          (serializeSessionBundle order (bundle.erase key.2.2)) asked
        unfold backendPutSessionBundleProtocol
        generalize KvBackend.put _ _ _ next = outcome at wrote ⊢
        obtain ⟨_ | _, last⟩ := outcome <;> exact wrote

theorem dropAddress (format : RecordFormat ρ) (address : IdentityType × String)
    : Keeps (Frozen map)
        (PddbStore.dropAddress format address
          : ProtocolCall (BufferingBackend InnerBackend) SessionBundle) := by
  intro self frozen
  have asked := getBundleProtocol format (dictSession address.1) address.2 frozen
  unfold PddbStore.dropAddress
  generalize backendGetSessionBundleProtocol format _ _ self = outcome at asked ⊢
  obtain ⟨_ | _ | bundle, next⟩ := outcome
  · exact asked
  · exact asked
  · have gone := deleteProtocol (dictSession address.1) address.2 asked
    dsimp only at gone ⊢
    generalize backendDeleteProtocol _ _ next = outcome at gone ⊢
    obtain ⟨_ | _, last⟩ := outcome <;> exact gone

/-- By induction on the groups of the flush. -/
theorem writeGroups (format : RecordFormat ρ) (order : IdentityType × String → HashOrder)
    (groups : List ((IdentityType × String) × List (UInt32 × Bytes))) (written : Nat)
    : Keeps (Frozen map)
        (PddbStore.writeGroups format order groups written
          : Call (BufferingBackend InnerBackend) Nat) := by
  induction groups generalizing written with
  | nil => exact fun _ frozen => frozen
  | cons group rest ih =>
      intro self frozen
      have asked := getBundle format (dictSession group.1.1) group.1.2 frozen
      unfold PddbStore.writeGroups
      dsimp only
      generalize backendGetSessionBundle format _ _ self = outcome at asked ⊢
      obtain ⟨_ | found, next⟩ := outcome
      · exact asked
      · have wrote := put (dictSession group.1.1) group.1.2 (serializeSessionBundle
          (order group.1) (FiniteMap.insertAll (found.getD ∅) group.2)) asked
        change Frozen map (backendPutSessionBundle _ _ _ _ next).2 at wrote
        dsimp only at wrote ⊢
        generalize backendPutSessionBundle _ _ _ _ next = outcome at wrote ⊢
        obtain ⟨_ | _, last⟩ := outcome
        · exact wrote
        · exact ih _ wrote

end Frozen

end BufferingBackend

open BufferingBackend (Frozen)

variable {map : FiniteMap (String × String) Bytes} {store : Buffered ρ}

/-- No session call drops a dictionary. -/
theorem SessionOp.perform_frozen (format : RecordFormat ρ)
    (frozen : Frozen map store.backend) (op : SessionOp ρ)
    : Frozen map (op.perform format store).backend := by
  cases op with
  | storeSession identity address record => exact frozen
  | loadSession order identity address =>
      have asked := Frozen.getBundleProtocol format (dictSession identity) address.name frozen
      simp only [SessionOp.perform, PddbStore.loadSession, PddbStore.onBackend]
      split
      · exact frozen
      · generalize backendGetSessionBundleProtocol format (dictSession identity) address.name
          store.backend = outcome at asked ⊢
        obtain ⟨_ | _ | bundle, next⟩ := outcome
        · exact asked
        · exact asked
        · dsimp only
          split
          · exact asked
          · split <;> exact asked
  | flushSessions order =>
      simp only [SessionOp.perform, PddbStore.flushSessions, PddbStore.onBackend]
      split
      · exact frozen
      · split
        · exact frozen
        · next groups collected =>
            have wrote := Frozen.writeGroups format order.bundle
              (order.groups.arrange (FiniteMap.pairs groups)) 0 frozen
            generalize PddbStore.writeGroups format order.bundle
              (order.groups.arrange (FiniteMap.pairs groups)) 0 store.backend = outcome
              at wrote ⊢
            obtain ⟨_ | written, next⟩ := outcome <;> exact wrote
  | deleteSession order identity address =>
      simp only [SessionOp.perform, PddbStore.deleteSession_eq, PddbStore.onBackend]
      exact Frozen.dropDevice format order _ frozen
  | deleteAllSessions identity aci =>
      simp only [SessionOp.perform, PddbStore.deleteAllSessions_eq]
      exact Frozen.dropAddress format _ frozen
  | getSubDeviceSessions identity aci =>
      have asked := Frozen.getBundleProtocol format (dictSession identity)
        (ServiceId.rawUuid (.aci aci)).toString frozen
      simp only [SessionOp.perform, PddbStore.getSubDeviceSessions, PddbStore.onBackend]
      generalize backendGetSessionBundleProtocol format (dictSession identity)
        (ServiceId.rawUuid (.aci aci)).toString store.backend = outcome at asked ⊢
      obtain ⟨_ | found, next⟩ := outcome <;> exact asked

/-- The library drops a whole dictionary. -/
def TraitCall.dropsDict : TraitCall ρ → Bool
  | .kv (.deleteDict _) _ => true
  | _ => false

theorem TraitCall.perform_frozen (format : RecordFormat ρ)
    (frozen : Frozen map store.backend) {call : TraitCall ρ} (keeps : call.dropsDict = false)
    : Frozen map (call.perform format store).backend := by
  cases call with
  | session op trait => exact op.perform_frozen format frozen
  | kv op other =>
      refine Frozen.perform ?_ frozen
      rintro dict rfl
      cases keeps

end XousAppSignal.Store
