import XousAppSignal.Store.SessionDeletion

/-! The bulk session calls and the sessions of a service id. The calls look under the raw
UUID, while the sessions of a PNI are kept under its `PNI:` name; for any other state of the
store than one that is empty under both names they miss each other.
-/

namespace XousAppSignal.Store

variable {β ρ : Type} {format : RecordFormat ρ}

/-- What is stored for an address, or the error of a value that does not decode. -/
def readBundle (format : RecordFormat ρ) (view : View) (slot : IdentityType × String)
    : Except SignalProtocolError (Option SessionBundle) :=
  match view (dictSession slot.1, slot.2) with
  | none => .ok none
  | some bytes =>
      match deserializeSessionBundle format bytes with
      | .error e => .error (.invalidState "decode session bundle" e.display)
      | .ok bundle => .ok (some bundle)

theorem readBundle_update (view : View) (slot other : IdentityType × String)
    : readBundle format (Function.update view (dictSession slot.1, slot.2) none) other
      = if other = slot then .ok none else readBundle format view other := by
  by_cases same : other = slot
  · rw [if_pos same, same]
    simp [readBundle]
  · rw [if_neg same]
    simp only [readBundle, Function.update_of_ne (sessionSlot_ne same)]

/-- The UUID alone is not a PNI's name. -/
theorem serviceIdString_pni_ne (uuid : Uuid)
    : (ServiceId.pni uuid).serviceIdString ≠ uuid.toString := by
  intro same
  have lengths := congrArg String.length same
  simp [ServiceId.serviceIdString] at lengths

variable [KvBackend β] (contract : KvContract β)

/-- On a working backend a bundle is read as it is stored. -/
theorem backendGetSessionBundleProtocol_reads {backend : β} (ready : contract.Ready backend)
    (slot : IdentityType × String)
    : let out := backendGetSessionBundleProtocol format (dictSession slot.1) slot.2 backend
      out.1 = readBundle format (contract.view backend) slot
      ∧ contract.Ready out.2
      ∧ contract.view out.2 = contract.view backend := by
  obtain ⟨value, kept, same⟩ := contract.get ready (dictSession slot.1) slot.2
  simp only [backendGetSessionBundleProtocol]
  generalize KvBackend.get (dictSession slot.1) slot.2 backend = outcome at value kept same ⊢
  obtain ⟨result, next⟩ := outcome
  simp only at value kept same
  rw [value]
  simp only [readBundle]
  cases contract.view backend (dictSession slot.1, slot.2) with
  | none => exact ⟨rfl, kept, same⟩
  | some bytes =>
      dsimp only
      cases deserializeSessionBundle format bytes <;> exact ⟨rfl, kept, same⟩

namespace PddbStore

/-- The devices with a session under a name: cached, or listed in the stored bundle. -/
def devices (format : RecordFormat ρ) (view : View) (identity : IdentityType)
    (name : String) (self : PddbStore β ρ)
    : Finset UInt32 :=
  (cachedDevices identity name self.sessionCache).toFinset
    ∪ match readBundle format view (identity, name) with
      | .ok (some bundle) => bundle.keys.toFinset
      | _ => ∅

omit [KvBackend β] in
theorem mem_devices {view : View} {identity : IdentityType} {name : String}
    {self : PddbStore β ρ} {device : UInt32}
    : device ∈ devices format view identity name self
      ↔ device ∈ cachedDevices identity name self.sessionCache
        ∨ ∃ bundle, readBundle format view (identity, name) = .ok (some bundle)
            ∧ device ∈ bundle.keys := by
  rw [devices, Finset.mem_union, List.mem_toFinset]
  refine or_congr_right ?_
  split
  · next bundle read => simp [read]
  · next other =>
      simp only [Finset.notMem_empty, false_iff]
      rintro ⟨bundle, read, -⟩
      exact other bundle read

/-- The backend part of `deleteAllSessions` on any stored values. -/
theorem dropAddress_reads {backend : β} (ready : contract.Ready backend)
    (slot : IdentityType × String)
    : let out := dropAddress format slot backend
      contract.Ready out.2
      ∧ out.1 = (readBundle format (contract.view backend) slot).map (fun found => found.getD ∅)
      ∧ ((∃ bundle, out.1 = .ok bundle)
          → ∀ other, readBundle format (contract.view out.2) other
              = if other = slot then .ok none
                else readBundle format (contract.view backend) other) := by
  intro out
  obtain ⟨value, kept, same⟩ :=
    @backendGetSessionBundleProtocol_reads β ρ format _ contract _ ready slot
  simp only [out, dropAddress]
  generalize backendGetSessionBundleProtocol format (dictSession slot.1) slot.2 backend
    = outcome at value kept same ⊢
  obtain ⟨result, next⟩ := outcome
  simp only at value kept same
  rw [value]
  cases read : readBundle format (contract.view backend) slot with
  | error e =>
      refine ⟨kept, rfl, ?_⟩
      rintro ⟨_, impossible⟩
      cases impossible
  | ok found =>
      cases found with
      | none =>
          refine ⟨kept, rfl, fun _ other => ?_⟩
          dsimp only
          rw [same]
          split
          · next here => rw [here, read]
          · rfl
      | some bundle =>
          obtain ⟨done, ready', changed⟩ :=
            (backendDeleteProtocol_settles contract.atomic kept (dictSession slot.1)
              slot.2).returns id
          dsimp only
          generalize backendDeleteProtocol (dictSession slot.1) slot.2 next = last
            at done ready' changed ⊢
          obtain ⟨deleted, last⟩ := last
          simp only at done ready' changed
          rw [done]
          refine ⟨ready', rfl, fun _ other => ?_⟩
          change contract.view last = Function.update (contract.view next) _ none at changed
          dsimp only
          rw [changed, readBundle_update, same]

/-- `deleteAllSessions` without assuming anything of the store's state: it succeeds if the
bundle under the raw UUID decodes, counts the devices under that name and leaves none there.
-/
theorem deleteAllSessions_reads {self : PddbStore β ρ} (ready : contract.Ready self.backend)
    (identity : IdentityType) (address : ServiceId)
    : let uuid := address.rawUuid.toString
      let view := contract.view self.backend
      let out := deleteAllSessions format identity address self
      contract.Ready out.2.backend
      ∧ out.1 = (readBundle format view (identity, uuid)).map
          (fun _ => (devices format view identity uuid self).card)
      ∧ (∀ key, out.2.sessionCache.lookup key
          = if key.1 = identity ∧ key.2.1 = uuid then none else self.sessionCache.lookup key)
      ∧ ((∃ count, out.1 = .ok count)
          → ∀ slot, readBundle format (contract.view out.2.backend) slot
              = if slot = (identity, uuid) then .ok none else readBundle format view slot) := by
  intro uuid view out
  obtain ⟨ready', dropped, emptied⟩ :=
    @dropAddress_reads β ρ format _ contract _ ready (identity, uuid)
  have counted : out.1 = (readBundle format view (identity, uuid)).map
      (fun _ => (devices format view identity uuid self).card) := by
    simp only [out, deleteAllSessions_eq, devices]
    rw [dropped]
    cases readBundle format (contract.view self.backend) (identity, uuid) with
    | error e => rfl
    | ok found => cases found <;> rfl
  refine ⟨?_, counted, fun key => ?_, fun succeeded => ?_⟩
  · simp only [out, deleteAllSessions_eq]
    exact ready'
  · simp only [out, deleteAllSessions_eq, FiniteMap.lookup_retain]
    by_cases here : key.1 = identity ∧ key.2.1 = uuid
    · simp [here, uuid]
    · rw [if_neg here, if_pos]
      simp only [Bool.not_eq_true', decide_eq_false_iff_not]
      exact here
  · simp only [out, deleteAllSessions_eq]
    refine emptied ?_
    rw [counted] at succeeded
    rw [dropped]
    cases read : readBundle format view (identity, uuid) with
    | error e =>
        rw [read] at succeeded
        obtain ⟨_, impossible⟩ := succeeded
        cases impossible
    | ok found => exact ⟨_, rfl⟩

/-- `getSubDeviceSessions` lists the devices under the raw UUID, in any state where the
bundle there decodes.
-/
theorem getSubDeviceSessions_reads {self : PddbStore β ρ} (ready : contract.Ready self.backend)
    (identity : IdentityType) (name : ServiceId)
    (reads
      : (readBundle format (contract.view self.backend)
          (identity, name.rawUuid.toString)).isOk = true)
    : ∃ listed, (getSubDeviceSessions format identity name self).1 = .ok listed
        ∧ ∀ device, device ∈ listed
            ↔ device ≠ defaultDeviceId
              ∧ device.id ∈ devices format (contract.view self.backend) identity
                  name.rawUuid.toString self := by
  obtain ⟨value, -, -⟩ := @backendGetSessionBundleProtocol_reads β ρ format _ contract _ ready
    (identity, name.rawUuid.toString)
  have main (device : DeviceId)
      : device ≠ defaultDeviceId ↔ device.id ≠ defaultDeviceId.id := by
    constructor
    · rintro different same
      exact different (by cases device; cases same; rfl)
    · rintro different rfl
      exact different rfl
  simp only [getSubDeviceSessions, onBackend]
  generalize backendGetSessionBundleProtocol format (dictSession identity)
    name.rawUuid.toString self.backend = outcome at value ⊢
  obtain ⟨result, next⟩ := outcome
  simp only at value
  rw [value]
  cases read : readBundle format (contract.view self.backend)
      (identity, name.rawUuid.toString) with
  | error e =>
      rw [read] at reads
      cases reads
  | ok found =>
      refine ⟨_, rfl, fun device => ?_⟩
      have stored : device.id ∈ (found.getD ∅).keys
          ↔ ∃ bundle, found = some bundle ∧ device.id ∈ bundle.keys := by
        cases found <;> simp
      rw [mem_filterMap_tryFrom, List.mem_dedup, List.mem_mergeSort, List.mem_append,
        List.mem_filter, List.mem_filter, main, mem_devices, read]
      simp only [decide_eq_true_eq, stored, Except.ok.injEq]
      tauto

/-- A name without devices loads nothing. -/
theorem loadSession_absent {self : PddbStore β ρ} (ready : contract.Ready self.backend)
    (order : HashOrder) (identity : IdentityType) (address : ProtocolAddress)
    (reads
      : (readBundle format (contract.view self.backend) (identity, address.name)).isOk = true)
    (vacant : devices format (contract.view self.backend) identity address.name self = ∅)
    : (loadSession format order identity address self).1 = .ok none := by
  have nowhere (device : UInt32)
      : device ∉ devices format (contract.view self.backend) identity address.name self := by
    simp [vacant]
  have missed : self.sessionCache.lookup (sessionKey identity address) = none := by
    rw [AList.lookup_eq_none]
    intro cached
    exact nowhere _ (mem_devices.mpr (.inl (mem_cachedDevices.mpr cached)))
  obtain ⟨value, -, -⟩ := @backendGetSessionBundleProtocol_reads β ρ format _ contract _ ready
    (identity, address.name)
  simp only [loadSession, missed, onBackend]
  generalize backendGetSessionBundleProtocol format (dictSession identity) address.name
    self.backend = outcome at value ⊢
  obtain ⟨result, next⟩ := outcome
  simp only at value
  rw [value]
  cases read : readBundle format (contract.view self.backend) (identity, address.name) with
  | error e =>
      rw [read] at reads
      cases reads
  | ok found =>
      cases found with
      | none => rfl
      | some bundle =>
          have unlisted : bundle.keys = [] := by
            refine List.eq_nil_iff_forall_not_mem.mpr (fun device listed => ?_)
            exact nowhere device (mem_devices.mpr (.inr ⟨bundle, read, listed⟩))
          have empty : order.arrange (FiniteMap.pairs bundle) = [] := by
            rw [← List.length_eq_zero_iff, order.length_arrange, ← List.length_map Prod.fst,
              FiniteMap.pairs_keys, unlisted, List.length_nil]
          have absent : bundle.lookup (sessionKey identity address).2.2 = none := by
            rw [AList.lookup_eq_none, AList.mem_keys, unlisted]
            exact List.not_mem_nil
          simp only [empty, prefill, absent]

/-- A load that answers `None` could read what is stored under the name. -/
theorem loadSession_none_reads {self : PddbStore β ρ} (ready : contract.Ready self.backend)
    {order : HashOrder} {identity : IdentityType} {address : ProtocolAddress}
    (loaded : (loadSession format order identity address self).1 = .ok none)
    : (readBundle format (contract.view self.backend) (identity, address.name)).isOk
        = true := by
  obtain ⟨value, -, -⟩ := @backendGetSessionBundleProtocol_reads β ρ format _ contract _ ready
    (identity, address.name)
  simp only [loadSession, onBackend] at loaded
  split at loaded
  · cases loaded
  · generalize backendGetSessionBundleProtocol format (dictSession identity) address.name
      self.backend = outcome at value loaded
    obtain ⟨result, next⟩ := outcome
    simp only at value
    rw [value] at loaded
    cases read : readBundle format (contract.view self.backend) (identity, address.name) with
    | error e =>
        rw [read] at loaded
        cases loaded
    | ok found => rfl

-----------------------------------------------------------------------------------------
-- The sessions of a service id
-----------------------------------------------------------------------------------------

/-- The bulk calls for a service id reach the sessions under its address name: the deletion
leaves none of them in memory or in the backend and counts them, and the list taken before
it names their devices apart from the primary one.
-/
structure ReachesSessions (format : RecordFormat ρ) (identity : IdentityType)
    (service : ServiceId) (store : PddbStore β ρ) (count : Nat)
    : Prop where
  loads
    : ∀ order device,
        let after := (deleteAllSessions format identity service store).2
        let address : ProtocolAddress := ⟨service.serviceIdString, device⟩
        (loadSession format order identity address after).1 = .ok none
        ∧ (loadSession format order identity address (new after.backend)).1 = .ok none
  gone
    : let after := (deleteAllSessions format identity service store).2
      devices format (contract.view after.backend) identity service.serviceIdString after = ∅
  counted
    : count = (devices format (contract.view store.backend) identity service.serviceIdString
        store).card
  listed
    : ∃ listed, (getSubDeviceSessions format identity service store).1 = .ok listed
        ∧ ∀ device, device ∈ listed
            ↔ device ≠ defaultDeviceId
              ∧ device.id ∈ devices format (contract.view store.backend) identity
                  service.serviceIdString store

/-- What is stored under a name decodes, and neither it nor the cache lists a device. -/
def Unused (format : RecordFormat ρ) (identity : IdentityType) (name : String)
    (self : PddbStore β ρ)
    : Prop :=
  (readBundle format (contract.view self.backend) (identity, name)).isOk = true
  ∧ devices format (contract.view self.backend) identity name self = ∅

/-- After a successful deletion the name the call looked under has no device, and every
other name has those it had.
-/
theorem devices_deleted {identity : IdentityType} {service : ServiceId}
    {self : PddbStore β ρ} (ready : contract.Ready self.backend) {count : Nat}
    (deleted : (deleteAllSessions format identity service self).1 = .ok count)
    (name : String)
    : let after := (deleteAllSessions format identity service self).2
      devices format (contract.view after.backend) identity name after
        = if name = service.rawUuid.toString then ∅
          else devices format (contract.view self.backend) identity name self := by
  intro after
  obtain ⟨-, -, cache, stored⟩ :=
    @deleteAllSessions_reads β ρ format _ contract self ready identity service
  have bundle := stored ⟨count, deleted⟩ (identity, name)
  ext device
  rw [mem_devices, mem_cachedDevices, FiniteMap.mem_iff_lookup, cache, bundle]
  by_cases here : name = service.rawUuid.toString
  · simp [here]
  · rw [if_neg here, mem_devices, mem_cachedDevices, FiniteMap.mem_iff_lookup]
    simp [here]

/-- An emptied name is unused for the store and for one opened on its backend. -/
theorem Unused.loads {identity : IdentityType} {name : String} {self : PddbStore β ρ}
    (unused : Unused contract format identity name self)
    (ready : contract.Ready self.backend) (order : HashOrder) (device : DeviceId)
    : (loadSession format order identity ⟨name, device⟩ self).1 = .ok none
      ∧ (loadSession format order identity ⟨name, device⟩ (new self.backend)).1 = .ok none := by
  refine ⟨loadSession_absent contract ready order identity ⟨name, device⟩ unused.1 unused.2,
    @loadSession_absent β ρ format _ contract (new self.backend) ready order identity
      ⟨name, device⟩ unused.1 ?_⟩
  refine Finset.eq_empty_of_forall_notMem (fun other listed => ?_)
  rcases mem_devices.mp listed with cached | stored
  · simp [cachedDevices, new] at cached
  · have here : other ∈ devices format (contract.view self.backend) identity name self :=
      mem_devices.mpr (.inr stored)
    rw [unused.2] at here
    exact Finset.notMem_empty other here

/-- The deletion succeeds only if it could read the bundle under the raw UUID, and it
returns the number of devices there.
-/
theorem deleted_counts {identity : IdentityType} {service : ServiceId}
    {self : PddbStore β ρ} (ready : contract.Ready self.backend) {count : Nat}
    (deleted : (deleteAllSessions format identity service self).1 = .ok count)
    : (readBundle format (contract.view self.backend)
        (identity, service.rawUuid.toString)).isOk = true
      ∧ count = (devices format (contract.view self.backend) identity
          service.rawUuid.toString self).card := by
  obtain ⟨-, result, -, -⟩ :=
    @deleteAllSessions_reads β ρ format _ contract self ready identity service
  rw [deleted] at result
  cases read : readBundle format (contract.view self.backend)
      (identity, service.rawUuid.toString) with
  | error e =>
      rw [read] at result
      cases result
  | ok found =>
      rw [read] at result
      exact ⟨rfl, Except.ok.inj result⟩

/-- The calls reach the sessions under the address name where that name is the UUID, and
where there is nothing under either.
-/
theorem reachesSessions_of {identity : IdentityType} {service : ServiceId}
    {self : PddbStore β ρ} (ready : contract.Ready self.backend) {count : Nat}
    (deleted : (deleteAllSessions format identity service self).1 = .ok count)
    (named
      : service.serviceIdString = service.rawUuid.toString
        ∨ Unused contract format identity service.serviceIdString self
          ∧ Unused contract format identity service.rawUuid.toString self)
    : ReachesSessions contract format identity service self count := by
  obtain ⟨ready', -, -, stored⟩ :=
    @deleteAllSessions_reads β ρ format _ contract self ready identity service
  obtain ⟨reads, counted⟩ := deleted_counts contract ready deleted
  have emptied := devices_deleted contract ready deleted service.serviceIdString
  have bundle := stored ⟨count, deleted⟩ (identity, service.serviceIdString)
  have same : devices format (contract.view self.backend) identity service.serviceIdString self
      = devices format (contract.view self.backend) identity service.rawUuid.toString self := by
    rcases named with equal | ⟨name, uuid⟩
    · rw [equal]
    · rw [name.2, uuid.2]
  have unused : Unused contract format identity service.serviceIdString
      (deleteAllSessions format identity service self).2 := by
    rcases named with equal | ⟨name, uuid⟩
    · rw [if_pos (by rw [equal])] at bundle
      rw [if_pos equal] at emptied
      exact ⟨by rw [bundle]; rfl, emptied⟩
    · refine ⟨?_, ?_⟩
      · rw [bundle]
        split
        · rfl
        · exact name.1
      · rw [emptied]
        split
        · rfl
        · exact name.2
  refine ⟨fun order device => unused.loads contract ready' order device, unused.2, ?_, ?_⟩
  · rw [same]
    exact counted
  · rw [same]
    exact getSubDeviceSessions_reads contract ready identity service reads

/-- In any state of the store, where `delete_all_sessions` succeeds: the bulk calls reach the
sessions of the service id exactly if it is an ACI, or nothing is kept under the PNI's name
nor under its UUID.
-/
theorem service_sessions_reached_iff (contract : KvContract β) (format : RecordFormat ρ)
    (identity : IdentityType) (service : ServiceId) (self : PddbStore β ρ) (count : Nat)
    (ready : contract.Ready self.backend)
    (deleted : (deleteAllSessions format identity service self).1 = .ok count)
    : ReachesSessions contract format identity service self count
      ↔ (∃ uuid, service = .aci uuid)
        ∨ Unused contract format identity service.serviceIdString self
          ∧ Unused contract format identity service.rawUuid.toString self := by
  constructor
  · intro reaches
    cases service with
    | aci uuid => exact .inl ⟨uuid, rfl⟩
    | pni uuid =>
        obtain ⟨ready', -, -, stored⟩ :=
          @deleteAllSessions_reads β ρ format _ contract self ready identity (.pni uuid)
        obtain ⟨reads, counted⟩ := deleted_counts contract ready deleted
        have apart : (ServiceId.pni uuid).serviceIdString
            ≠ (ServiceId.pni uuid).rawUuid.toString := serviceIdString_pni_ne uuid
        have named : devices format (contract.view self.backend) identity
            (ServiceId.pni uuid).serviceIdString self = ∅ := by
          have emptied := devices_deleted contract ready deleted
            (ServiceId.pni uuid).serviceIdString
          rw [if_neg apart] at emptied
          exact emptied.symm.trans reaches.gone
        have readsName := loadSession_none_reads contract ready'
          (reaches.loads .insertion defaultDeviceId).1
        rw [stored ⟨count, deleted⟩, if_neg (by simpa using apart)] at readsName
        have nothing := counted.symm.trans reaches.counted
        rw [named, Finset.card_empty, Finset.card_eq_zero] at nothing
        exact .inr ⟨⟨readsName, named⟩, reads, nothing⟩
  · rintro (⟨uuid, rfl⟩ | unused)
    · exact reachesSessions_of contract ready deleted (.inl rfl)
    · exact reachesSessions_of contract ready deleted (.inr unused)

/-- A PNI has a session on its second device: `delete_all_sessions` returns 0 and the session
is still loaded afterwards.
-/
theorem pni_session_missed
    : let service : ServiceId := .pni ⟨1⟩
      let address : ProtocolAddress := ⟨service.serviceIdString, ⟨2, by decide⟩⟩
      let self : PddbStore InnerBackend UInt8 :=
        storeSession .aci address 7 (.new { map := ∅ })
      let deletion := deleteAllSessions .oneByte .aci service self
      deletion.1 = .ok 0
      ∧ (loadSession .oneByte .insertion .aci address deletion.2).1 = .ok (some 7) := by
  decide

/-- An ACI with an unsaved session: the calls reach it. -/
theorem service_sessions_reached_aci
    : let service : ServiceId := .aci ⟨1⟩
      let self : PddbStore InnerBackend UInt8 :=
        storeSession .aci ⟨service.serviceIdString, ⟨2, by decide⟩⟩ 7 (.new { map := ∅ })
      (deleteAllSessions .oneByte .aci service self).1 = .ok 1
      ∧ ReachesSessions InnerBackend.contract .oneByte .aci service self 1 := by
  intro service self
  have deleted : (deleteAllSessions .oneByte .aci service self).1 = .ok 1 := by decide
  refine ⟨deleted, ?_⟩
  exact (service_sessions_reached_iff InnerBackend.contract .oneByte .aci service self 1
    FaultPlan.onlyBulk_default deleted).mpr (.inl ⟨⟨1⟩, rfl⟩)

end PddbStore

end XousAppSignal.Store
