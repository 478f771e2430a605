import XousAppSignal.Store.SessionInvariant

/-! Deleting sessions, and listing the devices that have one. -/

namespace XousAppSignal.Store

variable {β ρ : Type} {format : RecordFormat ρ}

theorem SessionBundle.session_erase (bundle : SessionBundle) (gone device : UInt32)
    : SessionBundle.session format (bundle.erase gone) device
      = if device = gone then none else SessionBundle.session format bundle device := by
  simp only [SessionBundle.session, FiniteMap.lookup_erase']
  split <;> rfl

theorem SessionBundle.Readable.erase {bundle : SessionBundle}
    (readable : SessionBundle.Readable format bundle) (gone : UInt32)
    : SessionBundle.Readable format (bundle.erase gone) := by
  intro device bytes found
  rw [FiniteMap.lookup_erase'] at found
  split at found
  · cases found
  · exact readable device bytes found

/-- A stored session is the one its bundle holds. -/
theorem storedSession_eq {view : View} {key : SessionKey} {bundle : SessionBundle}
    (stored : storedBundle format view (key.1, key.2.1) = some bundle)
    : storedSession format view key = SessionBundle.session format bundle key.2.2 := by
  rw [storedSession, stored, Option.bind_some]

/-- Equal slot and device is equal key. -/
theorem sessionKey_ext {left right : SessionKey} (slot : (left.1, left.2.1) = (right.1, right.2.1))
    (device : left.2.2 = right.2.2)
    : left = right := by
  obtain ⟨identity, name⟩ := Prod.mk.inj slot
  exact Prod.ext identity (Prod.ext name device)

/-- What both ways of writing back a bundle without one device leave stored: the slot
deleted when that was its last device, the smaller bundle otherwise.
-/
theorem storedSession_dropDevice (order : HashOrder) {view : View}
    (sound : Sound format view) {key : SessionKey} {bundle : SessionBundle}
    (stored : storedBundle format view (key.1, key.2.1) = some bundle) (other : SessionKey)
    : storedSession format
        (Function.update view (dictSession key.1, key.2.1)
          (if (bundle.erase key.2.2).entries.isEmpty then none
            else some (serializeSessionBundle order (bundle.erase key.2.2)))) other
      = if other = key then none else storedSession format view other := by
  have kept (same : (other.1, other.2.1) = (key.1, key.2.1))
      : SessionBundle.session format (bundle.erase key.2.2) other.2.2
        = if other = key then none else storedSession format view other := by
    rw [SessionBundle.session_erase, storedSession_eq (same ▸ stored)]
    by_cases device : other.2.2 = key.2.2
    · rw [if_pos device, if_pos (sessionKey_ext same device)]
    · rw [if_neg device, if_neg (fun equal => device (by rw [equal]))]
  have apart (different : (other.1, other.2.1) ≠ (key.1, key.2.1)) : other ≠ key :=
    fun equal => different (by rw [equal])
  by_cases empty : (bundle.erase key.2.2).entries.isEmpty
  · rw [if_pos empty, storedSession_delete view (key.1, key.2.1)]
    by_cases same : (other.1, other.2.1) = (key.1, key.2.1)
    · have nothing : SessionBundle.session format (bundle.erase key.2.2) other.2.2 = none := by
        have entries := List.isEmpty_iff.mp empty
        have vacant : (bundle.erase key.2.2).lookup other.2.2 = none := by
          simp [AList.lookup, entries]
        simp [SessionBundle.session, vacant]
      rw [if_pos same, ← kept same, nothing]
    · rw [if_neg same, if_neg (apart same)]
  · rw [if_neg empty, storedSession_put order view (key.1, key.2.1)
      ((sound.readable stored).erase key.2.2).fits]
    by_cases same : (other.1, other.2.1) = (key.1, key.2.1)
    · rw [if_pos same, kept same]
    · rw [if_neg same, if_neg (apart same)]

theorem Sound.dropDevice (order : HashOrder) {view : View} (sound : Sound format view)
    {slot : IdentityType × String} {bundle : SessionBundle}
    (stored : storedBundle format view slot = some bundle) (device : UInt32)
    : Sound format
        (Function.update view (dictSession slot.1, slot.2)
          (if (bundle.erase device).entries.isEmpty then none
            else some (serializeSessionBundle order (bundle.erase device)))) := by
  split
  · exact sound.delete slot
  · exact sound.put order slot ((sound.readable stored).erase device)

namespace PddbStore

variable [KvBackend β] (kv : KvAtomic β)

/-- Writing back a bundle without one device, or deleting its slot with the last one. -/
theorem writeBack_settles {backend : β} (ready : kv.Ready backend) (order : HashOrder)
    (dict name : String) (bundle : SessionBundle)
    : AllOrNothing kv.Ready kv.view kv.MayFail (kv.view backend)
        ((if bundle.entries.isEmpty then backendDeleteProtocol dict name
          else backendPutSessionBundleProtocol order dict name bundle) backend) ()
        (Function.update (kv.view backend) (dict, name)
          (if bundle.entries.isEmpty then none
            else some (serializeSessionBundle order bundle))) := by
  split
  · exact backendDeleteProtocol_settles kv ready dict name
  · exact backendPutSessionBundleProtocol_settles kv ready order dict name bundle

/-- Forgetting a key in memory keeps the invariant. -/
theorem SessionInv.forget {kv : KvAtomic β} {self : PddbStore β ρ}
    (inv : SessionInv kv format self) (key : SessionKey)
    : SessionInv kv format
        { self with
          sessionCache := self.sessionCache.erase key
          sessionDirty := self.sessionDirty.erase key } where
  ready := inv.ready
  sound := inv.sound
  cached := by
    intro other member
    simp only [AList.mem_erase] at member ⊢
    exact ⟨member.1, inv.cached other member.2⟩
  clean := by
    intro other record found fresh
    simp only [FiniteMap.lookup_erase'] at found
    split at found
    · cases found
    · next different =>
      exact inv.clean other record found
        (fun dirty => fresh (AList.mem_erase.mpr ⟨different, dirty⟩))

/-- The part of `deleteSession` that works on the backend. -/
def dropDevice (format : RecordFormat ρ) (order : HashOrder) (key : SessionKey)
    : ProtocolCall β Unit := fun backend =>
  match backendGetSessionBundleProtocol format (dictSession key.1) key.2.1 backend with
  | (.error e, backend) => (.error e, backend)
  | (.ok none, backend) => (.ok (), backend)
  | (.ok (some bundle), backend) =>
      if (bundle.lookup key.2.2).isNone then (.ok (), backend)
      else
        (if (bundle.erase key.2.2).entries.isEmpty then
          backendDeleteProtocol (dictSession key.1) key.2.1
        else
          backendPutSessionBundleProtocol order (dictSession key.1) key.2.1
            (bundle.erase key.2.2)) backend

/-- `deleteSession` forgets the key in memory and then works on the backend alone. -/
theorem deleteSession_eq (order : HashOrder) (identity : IdentityType)
    (address : ProtocolAddress) (self : PddbStore β ρ)
    : deleteSession format order identity address self
      = onBackend (dropDevice format order (sessionKey identity address))
          { self with
            sessionCache := self.sessionCache.erase (sessionKey identity address)
            sessionDirty := self.sessionDirty.erase (sessionKey identity address) } := by
  simp only [deleteSession, onBackend, dropDevice, sessionKey]
  generalize backendGetSessionBundleProtocol format (dictSession identity) address.name
    self.backend = outcome
  rcases outcome with ⟨_ | _ | bundle, next⟩
  · rfl
  · rfl
  · cases absent : (bundle.lookup address.deviceId.id).isNone <;>
      cases empty : (bundle.erase address.deviceId.id).entries.isEmpty <;>
      simp [absent, empty]

/-- Working on the backend either fails without effect or removes exactly this device. -/
theorem dropDevice_spec {backend : β} (ready : kv.Ready backend)
    (sound : Sound format (kv.view backend)) (order : HashOrder) (key : SessionKey)
    : let out := dropDevice format order key backend
      kv.Ready out.2
      ∧ Sound format (kv.view out.2)
      ∧ ((∃ e, out.1 = .error e ∧ kv.MayFail ∧ kv.view out.2 = kv.view backend)
        ∨ out.1 = .ok ()
          ∧ ∀ other, storedSession format (kv.view out.2) other
              = if other = key then none
                else storedSession format (kv.view backend) other) := by
  intro out
  have read := backendGetSessionBundleProtocol_settles kv ready sound (key.1, key.2.1)
  -- nothing is written where the device has no stored session
  have untouched {next : β} (nextReady : kv.Ready next) (same : kv.view next = kv.view backend)
      (nothing : storedSession format (kv.view backend) key = none)
      : kv.Ready next ∧ Sound format (kv.view next)
        ∧ ∀ other, storedSession format (kv.view next) other
            = if other = key then none else storedSession format (kv.view backend) other := by
    refine ⟨nextReady, by rw [same]; exact sound, fun other => ?_⟩
    by_cases here : other = key
    · rw [same, if_pos here, here, nothing]
    · rw [same, if_neg here]
  simp only [out, dropDevice]
  generalize backendGetSessionBundleProtocol format (dictSession key.1) key.2.1 backend
    = outcome at read ⊢
  obtain ⟨result, next⟩ := outcome
  cases read with
  | failed e may failure kept same =>
      simp only at failure kept same
      simp only [failure]
      exact ⟨kept, by rw [same]; exact sound, .inl ⟨e, rfl, may, same⟩⟩
  | done returns =>
      obtain ⟨value, kept, same⟩ := returns
      simp only at value kept same
      cases found : storedBundle format (kv.view backend) (key.1, key.2.1) with
      | none =>
          simp only [value, found]
          obtain ⟨one, two, three⟩ := untouched kept same
            (by rw [storedSession, found, Option.bind_none])
          exact ⟨one, two, .inr ⟨trivial, three⟩⟩
      | some bundle =>
          simp only [value, found]
          split
          · next absent =>
            obtain ⟨one, two, three⟩ := untouched kept same (by
              rw [storedSession_eq found, SessionBundle.session,
                Option.isNone_iff_eq_none.mp absent, Option.bind_none])
            exact ⟨one, two, .inr ⟨rfl, three⟩⟩
          · have nextSound : Sound format (kv.view next) := by rw [same]; exact sound
            have stored : storedBundle format (kv.view next) (key.1, key.2.1) = some bundle := by
              rw [same]
              exact found
            cases writeBack_settles kv kept order (dictSession key.1) key.2.1
              (bundle.erase key.2.2) with
            | failed e may failure wroteReady unchanged =>
                refine ⟨wroteReady, ?_, .inl ⟨e, failure, may, unchanged.trans same⟩⟩
                rw [unchanged]
                exact nextSound
            | done wrote =>
                obtain ⟨done, wroteReady, changed⟩ := wrote
                refine ⟨wroteReady, ?_, .inr ⟨done, fun other => ?_⟩⟩
                · rw [changed]
                  exact nextSound.dropDevice order stored key.2.2
                · rw [changed, storedSession_dropDevice order nextSound stored, same]

/-- Deleting a session removes it from memory and from its bundle, and nothing else; when
the backend fails the invariant still holds.
-/
theorem deleteSession_spec {self : PddbStore β ρ} (inv : SessionInv kv format self)
    (order : HashOrder) (identity : IdentityType) (address : ProtocolAddress)
    : let key := sessionKey identity address
      let out := deleteSession format order identity address self
      SessionInv kv format out.2
      ∧ ((∃ e, out.1 = .error e ∧ kv.MayFail)
        ∨ out.1 = .ok ()
          ∧ ∀ other, current format (kv.view out.2.backend) out.2 other
              = if other = key then none
                else current format (kv.view self.backend) self other) := by
  intro key out
  have forgotten := inv.forget key
  obtain ⟨ready, sound, outcome⟩ := dropDevice_spec kv inv.ready inv.sound order key
  simp only [out, deleteSession_eq, onBackend]
  rcases outcome with ⟨e, failure, may, same⟩ | ⟨done, removed⟩
  · exact ⟨forgotten.rebase ready same, .inl ⟨e, failure, may⟩⟩
  · refine ⟨forgotten.restored ready sound ?_, .inr ⟨done, fun other => ?_⟩⟩
    · intro other member
      have different : other ≠ key := (AList.mem_erase.mp member).1
      rw [removed, if_neg different]
    · simp only [current, FiniteMap.lookup_erase']
      rw [removed]
      split <;> simp

omit [KvBackend β] in
theorem mem_cachedDevices {identity : IdentityType} {name : String}
    {cache : FiniteMap SessionKey ρ} {device : UInt32}
    : device ∈ cachedDevices identity name cache ↔ (identity, name, device) ∈ cache := by
  rw [AList.mem_keys]
  simp only [cachedDevices, List.mem_map, List.mem_filter, decide_eq_true_eq]
  constructor
  · rintro ⟨⟨identity', name', device'⟩, ⟨member, rfl, rfl⟩, rfl⟩
    exact member
  · intro member
    exact ⟨_, ⟨member, rfl, rfl⟩, rfl⟩

omit [KvBackend β] in
/-- A device has a stored session exactly when its address's bundle lists it. -/
theorem storedSession_isSome {view : View} (sound : Sound format view) (key : SessionKey)
    : (storedSession format view key).isSome
      ↔ key.2.2 ∈ ((storedBundle format view (key.1, key.2.1)).getD ∅) := by
  cases stored : storedBundle format view (key.1, key.2.1) with
  | none => simp [storedSession, stored]
  | some bundle =>
      rw [storedSession_eq stored, Option.getD_some, FiniteMap.mem_iff_lookup,
        SessionBundle.session]
      cases found : bundle.lookup key.2.2 with
      | none => simp
      | some bytes =>
          obtain ⟨-, record, read⟩ := sound.readable stored _ bytes found
          simp [read, Except.toOption]

/-- A device has a session exactly when it is cached or listed in the stored bundle. -/
theorem current_isSome {self : PddbStore β ρ} (inv : SessionInv kv format self)
    (identity : IdentityType) (name : String) (device : UInt32)
    : (current format (kv.view self.backend) self (identity, name, device)).isSome
      ↔ device ∈ cachedDevices identity name self.sessionCache
        ∨ device ∈ ((storedBundle format (kv.view self.backend) (identity, name)).getD ∅).keys
      := by
  rw [mem_cachedDevices, ← AList.mem_keys,
    ← storedSession_isSome inv.sound (identity, name, device), current, FiniteMap.mem_iff_lookup]
  cases self.sessionCache.lookup (identity, name, device) <;> simp

/-- Forgetting every device of an account in memory keeps the invariant. -/
theorem SessionInv.forgetAll {kv : KvAtomic β} {self : PddbStore β ρ}
    (inv : SessionInv kv format self) (drop : SessionKey → Bool)
    : SessionInv kv format
        { self with
          sessionCache := FiniteMap.retain (fun key => !drop key) self.sessionCache
          sessionDirty :=
            FiniteMap.retain
              (fun key => !(drop key && (self.sessionCache.lookup key).isSome))
              self.sessionDirty } where
  ready := inv.ready
  sound := inv.sound
  cached := by
    intro key member
    simp only [FiniteMap.mem_retain] at member ⊢
    have here := inv.cached key member.2
    have found : (self.sessionCache.lookup key).isSome := AList.lookup_isSome.mpr here
    exact ⟨by simpa [found] using member.1, here⟩
  clean := by
    intro key record found fresh
    simp only [FiniteMap.lookup_retain] at found
    split at found
    · next kept =>
      refine inv.clean key record found (fun dirty => fresh (FiniteMap.mem_retain.mpr ?_))
      exact ⟨by simp [Bool.not_eq_true' _ ▸ kept], dirty⟩
    · cases found

/-- The part of `deleteAllSessions` that works on the backend; it yields what it removed. -/
def dropAddress (format : RecordFormat ρ) (slot : IdentityType × String)
    : ProtocolCall β SessionBundle := fun backend =>
  match backendGetSessionBundleProtocol format (dictSession slot.1) slot.2 backend with
  | (.error e, backend) => (.error e, backend)
  | (.ok none, backend) => (.ok ∅, backend)
  | (.ok (some bundle), backend) =>
      match backendDeleteProtocol (dictSession slot.1) slot.2 backend with
      | (.error e, backend) => (.error e, backend)
      | (.ok (), backend) => (.ok bundle, backend)

/-- `deleteAllSessions` forgets the account in memory and then works on the backend. -/
theorem deleteAllSessions_eq (identity : IdentityType) (address : ServiceId)
    (self : PddbStore β ρ)
    : let uuid := address.rawUuid.toString
      let drop (key : SessionKey) : Bool := key.1 = identity ∧ key.2.1 = uuid
      let dropped := dropAddress format (identity, uuid) self.backend
      deleteAllSessions format identity address self
        = (dropped.1.map (fun bundle =>
            ((cachedDevices identity uuid self.sessionCache).toFinset
              ∪ bundle.keys.toFinset).card),
          { self with
            backend := dropped.2
            sessionCache := FiniteMap.retain (fun key => !drop key) self.sessionCache
            sessionDirty :=
              FiniteMap.retain
                (fun key => !(drop key && (self.sessionCache.lookup key).isSome))
                self.sessionDirty }) := by
  intro uuid drop dropped
  simp only [deleteAllSessions, onBackend, dropped, dropAddress]
  generalize backendGetSessionBundleProtocol format (dictSession identity) uuid self.backend
    = outcome
  rcases outcome with ⟨_ | _ | bundle, next⟩
  · rfl
  · simp [Except.map, uuid, drop]
  · simp only [uuid]
    rcases backendDeleteProtocol (dictSession identity) address.rawUuid.toString next
      with ⟨_ | _, last⟩
    · rfl
    · rfl

/-- Working on the backend either fails without effect or empties exactly this address. -/
theorem dropAddress_spec {backend : β} (ready : kv.Ready backend)
    (sound : Sound format (kv.view backend)) (slot : IdentityType × String)
    : let out := dropAddress format slot backend
      kv.Ready out.2
      ∧ Sound format (kv.view out.2)
      ∧ ((∃ e, out.1 = .error e ∧ kv.MayFail ∧ kv.view out.2 = kv.view backend)
        ∨ out.1 = .ok ((storedBundle format (kv.view backend) slot).getD ∅)
          ∧ ∀ other, storedSession format (kv.view out.2) other
              = if (other.1, other.2.1) = slot then none
                else storedSession format (kv.view backend) other) := by
  intro out
  have read := backendGetSessionBundleProtocol_settles kv ready sound slot
  simp only [out, dropAddress]
  generalize backendGetSessionBundleProtocol format (dictSession slot.1) slot.2 backend
    = outcome at read ⊢
  obtain ⟨result, next⟩ := outcome
  cases read with
  | failed e may failure kept same =>
      simp only at failure kept same
      simp only [failure]
      exact ⟨kept, by rw [same]; exact sound, .inl ⟨e, rfl, may, same⟩⟩
  | done returns =>
      obtain ⟨value, kept, same⟩ := returns
      simp only at value kept same
      have nextSound : Sound format (kv.view next) := by rw [same]; exact sound
      cases found : storedBundle format (kv.view backend) slot with
      | none =>
          simp only [value, found]
          refine ⟨kept, nextSound, .inr ⟨rfl, fun other => ?_⟩⟩
          rw [same]
          split
          · next here => rw [storedSession, here, found, Option.bind_none]
          · rfl
      | some bundle =>
          simp only [value, found]
          have erased := backendDeleteProtocol_settles kv kept (dictSession slot.1) slot.2
          generalize backendDeleteProtocol (dictSession slot.1) slot.2 next = last at erased ⊢
          obtain ⟨result, last⟩ := last
          cases erased with
          | failed e may failure lastReady unchanged =>
              simp only at failure lastReady unchanged
              simp only [failure]
              refine ⟨lastReady, ?_, .inl ⟨e, rfl, may, unchanged.trans same⟩⟩
              rw [unchanged]
              exact nextSound
          | done deleted =>
              obtain ⟨done, lastReady, changed⟩ := deleted
              simp only at done lastReady changed
              simp only [done]
              refine ⟨lastReady, ?_, .inr ⟨rfl, fun other => ?_⟩⟩
              · rw [changed]
                exact nextSound.delete slot
              · rw [changed, storedSession_delete, same]

/-- Deleting all sessions of an account removes exactly those, and counts their devices. -/
theorem deleteAllSessions_spec {self : PddbStore β ρ} (inv : SessionInv kv format self)
    (identity : IdentityType) (address : ServiceId)
    : let uuid := address.rawUuid.toString
      let out := deleteAllSessions format identity address self
      SessionInv kv format out.2
      ∧ ((∃ e, out.1 = .error e ∧ kv.MayFail)
        ∨ (∃ devices : Finset UInt32,
            out.1 = .ok devices.card
            ∧ ∀ device, device ∈ devices
                ↔ (current format (kv.view self.backend) self
                    (identity, uuid, device)).isSome)
          ∧ ∀ other, current format (kv.view out.2.backend) out.2 other
              = if other.1 = identity ∧ other.2.1 = uuid then none
                else current format (kv.view self.backend) self other) := by
  intro uuid out
  let drop (key : SessionKey) : Bool := key.1 = identity ∧ key.2.1 = uuid
  have dropped (key : SessionKey)
      : drop key = true ↔ key.1 = identity ∧ key.2.1 = uuid := decide_eq_true_iff
  have forgotten := inv.forgetAll drop
  obtain ⟨ready, sound, outcome⟩ := dropAddress_spec kv inv.ready inv.sound (identity, uuid)
  simp only [out, deleteAllSessions_eq]
  rcases outcome with ⟨e, failure, may, same⟩ | ⟨done, removed⟩
  · refine ⟨forgotten.rebase ready same, .inl ⟨e, ?_, may⟩⟩
    rw [failure]
    rfl
  · let devices := (cachedDevices identity uuid self.sessionCache).toFinset
      ∪ ((storedBundle format (kv.view self.backend) (identity, uuid)).getD ∅).keys.toFinset
    refine ⟨forgotten.restored ready sound ?_, .inr ⟨⟨devices, ?_, ?_⟩, fun other => ?_⟩⟩
    · intro other member
      have kept : ¬drop other = true := by
        simpa using (FiniteMap.mem_retain.mp member).1
      rw [removed, if_neg]
      intro same
      exact kept ((dropped other).mpr (Prod.mk.inj same))
    · rw [done]
      rfl
    · intro device
      rw [current_isSome kv inv, Finset.mem_union, List.mem_toFinset, List.mem_toFinset]
    · change ((FiniteMap.retain (fun key => !drop key) self.sessionCache).lookup other).or
        (storedSession format
          (kv.view (dropAddress format (identity, uuid) self.backend).2) other) = _
      rw [FiniteMap.lookup_retain, removed]
      by_cases here : other.1 = identity ∧ other.2.1 = uuid
      · rw [if_pos here, if_pos (Prod.ext here.1 here.2), (dropped other).mpr here]
        rfl
      · have kept : drop other = false := by
          simpa using fun gone => here ((dropped other).mp gone)
        rw [if_neg here, if_neg (fun same => here (Prod.mk.inj same)), kept]
        rfl

/-- The valid device ids of a list, as `DeviceId::try_from` filters them. -/
theorem mem_filterMap_tryFrom {ids : List UInt32} {device : DeviceId}
    : device ∈ ids.filterMap DeviceId.tryFrom ↔ device.id ∈ ids := by
  simp only [List.mem_filterMap, DeviceId.tryFrom]
  constructor
  · rintro ⟨id, member, accepted⟩
    split at accepted
    · obtain rfl := Option.some.inj accepted
      exact member
    · cases accepted
  · intro member
    exact ⟨device.id, member, by rw [dif_pos device.valid]⟩

/-- Filtering valid ids keeps an increasing list increasing. -/
theorem pairwise_filterMap_tryFrom {ids : List UInt32} (increasing : ids.Pairwise (· < ·))
    : (ids.filterMap DeviceId.tryFrom).Pairwise (fun left right => left.id < right.id) := by
  refine List.Pairwise.filterMap DeviceId.tryFrom ?_ increasing
  intro left right less left' acceptedLeft right' acceptedRight
  simp only [DeviceId.tryFrom] at acceptedLeft acceptedRight
  split at acceptedLeft <;> cases acceptedLeft
  split at acceptedRight <;> cases acceptedRight
  exact less

/-- Sorting and then removing repetitions yields a strictly increasing list. -/
theorem pairwise_sorted_dedup (ids : List UInt32)
    : (ids.mergeSort (· ≤ ·)).dedup.Pairwise (· < ·) := by
  have sorted : (ids.mergeSort (· ≤ ·)).Pairwise (· ≤ ·) := by
    have merged : (ids.mergeSort (· ≤ ·)).Pairwise (fun a b => decide (a ≤ b) = true) :=
      List.pairwise_mergeSort (fun a b c => by simpa using UInt32.le_trans)
        (fun a b => by simpa using UInt32.le_total a b) ids
    simpa using merged
  have weak := sorted.sublist (List.dedup_sublist (ids.mergeSort (· ≤ ·)))
  have distinct : (ids.mergeSort (· ≤ ·)).dedup.Pairwise (· ≠ ·) := List.nodup_dedup _
  refine (weak.and distinct).imp ?_
  rintro left right ⟨le, ne⟩
  exact UInt32.lt_of_le_of_ne le ne

/-- Listing the sub-devices yields, in order, the valid devices other than the primary one
that have a session, and changes no session.
-/
theorem getSubDeviceSessions_spec {self : PddbStore β ρ} (inv : SessionInv kv format self)
    (identity : IdentityType) (name : ServiceId)
    : let uuid := name.rawUuid.toString
      let out := getSubDeviceSessions format identity name self
      SessionInv kv format out.2
      ∧ kv.view out.2.backend = kv.view self.backend
      ∧ out.2.sessionCache = self.sessionCache
      ∧ out.2.sessionDirty = self.sessionDirty
      ∧ ((∃ e, out.1 = .error e ∧ kv.MayFail)
        ∨ ∃ devices : List DeviceId,
            out.1 = .ok devices
            ∧ devices.Pairwise (fun left right => left.id < right.id)
            ∧ ∀ device, device ∈ devices
                ↔ device ≠ defaultDeviceId
                  ∧ (current format (kv.view self.backend) self
                      (identity, uuid, device.id)).isSome) := by
  intro uuid out
  have read := backendGetSessionBundleProtocol_settles kv inv.ready inv.sound (identity, uuid)
  simp only [out, getSubDeviceSessions, onBackend]
  change AllOrNothing _ _ _ _ (backendGetSessionBundleProtocol format (dictSession identity)
    name.rawUuid.toString self.backend) _ _ at read
  generalize backendGetSessionBundleProtocol format (dictSession identity)
    name.rawUuid.toString self.backend = outcome at read ⊢
  obtain ⟨result, next⟩ := outcome
  cases read with
  | failed e may failure kept same =>
      simp only at failure kept same
      simp only [failure]
      exact ⟨inv.rebase kept same, same, trivial, trivial, .inl ⟨e, rfl, may⟩⟩
  | done returns =>
      obtain ⟨value, kept, same⟩ := returns
      simp only at value kept same
      simp only [value]
      refine ⟨inv.rebase kept same, same, trivial, trivial, .inr ⟨_, rfl, ?_, fun device => ?_⟩⟩
      · exact pairwise_filterMap_tryFrom (pairwise_sorted_dedup _)
      · have main : device ≠ defaultDeviceId ↔ device.id ≠ defaultDeviceId.id := by
          constructor
          · rintro different same
            exact different (by cases device; cases same; rfl)
          · rintro different rfl
            exact different rfl
        rw [mem_filterMap_tryFrom, List.mem_dedup, List.mem_mergeSort, List.mem_append,
          List.mem_filter, List.mem_filter, main, current_isSome kv inv]
        simp only [decide_eq_true_eq]
        tauto

end PddbStore

end XousAppSignal.Store
