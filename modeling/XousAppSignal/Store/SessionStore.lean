import Mathlib.Data.Finset.Card
import Mathlib.Data.List.Dedup
import XousAppSignal.Store.SessionBundle

/-! The session store with its in-memory cache and dirty set. `storeSession` only touches
memory; `flushSessions` writes the dirty records, one bundle per address, through the
backend. Every iteration over a hash map takes the order it happens in as an argument.
-/

namespace XousAppSignal.Store

/-- Cache key: identity, address name, device id. -/
abbrev SessionKey := IdentityType × String × UInt32

def sessionKey (identity : IdentityType) (address : ProtocolAddress) : SessionKey :=
  (identity, address.name, address.deviceId.id)

/-- The shared state of all clones of a store, as far as sessions are concerned. -/
structure PddbStore (β ρ : Type) where
  backend : β
  sessionCache : FiniteMap SessionKey ρ := ∅
  sessionDirty : FiniteSet SessionKey := ∅

/-- The hash orders a flush meets: of the dirty set, of the groups, of each bundle. -/
structure FlushOrder where
  dirty : HashOrder
  groups : HashOrder
  bundle : IdentityType × String → HashOrder

def FlushOrder.insertion : FlushOrder := ⟨.insertion, .insertion, fun _ => .insertion⟩

namespace PddbStore

variable {β ρ : Type}

def new (backend : β) : PddbStore β ρ := { backend }

/-- Run a backend call on the store's backend. -/
def onBackend {ε α : Type} (call : β → Except ε α × β)
    : PddbStore β ρ → Except ε α × PddbStore β ρ := fun self =>
  ((call self.backend).1, { self with backend := (call self.backend).2 })

/-- Copy the records of a bundle into the cache, skipping cached devices; a record that
does not deserialize stops the loop, and what was filled in before it stays.
-/
def prefill (format : RecordFormat ρ) (identity : IdentityType) (name : String)
    : List (UInt32 × Bytes) → FiniteMap SessionKey ρ
      → Except SignalProtocolError Unit × FiniteMap SessionKey ρ
  | [], cache => (.ok (), cache)
  | (device, ser) :: rest, cache =>
      if (cache.lookup (identity, name, device)).isSome then
        prefill format identity name rest cache
      else
        match format.deserialize ser with
        | .error e => (.error e, cache)
        | .ok record =>
            prefill format identity name rest (cache.insert (identity, name, device) record)

variable [KvBackend β]

/-- The cached record if there is one, else the address's bundle, all of whose devices
are copied into the cache on the way.
-/
def loadSession (format : RecordFormat ρ) (order : HashOrder) (identity : IdentityType)
    (address : ProtocolAddress)
    : ProtocolCall (PddbStore β ρ) (Option ρ) := fun self =>
  let key := sessionKey identity address
  match self.sessionCache.lookup key with
  | some record => (.ok (some record), self)
  | none =>
      match onBackend (backendGetSessionBundleProtocol format (dictSession identity)
          address.name) self with
      | (.error e, self) => (.error e, self)
      | (.ok none, self) => (.ok none, self)
      | (.ok (some bundle), self) =>
          let (filled, cache) := prefill format identity address.name
            (order.arrange (FiniteMap.pairs bundle)) self.sessionCache
          let self := { self with sessionCache := cache }
          match filled with
          | .error e => (.error e, self)
          | .ok () =>
              match bundle.lookup key.2.2 with
              | none => (.ok none, self)
              | some ser => ((format.deserialize ser).map some, self)

/-- Record the new session in memory and mark it dirty; nothing is written. -/
def storeSession (identity : IdentityType) (address : ProtocolAddress) (record : ρ)
    (self : PddbStore β ρ)
    : PddbStore β ρ :=
  let key := sessionKey identity address
  { self with
    sessionCache := self.sessionCache.insert key record
    sessionDirty := self.sessionDirty.insert key () }

/-- The devices cached for an address. -/
def cachedDevices (identity : IdentityType) (name : String) (cache : FiniteMap SessionKey ρ)
    : List UInt32 :=
  (cache.keys.filter (fun key => key.1 = identity ∧ key.2.1 = name)).map (fun key => key.2.2)

/-- Cached and stored devices of an account other than its primary one, in order. -/
def getSubDeviceSessions (format : RecordFormat ρ) (identity : IdentityType)
    (name : ServiceId)
    : ProtocolCall (PddbStore β ρ) (List DeviceId) := fun self =>
  let uuid := name.rawUuid.toString
  let main := defaultDeviceId.id
  let cached := (cachedDevices identity uuid self.sessionCache).filter (· ≠ main)
  match onBackend (backendGetSessionBundleProtocol format (dictSession identity) uuid) self with
  | (.error e, self) => (.error e, self)
  | (.ok found, self) =>
      let stored := ((found.getD ∅).keys).filter (· ≠ main)
      let sorted := (cached ++ stored).mergeSort (· ≤ ·)
      (.ok (sorted.dedup.filterMap DeviceId.tryFrom), self)

/-- Forget one device: first in memory, then in the stored bundle, whose slot is deleted
with its last device.
-/
def deleteSession (format : RecordFormat ρ) (order : HashOrder) (identity : IdentityType)
    (address : ProtocolAddress)
    : ProtocolCall (PddbStore β ρ) Unit := fun self =>
  let key := sessionKey identity address
  let dict := dictSession identity
  let self :=
    { self with
      sessionCache := self.sessionCache.erase key
      sessionDirty := self.sessionDirty.erase key }
  match onBackend (backendGetSessionBundleProtocol format dict key.2.1) self with
  | (.error e, self) => (.error e, self)
  | (.ok none, self) => (.ok (), self)
  | (.ok (some bundle), self) =>
      if (bundle.lookup key.2.2).isNone then (.ok (), self)
      else
        let bundle := bundle.erase key.2.2
        if bundle.entries.isEmpty then onBackend (backendDeleteProtocol dict key.2.1) self
        else onBackend (backendPutSessionBundleProtocol order dict key.2.1 bundle) self

/-- Forget every device of an account and count the distinct ones. The memory part is
done before the backend is asked, and stays done if the backend fails.
-/
def deleteAllSessions (format : RecordFormat ρ) (identity : IdentityType)
    (address : ServiceId)
    : ProtocolCall (PddbStore β ρ) Nat := fun self =>
  let uuid := address.rawUuid.toString
  let dict := dictSession identity
  let drop (key : SessionKey) : Bool := key.1 = identity ∧ key.2.1 = uuid
  let affected := (cachedDevices identity uuid self.sessionCache).toFinset
  let self :=
    { self with
      sessionCache := FiniteMap.retain (fun key => !drop key) self.sessionCache
      sessionDirty :=
        FiniteMap.retain (fun key => !(drop key && (self.sessionCache.lookup key).isSome))
          self.sessionDirty }
  match onBackend (backendGetSessionBundleProtocol format dict uuid) self with
  | (.error e, self) => (.error e, self)
  | (.ok none, self) => (.ok affected.card, self)
  | (.ok (some bundle), self) =>
      let affected := affected ∪ bundle.keys.toFinset
      match onBackend (backendDeleteProtocol dict uuid) self with
      | (.error e, self) => (.error e, self)
      | (.ok (), self) => (.ok affected.card, self)

-----------------------------------------------------------------------------------------
-- Flushing
-----------------------------------------------------------------------------------------

/-- Dirty records grouped by the slot they are stored in. -/
abbrev SessionGroups := FiniteMap (IdentityType × String) (List (UInt32 × Bytes))

/-- Serialize the dirty records and group them by slot; the first record that does not
serialize ends the flush before anything was written.
-/
def groupDirty (format : RecordFormat ρ) (cache : FiniteMap SessionKey ρ)
    : List SessionKey → SessionGroups → Except Error SessionGroups
  | [], groups => .ok groups
  | key :: rest, groups =>
      match cache.lookup key with
      | none => groupDirty format cache rest groups
      | some record =>
          match format.serialize record with
          | .error e => .error (.encode e)
          | .ok bytes =>
              let slot := (key.1, key.2.1)
              let entries := (groups.lookup slot).getD [] ++ [(key.2.2, bytes)]
              groupDirty format cache rest (groups.insert slot entries)

/-- Read, extend and write back one bundle per group, counting the records written. -/
def writeGroups (format : RecordFormat ρ) (order : IdentityType × String → HashOrder)
    : List ((IdentityType × String) × List (UInt32 × Bytes)) → Nat → Call β Nat
  | [], written, backend => (.ok written, backend)
  | (slot, entries) :: rest, written, backend =>
      let dict := dictSession slot.1
      match backendGetSessionBundle format dict slot.2 backend with
      | (.error e, backend) => (.error e, backend)
      | (.ok found, backend) =>
          let bundle := FiniteMap.insertAll (found.getD ∅) entries
          match backendPutSessionBundle (order slot) dict slot.2 bundle backend with
          | (.error e, backend) => (.error e, backend)
          | (.ok (), backend) =>
              writeGroups format order rest (written + entries.length) backend

/-- Persist every dirty session; the dirty set is cleared on full success only. -/
def flushSessions (format : RecordFormat ρ) (order : FlushOrder)
    : Call (PddbStore β ρ) Nat := fun self =>
  if self.sessionDirty.entries.isEmpty then (.ok 0, self)
  else
    match groupDirty format self.sessionCache
        (order.dirty.arrange self.sessionDirty.keys) ∅ with
    | .error e => (.error e, self)
    | .ok groups =>
        match onBackend (writeGroups format order.bundle
            (order.groups.arrange (FiniteMap.pairs groups)) 0) self with
        | (.error e, self) => (.error e, self)
        | (.ok written, self) => (.ok written, { self with sessionDirty := ∅ })

end PddbStore

end XousAppSignal.Store
