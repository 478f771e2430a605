import XousAppSignal.Store.SessionMerge

/-! A failed flush can be retried: it may have rewritten some of the slots, but only under
records that are still dirty and cached. Loads answer as before, and the next flush that
succeeds leaves the bundles as if the failed ones had not been attempted.
-/

namespace XousAppSignal.Store

variable {β ρ : Type} {format : RecordFormat ρ}

/-- The byte vectors of a format have a 64-bit length. -/
structure RecordFormat.Addressable (format : RecordFormat ρ) : Prop where
  serialized {record : ρ} {bytes : Bytes} (written : format.serialize record = .ok bytes)
    : Bincode.Fits bytes
  parsed {bytes : Bytes} {bundle : SessionBundle} (read : format.fromJson bytes = .ok bundle)
    {device : UInt32} {ser : Bytes} (found : bundle.lookup device = some ser)
    : Bincode.Fits ser

/-- Every record of a bundle that was read back can be written. -/
theorem bundleOf_fits (addressable : format.Addressable) {stored : Option Bytes}
    {bundle : SessionBundle} (decoded : bundleOf format stored = .ok bundle) {device : UInt32}
    {ser : Bytes} (found : bundle.lookup device = some ser)
    : Bincode.Fits ser := by
  have parsed {bytes : Bytes} (read : (format.fromJson bytes).mapError Error.decode = .ok bundle)
      : Bincode.Fits ser := by
    cases outcome : format.fromJson bytes with
    | error e => simp [outcome, Except.mapError] at read
    | ok other =>
        simp only [outcome, Except.mapError, Except.ok.injEq] at read
        exact addressable.parsed outcome (read ▸ found)
  cases stored with
  | none =>
      cases decoded
      simp at found
  | some bytes =>
      cases bytes with
      | nil => exact parsed decoded
      | cons version body =>
          simp only [bundleOf, deserializeSessionBundle] at decoded
          split at decoded
          · split at decoded
            · next read =>
                cases decoded
                exact Bincode.decodeMap_fits read device ser found
            · cases decoded
          · exact parsed decoded

/-- The state of a session bundle: missing, undecodable, or the bytes of its devices. -/
def bundleState (format : RecordFormat ρ) (stored : Option Bytes)
    : Option (Except Error (UInt32 → Option Bytes)) :=
  stored.map (fun bytes =>
    (deserializeSessionBundle format bytes).map (fun bundle device => bundle.lookup device))

namespace PddbStore

/-- A rewritten slot reads back as its old bundle under the pending bytes. -/
theorem Rewritten.read (addressable : format.Addressable) {self : PddbStore β ρ}
    {slot : IdentityType × String} {before after : Option Bytes}
    (rewritten : Rewritten format self slot before after)
    : ∃ old new bytes, bundleOf format before = .ok old ∧ after = some bytes
      ∧ deserializeSessionBundle format bytes = .ok new
      ∧ ∀ device, new.lookup device
          = (pendingBytes format self (slot.1, slot.2, device)).or (old.lookup device) := by
  obtain ⟨-, old, written, order, decoded, stored, lookups⟩ := rewritten
  have fits (device : UInt32) (ser : Bytes) (found : written.lookup device = some ser)
      : Bincode.Fits ser := by
    rw [lookups] at found
    rcases Option.or_eq_some_iff.mp found with pending | ⟨-, kept⟩
    · obtain ⟨-, record, -, serialized⟩ := pendingBytes_eq_some.mp pending
      exact addressable.serialized serialized
    · exact bundleOf_fits addressable decoded kept
  obtain ⟨new, read, same⟩ := deserialize_serializeSessionBundle format order fits
  exact ⟨old, new, _, decoded, stored, read, fun device => (same device).trans (lookups device)⟩

-----------------------------------------------------------------------------------------
-- A store after failed flushes beside one without them
-----------------------------------------------------------------------------------------

/-- The slot is as it would be, or holds a bundle that differs from what it would hold only
at devices that are dirty and cached.
-/
def SlotAgrees (format : RecordFormat ρ) (self : PddbStore β ρ) (slot : IdentityType × String)
    (ideal real : Option Bytes)
    : Prop :=
  real = ideal
    ∨ (∃ device, self.DirtyCached (slot.1, slot.2, device))
      ∧ ∃ old new, bundleOf format ideal = .ok old ∧ bundleOf format real = .ok new
        ∧ ∀ device, ¬ self.DirtyCached (slot.1, slot.2, device)
          → new.lookup device = old.lookup device

variable [KvBackend β] (kv : KvAtomic β)

/-- A store after failed flushes, beside the same store without them. -/
structure AfterFailures (format : RecordFormat ρ) (ideal real : PddbStore β ρ) : Prop where
  readyIdeal : kv.Ready ideal.backend
  ready : kv.Ready real.backend
  cache : real.sessionCache = ideal.sessionCache
  dirty : real.sessionDirty = ideal.sessionDirty
  agree (slot : IdentityType × String)
    : SlotAgrees format ideal slot (kv.view ideal.backend (sessionSlot slot))
        (kv.view real.backend (sessionSlot slot))

namespace AfterFailures

variable {kv} {ideal real : PddbStore β ρ}

theorem refl {self : PddbStore β ρ} (ready : kv.Ready self.backend)
    : AfterFailures kv format self self :=
  ⟨ready, ready, rfl, rfl, fun _ => .inl rfl⟩

/-- Both stores have the same dirty records. -/
theorem dirtyCached_iff (related : AfterFailures kv format ideal real) (key : SessionKey)
    : real.DirtyCached key ↔ ideal.DirtyCached key := by
  rw [DirtyCached, DirtyCached, related.cache, related.dirty]

theorem pendingBytes_eq (related : AfterFailures kv format ideal real) (key : SessionKey)
    : pendingBytes format real key = pendingBytes format ideal key := by
  rw [pendingBytes, pendingBytes, related.cache, related.dirty]

/-- Another failed flush keeps the relation. -/
theorem flush_failed (addressable : format.Addressable)
    (related : AfterFailures kv format ideal real) {order : FlushOrder} {e : Error}
    (failed : (flushSessions format order real).1 = .error e)
    : AfterFailures kv format ideal (flushSessions format order real).2 := by
  obtain ⟨ready, outcome⟩ := flushSessions_outcome kv format related.ready order
  rcases outcome.outcome with ⟨_, -, -, dirty, slots⟩ | ⟨n, succeeded, -⟩
  · refine ⟨related.readyIdeal, ready, outcome.cache.trans related.cache,
      dirty.trans related.dirty, fun slot => ?_⟩
    rcases slots slot with same | rewritten
    · rw [same]
      exact related.agree slot
    · obtain ⟨device, dirty⟩ := rewritten.1
      obtain ⟨old, new, bytes, decoded, stored, read, lookups⟩ := rewritten.read addressable
      have clean (device : UInt32) (clean : ¬ ideal.DirtyCached (slot.1, slot.2, device))
          : new.lookup device = old.lookup device := by
        rw [lookups, pendingBytes_of_not (mt (related.dirtyCached_iff _).mp clean),
          Option.none_or]
      have readBack : bundleOf format (kv.view (flushSessions format order real).2.backend
          (sessionSlot slot)) = .ok new := by
        rw [stored]
        exact read
      refine .inr ⟨⟨device, (related.dirtyCached_iff _).mp dirty⟩, ?_⟩
      rcases related.agree slot with same | ⟨-, first, second, decodedFirst, decodedSecond, agree⟩
      · exact ⟨old, new, same ▸ decoded, readBack, clean⟩
      · obtain rfl := Except.ok.inj (decoded.symm.trans decodedSecond)
        exact ⟨first, new, decodedFirst, readBack,
          fun device other => (clean device other).trans (agree device other)⟩
  · rw [failed] at succeeded
    cases succeeded

/-- Storing a session in both keeps the relation: what was dirty and cached stays so. -/
theorem stored (related : AfterFailures kv format ideal real) (identity : IdentityType)
    (address : ProtocolAddress) (record : ρ)
    : AfterFailures kv format (storeSession identity address record ideal)
        (storeSession identity address record real) := by
  have grows {key : SessionKey} (dirty : ideal.DirtyCached key)
      : (storeSession identity address record ideal).DirtyCached key :=
    ⟨(AList.mem_insert _).mpr (.inr dirty.1), (AList.mem_insert _).mpr (.inr dirty.2)⟩
  refine ⟨related.readyIdeal, related.ready, ?_, ?_, fun slot => ?_⟩
  · simp only [storeSession, related.cache]
  · simp only [storeSession, related.dirty]
  · refine (related.agree slot).imp_right ?_
    rintro ⟨⟨device, dirty⟩, old, new, decoded, read, agree⟩
    exact ⟨⟨device, grows dirty⟩, old, new, decoded, read,
      fun device clean => agree device (mt grows clean)⟩

/-- Flushes that succeed leave the same bundles in both. -/
theorem flushed (addressable : format.Addressable)
    (related : AfterFailures kv format ideal real) {order order' : FlushOrder} {n n' : Nat}
    (succeeded : (flushSessions format order real).1 = .ok n)
    (succeeded' : (flushSessions format order' ideal).1 = .ok n') (slot : IdentityType × String)
    : bundleState format (kv.view (flushSessions format order real).2.backend (sessionSlot slot))
      = bundleState format
          (kv.view (flushSessions format order' ideal).2.backend (sessionSlot slot)) := by
  obtain ⟨-, out⟩ := flushSessions_outcome kv format related.ready order
  obtain ⟨-, out'⟩ := flushSessions_outcome kv format related.readyIdeal order'
  rcases out.outcome with ⟨e, failed, -⟩ | ⟨-, -, -, -, rewritten⟩
  · rw [succeeded] at failed
    cases failed
  rcases out'.outcome with ⟨e, failed, -⟩ | ⟨-, -, -, written, rewritten'⟩
  · rw [succeeded'] at failed
    cases failed
  by_cases some_dirty : ∃ device, ideal.DirtyCached (slot.1, slot.2, device)
  · obtain ⟨device, dirty⟩ := some_dirty
    obtain ⟨old, new, bytes, decoded, stored, read, lookups⟩ :=
      (rewritten slot ⟨device, (related.dirtyCached_iff _).mpr dirty⟩).read addressable
    obtain ⟨old', new', bytes', decoded', stored', read', lookups'⟩ :=
      (rewritten' slot ⟨device, dirty⟩).read addressable
    have clean (device : UInt32) (clean : ¬ ideal.DirtyCached (slot.1, slot.2, device))
        : old.lookup device = old'.lookup device := by
      rcases related.agree slot with same | ⟨-, first, second, decodedFirst, decodedSecond, agree⟩
      · rw [same, decoded'] at decoded
        rw [Except.ok.inj decoded]
      · obtain rfl := Except.ok.inj (decoded'.symm.trans decodedFirst)
        obtain rfl := Except.ok.inj (decoded.symm.trans decodedSecond)
        exact agree device clean
    have same : (fun device => new.lookup device) = fun device => new'.lookup device := by
      funext device
      rw [lookups, lookups', related.pendingBytes_eq]
      by_cases dirty : ideal.DirtyCached (slot.1, slot.2, device)
      · obtain ⟨bytes, pending⟩ := Option.isSome_iff_exists.mp (written _ dirty)
        rw [pending, Option.some_or, Option.some_or]
      · rw [clean device dirty]
    simp only [bundleState, stored, stored', read, read', Option.map_some, Except.map, same]
  · have elsewhere (self : PddbStore β ρ)
        (same : ∀ key, self.DirtyCached key ↔ ideal.DirtyCached key)
        (slot' : IdentityType × String) (device : UInt32)
        (dirty : self.DirtyCached (slot'.1, slot'.2, device))
        : sessionSlot slot ≠ sessionSlot slot' := by
      intro here
      obtain rfl := sessionSlot_inj here
      exact some_dirty ⟨device, (same _).mp dirty⟩
    rw [out.others _ (elsewhere real related.dirtyCached_iff),
      out'.others _ (elsewhere ideal fun _ => .rfl)]
    rcases related.agree slot with same | ⟨some_dirty', -⟩
    · rw [same]
    · exact absurd some_dirty' some_dirty

omit [KvBackend β] in
/-- Bundles that agree on the uncached devices give every answer of the one to the other. -/
theorem loadAnswers_subset {identity : IdentityType} {address : ProtocolAddress}
    {cache : FiniteMap SessionKey ρ} {stored stored' : Option Bytes}
    {bundle bundle' : SessionBundle}
    (decoded : bundleOf format stored = .ok bundle)
    (decoded' : bundleOf format stored' = .ok bundle')
    (same
      : ∀ device, cache.lookup (identity, address.name, device) = none
          → bundle.lookup device = bundle'.lookup device)
    : loadAnswers format identity address stored cache
      ⊆ loadAnswers format identity address stored' cache := by
  intro answer member
  cases hit : cache.lookup (sessionKey identity address) with
  | some record =>
      obtain ⟨order, shown⟩ := member
      refine ⟨order, Eq.trans ?_ shown⟩
      simp only [loadFrom, hit]
  | none =>
      rw [mem_loadAnswers hit decoded] at member
      rw [mem_loadAnswers hit decoded']
      rcases member with ⟨entry, e, found, stop, shown⟩ | ⟨none_stops, shown⟩
      · have uncached := (stops_eq_some.mp stop).1
        exact .inl ⟨entry, e, same _ uncached ▸ found, stop, shown⟩
      · refine .inr ⟨fun entry found => ?_, ?_⟩
        · cases stop : stops format identity address.name cache entry with
          | none => rfl
          | some e =>
              have uncached := (stops_eq_some.mp stop).1
              rw [none_stops entry ((same _ uncached).trans found)] at stop
              cases stop
        · rw [shown, SessionBundle.ownRecord, same _ hit, SessionBundle.ownRecord]

/-- Loads have the same answers in both stores. -/
theorem loadAnswers_eq (related : AfterFailures kv format ideal real) (identity : IdentityType)
    (address : ProtocolAddress)
    : loadAnswers format identity address
        (kv.view real.backend (dictSession identity, address.name)) real.sessionCache
      = loadAnswers format identity address
        (kv.view ideal.backend (dictSession identity, address.name)) ideal.sessionCache := by
  rw [related.cache]
  rcases related.agree (identity, address.name) with same | ⟨-, old, new, decoded, read, agree⟩
  · exact congrArg (fun stored => loadAnswers format identity address stored _) same
  · have uncached (device : UInt32)
        (missing : ideal.sessionCache.lookup (identity, address.name, device) = none)
        : new.lookup device = old.lookup device :=
      agree device fun dirty => absurd dirty.2 (AList.lookup_eq_none.mp missing)
    exact Set.Subset.antisymm (loadAnswers_subset read decoded uncached)
      (loadAnswers_subset decoded read fun device missing => (uncached device missing).symm)

end AfterFailures

-----------------------------------------------------------------------------------------
-- Retrying
-----------------------------------------------------------------------------------------

/-- What may happen between a failed flush and the one that succeeds. -/
inductive Interlude (ρ : Type) where
  | store (identity : IdentityType) (address : ProtocolAddress) (record : ρ)
  | failedFlush (order : FlushOrder)

namespace Interlude

def perform (format : RecordFormat ρ) (self : PddbStore β ρ) : Interlude ρ → PddbStore β ρ
  | .store identity address record => storeSession identity address record self
  | .failedFlush order => (flushSessions format order self).2

omit [KvBackend β] in
/-- The same without the flushes. -/
def skipFlush (self : PddbStore β ρ) : Interlude ρ → PddbStore β ρ
  | .store identity address record => storeSession identity address record self
  | .failedFlush _ => self

/-- A flush of the interlude does fail. -/
def Fails (format : RecordFormat ρ) (self : PddbStore β ρ) : Interlude ρ → Prop
  | .store .. => True
  | .failedFlush order => ∃ e, (flushSessions format order self).1 = .error e

end Interlude

/-- After any stores and failed flushes, by induction on them. -/
theorem AfterFailures.run {kv : KvAtomic β} (addressable : format.Addressable)
    {ideal real : PddbStore β ρ} (related : AfterFailures kv format ideal real)
    {between : List (Interlude ρ)}
    (fails : Runs.Guarded (Interlude.perform format) (Interlude.Fails format) real between)
    : AfterFailures kv format (Runs.run Interlude.skipFlush ideal between)
        (Runs.run (Interlude.perform format) real between) := by
  induction between generalizing ideal real with
  | nil => exact related
  | cons event rest ih =>
      refine ih ?_ fails.2
      cases event with
      | store identity address record => exact related.stored identity address record
      | failedFlush order =>
          obtain ⟨e, failed⟩ := fails.1
          exact related.flush_failed addressable failed

/-- What a failed flush leaves: the dirty set, the cache and the answers of all loads as they
were, and after any stores and further failures a flush that succeeds stores what it would
have stored without the failed ones, on any backend of the same content.
-/
structure Retryable (format : RecordFormat ρ) (store left : PddbStore β ρ) : Prop where
  dirty : left.sessionDirty = store.sessionDirty
  cache : left.sessionCache = store.sessionCache
  answers (identity : IdentityType) (address : ProtocolAddress)
    : loadAnswers format identity address
        (kv.view left.backend (dictSession identity, address.name)) left.sessionCache
      = loadAnswers format identity address
        (kv.view store.backend (dictSession identity, address.name)) store.sessionCache
  loads (order : HashOrder) (identity : IdentityType) (address : ProtocolAddress)
    : (kv.MayFail ∧ ∃ e, (loadSession format order identity address left).1 = .error e)
      ∨ (loadSession format order identity address left).1
        ∈ loadAnswers format identity address
          (kv.view store.backend (dictSession identity, address.name)) store.sessionCache
  retry {between : List (Interlude ρ)}
    (fails : Runs.Guarded (Interlude.perform format) (Interlude.Fails format) left between)
    {order order' : FlushOrder} {other : β} (ready : kv.Ready other)
    (same : kv.view other = kv.view store.backend) {n n' : Nat}
    (succeeded
      : (flushSessions format order (Runs.run (Interlude.perform format) left between)).1
        = .ok n)
    (succeeded'
      : (flushSessions format order'
          (Runs.run Interlude.skipFlush { store with backend := other } between)).1
        = .ok n')
    (slot : IdentityType × String)
    : bundleState format (kv.view (flushSessions format order
          (Runs.run (Interlude.perform format) left between)).2.backend (sessionSlot slot))
      = bundleState format (kv.view (flushSessions format order'
          (Runs.run Interlude.skipFlush { store with backend := other } between)).2.backend
            (sessionSlot slot))

/-- A flush either succeeds and has stored every dirty record, or reports the error of the call
at which it failed, and can be retried.
-/
theorem flush_complete_or_retryable (addressable : format.Addressable) {self : PddbStore β ρ}
    (ready : kv.Ready self.backend) (order : FlushOrder)
    : let out := flushSessions format order self
      FlushOutcome format kv.MayFail self out (kv.view self.backend) (kv.view out.2.backend)
      ∧ ∀ e, out.1 = .error e → Retryable kv format self out.2 := by
  intro out
  refine ⟨(flushSessions_outcome kv format ready order).2, fun e failed => ?_⟩
  have related := (AfterFailures.refl ready).flush_failed addressable failed
  refine ⟨related.dirty, related.cache, related.loadAnswers_eq, ?_, ?_⟩
  · intro order identity address
    obtain ⟨-, -, -, ⟨e, may, answer, -⟩ | answer⟩ :=
      loadSession_settles kv format related.ready order identity address
    · exact .inl ⟨may, e, answer⟩
    · rw [← related.loadAnswers_eq]
      exact .inr ⟨order, (congrArg Prod.fst answer).symm⟩
  · intro between fails order order' other readyOther same n n' succeeded succeeded' slot
    have moved : AfterFailures kv format { self with backend := other } out.2 :=
      ⟨readyOther, related.ready, related.cache, related.dirty, fun slot => by
        rw [same]
        exact related.agree slot⟩
    exact (moved.run addressable fails).flushed addressable succeeded succeeded' slot

theorem oneByte_addressable : RecordFormat.oneByte.Addressable :=
  ⟨RecordFormat.oneByte_roundTrip.fits, fun read => by cases read⟩

/-- Dirty sessions at two addresses, over a backend whose second put fails. -/
def halfwayStore : PddbStore InnerBackend UInt8 :=
  storeSession .aci ⟨"bob", defaultDeviceId⟩ 8
    (storeSession .aci ⟨"alice", defaultDeviceId⟩ 7
      (.new ⟨(∅ : FiniteMap (String × String) Bytes).insert (dictSession .aci, "alice")
        (serializeSessionBundle .insertion ((∅ : SessionBundle).insertAll [(2, [])])),
        { put := [none, some (.preDelete (.backend "no space"))] }⟩))

/-- Witness: a flush that fails at its second put, having rewritten one address. -/
theorem flush_retryable_halfway
    : (flushSessions .oneByte .insertion halfwayStore).1 = .error (.backend "no space")
      ∧ Retryable InnerBackend.atomic .oneByte halfwayStore
        (flushSessions .oneByte .insertion halfwayStore).2 := by
  have failed : (flushSessions .oneByte .insertion halfwayStore).1
      = .error (.backend "no space") := rfl
  have ready : halfwayStore.backend.plan.PutsKeep := by decide
  exact ⟨failed, (flush_complete_or_retryable InnerBackend.atomic oneByte_addressable ready
    .insertion).2 _ failed⟩

end PddbStore

end XousAppSignal.Store
