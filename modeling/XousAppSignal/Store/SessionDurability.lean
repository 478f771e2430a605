import XousAppSignal.Store.FailedPuts

/-! Durability of flushed sessions on a buffering store, under any pattern of inner
failures. A flush inside a batch only reaches the batch's buffer, so whether its records
become durable is decided by the commit or abort that ends the batch.
-/

namespace XousAppSignal.Store

variable {β ρ : Type}

theorem storedBundle_congr {format : RecordFormat ρ} {left right : View}
    {slot : IdentityType × String}
    (same : left (dictSession slot.1, slot.2) = right (dictSession slot.1, slot.2))
    : storedBundle format left slot = storedBundle format right slot := by
  rw [storedBundle, same, storedBundle]

theorem storedSession_congr {format : RecordFormat ρ} {left right : View} {key : SessionKey}
    (same : left (dictSession key.1, key.2.1) = right (dictSession key.1, key.2.1))
    : storedSession format left key = storedSession format right key := by
  rw [storedSession, @storedBundle_congr _ _ left right (key.1, key.2.1) same, storedSession]

/-- A view whose bundles are taken from two sound views, or are gone, is sound. -/
theorem Sound.mix {format : RecordFormat ρ} {left right view : View}
    (soundLeft : Sound format left) (soundRight : Sound format right)
    (each : ∀ address, view (bundleSlot address) = left (bundleSlot address)
      ∨ view (bundleSlot address) = right (bundleSlot address)
      ∨ view (bundleSlot address) = none)
    : Sound format view := by
  intro address occupied
  rcases each address with same | same | gone
  · rw [storedBundle_congr same]
    exact soundLeft address (same ▸ occupied)
  · rw [storedBundle_congr same]
    exact soundRight address (same ▸ occupied)
  · exact absurd gone occupied

/-- A property kept by the single-key calls strengthens the states considered. -/
def KvAtomic.restrict [KvBackend β] (kv : KvAtomic β) (Keep : β → Prop)
    (get
      : ∀ {backend}, kv.Ready backend → Keep backend → ∀ dict key,
          Keep (KvBackend.get dict key backend).2)
    (put
      : ∀ {backend}, kv.Ready backend → Keep backend → ∀ dict key value,
          Keep (KvBackend.put dict key value backend).2)
    (delete
      : ∀ {backend}, kv.Ready backend → Keep backend → ∀ dict key,
          Keep (KvBackend.delete dict key backend).2)
    : KvAtomic β where
  Ready backend := kv.Ready backend ∧ Keep backend
  MayFail := kv.MayFail
  view := kv.view
  get ready dict key := (kv.get ready.1 dict key).strengthen (get ready.1 ready.2 dict key)
  put ready dict key value :=
    (kv.put ready.1 dict key value).strengthen (put ready.1 ready.2 dict key value)
  delete ready dict key :=
    (kv.delete ready.1 dict key).strengthen (delete ready.1 ready.2 dict key)

namespace BufferingBackend

/-- What the wrapper over an inner backend shows. -/
abbrev shown (self : BufferingBackend InnerBackend) : View :=
  (atomic InnerBackend.atomic).view self

/-- The wrapper's single-key calls outside a batch, which leave the buffer alone. -/
def outside [KvBackend β] (inner : KvAtomic β) (was : BufferingBackend β)
    : KvAtomic (BufferingBackend β) :=
  (atomic inner).restrict (fun self => self.batching = false ∧ self.buffer = was.buffer)
    (by
      intro self ready scope dict key
      simp only [KvBackend.get, get, isBatching, scope.1]
      exact scope)
    (by
      intro self ready scope dict key value
      simp only [KvBackend.put, put, isBatching, scope.1]
      exact scope)
    (by
      intro self ready scope dict key
      simp only [KvBackend.delete, delete, isBatching, scope.1]
      exact scope)

/-- The wrapper's single-key calls inside a batch. Writes and deletions reach the buffer only:
whatever is planned for inner puts, these calls are all-or-nothing, and the inner map stays.
-/
def inBatch (was : BufferingBackend InnerBackend) : KvAtomic (BufferingBackend InnerBackend)
    where
  Ready self := self.batching = true ∧ self.inner.map = was.inner.map
  MayFail := True
  view := (atomic InnerBackend.atomic).view
  get := by
    intro self ready dict key
    obtain ⟨opened, frozen⟩ := ready
    cases found : self.buffer.lookup (dict, key) with
    | some entry =>
        refine .done ⟨?_, ?_, ?_⟩ <;>
          simp only [KvBackend.get, get, isBatching, opened, found, atomic, view, if_true, overlay]
        exact ⟨trivial, frozen⟩
    | none =>
        cases fault : self.inner.plan.get.head?.join with
        | some e =>
            refine .failed e trivial ?_ ?_ ?_ <;>
              simp only [KvBackend.get, get, isBatching, opened, found, forward,
                InnerBackend.get, fault, atomic, view, if_true]
            · exact ⟨trivial, frozen⟩
            · rfl
        | none =>
            refine .done ⟨?_, ?_, ?_⟩ <;>
              simp only [KvBackend.get, get, isBatching, opened, found, forward,
                InnerBackend.get, fault, atomic, view, if_true, overlay]
            · rfl
            · exact ⟨trivial, frozen⟩
            · rfl
  put := by
    intro self ready dict key value
    refine .done ⟨?_, ?_, ?_⟩ <;>
      simp only [KvBackend.put, put, isBatching, ready.1, atomic, view, if_true, overlay_insert,
        BufferEntry.value]
    exact ⟨trivial, ready.2⟩
  delete := by
    intro self ready dict key
    refine .done ⟨?_, ?_, ?_⟩ <;>
      simp only [KvBackend.delete, delete, isBatching, ready.1, atomic, view, if_true,
        overlay_insert, BufferEntry.value]
    exact ⟨trivial, ready.2⟩

end BufferingBackend

theorem SessionOp.perform_inv [KvBackend β] {kv : KvAtomic β} {format : RecordFormat ρ}
    (roundTrip : format.RoundTrip) {store : PddbStore β ρ}
    (inv : store.SessionInv kv format) (op : SessionOp ρ)
    : (op.perform format store).SessionInv kv format := by
  cases op with
  | storeSession identity address record =>
      exact PddbStore.storeSession_inv kv inv identity address record
  | loadSession order identity address =>
      exact (PddbStore.loadSession_spec kv inv order identity address).1
  | flushSessions order => exact (PddbStore.flushSessions_spec kv roundTrip inv order).1
  | deleteSession order identity address =>
      exact (PddbStore.deleteSession_spec kv inv order identity address).1
  | deleteAllSessions identity aci =>
      exact (PddbStore.deleteAllSessions_spec kv inv identity (.aci aci)).1
  | getSubDeviceSessions identity aci =>
      exact (PddbStore.getSubDeviceSessions_spec kv inv identity (.aci aci)).1

-----------------------------------------------------------------------------------------
-- Runs of session calls and batches
-----------------------------------------------------------------------------------------

namespace PddbStore

/-- A store wrapping its inner backend for send-time batches. -/
def newBuffering (inner : β) : PddbStore (BufferingBackend β) ρ := new (.new inner)

def beginSendBatch : Call (PddbStore (BufferingBackend β) ρ) Unit :=
  onBackend BufferingBackend.beginBatch

/-- Commit through the guard of the open batch. -/
def commitBatch [KvBackend β] (order : HashOrder)
    : Call (PddbStore (BufferingBackend β) ρ) Nat :=
  onBackend (BufferingBackend.commitInternal order)

/-- The guard of the open batch is dropped without a commit. -/
def abortBatch (self : PddbStore (BufferingBackend β) ρ)
    : PddbStore (BufferingBackend β) ρ :=
  { self with backend := self.backend.abortInternal }

end PddbStore

/-- A session call, or the begin or end of a batch. -/
inductive StoreOp (ρ : Type) where
  | session (op : SessionOp ρ)
  | beginSendBatch
  | commit (order : HashOrder)
  | abort

namespace StoreOp

/-- A buffering store over an inner backend that may fail. -/
abbrev Buffered (ρ : Type) := PddbStore (BufferingBackend InnerBackend) ρ

/-- The store after a call; a batch can be ended only through the guard of an open one. -/
def perform (format : RecordFormat ρ) (store : Buffered ρ) : StoreOp ρ → Buffered ρ
  | .session op => op.perform format store
  | .beginSendBatch => store.beginSendBatch.2
  | .commit order => if store.backend.isBatching then (store.commitBatch order).2 else store
  | .abort => if store.backend.isBatching then store.abortBatch else store

/-- What the inner backend of a store holds. -/
def innerView (store : Buffered ρ) : View := fun slot => store.backend.inner.map.lookup slot

/-- Each session in the bundle the batch has buffered for this address is still dirty, or
held by the inner backend already.
-/
def Held (format : RecordFormat ρ) (store : Buffered ρ) (slot : IdentityType × String)
    : Prop :=
  ∀ bytes bundle device record,
    store.backend.buffer.lookup (dictSession slot.1, slot.2) = some (.put bytes)
    → deserializeSessionBundle format bytes = .ok bundle
    → SessionBundle.session format bundle device = some record
    → (slot.1, slot.2, device) ∉ store.sessionDirty
    → storedSession format (innerView store) (slot.1, slot.2, device) = some record

/-- A call drops no session. A put that fails leaves its key as it was, or takes the bundle away
when every cached session of the address is dirty, or about to be deleted. Ending a batch, an
abort finds every buffered session held, a commit those of the bundles whose write fails.
-/
def Safe (format : RecordFormat ρ) (store : Buffered ρ) : StoreOp ρ → Prop
  | .session op =>
      store.backend.batching = false
      → ∀ address fault, op.failingPut format store = some (address, fault)
        → fault.keeps = true
          ∨ fault.removes = true
            ∧ ∀ device, store.Clean (address.1, address.2, device)
              → op.effect (address.1, address.2, device) = some none
  | .beginSendBatch => True
  | .commit order =>
      store.backend.batching = true
      → ∀ address,
          store.backend.lands order (bundleSlot address) = true
          ∨ store.backend.left order (bundleSlot address) = innerView store (bundleSlot address)
            ∧ Held format store address
          ∨ store.backend.left order (bundleSlot address) = none
            ∧ ∀ device, ¬store.Clean (address.1, address.2, device)
  | .abort => store.backend.batching = true → ∀ slot, Held format store slot

/-- The invariant of a buffering store: the sessions fit together over what the store shows, the
bundles below the batch are readable too, and without a batch nothing is buffered.
-/
structure Durable (format : RecordFormat ρ) (store : Buffered ρ) : Prop where
  sound : Sound format store.backend.shown
  cached : ∀ key ∈ store.sessionDirty, key ∈ store.sessionCache
  clean
    : ∀ key record,
        store.sessionCache.lookup key = some record
        → key ∉ store.sessionDirty
        → storedSession format store.backend.shown key = some record
  below : Sound format (innerView store)
  drained : store.backend.batching = false → store.backend.buffer = ∅

/-- What a buffering store shows: the buffer over the inner map inside a batch. -/
theorem view_eq (store : Buffered ρ)
    : store.backend.shown
      = if store.backend.batching then
          BufferingBackend.overlay store.backend.buffer (innerView store)
        else innerView store :=
  rfl

theorem shown_closed {store : Buffered ρ} (closed : store.backend.batching = false)
    : store.backend.shown = innerView store := by
  rw [view_eq, closed]
  rfl

theorem durable_new {format : RecordFormat ρ} {inner : InnerBackend}
    (sound : Sound format (fun slot => inner.map.lookup slot))
    : Durable format (PddbStore.newBuffering inner) :=
  ⟨sound, fun key member => absurd member (AList.notMem_empty key),
    fun _ _ found => by simp [PddbStore.newBuffering, PddbStore.new] at found, sound,
    fun _ => rfl⟩

/-- A session call inside a batch: it writes to the buffer only. -/
theorem Durable.batched {format : RecordFormat ρ} (roundTrip : format.RoundTrip)
    {store : Buffered ρ} (durable : Durable format store)
    (opened : store.backend.batching = true) (op : SessionOp ρ)
    : Durable format (op.perform format store) := by
  have here : store.SessionInv (BufferingBackend.inBatch store.backend) format :=
    ⟨⟨opened, rfl⟩, durable.sound, durable.cached, durable.clean⟩
  have after := op.perform_inv roundTrip here
  obtain ⟨still, frozen⟩ := after.ready
  refine ⟨after.sound, after.cached, after.clean, ?_, fun closed => ?_⟩
  · have same : innerView (op.perform format store) = innerView store := by
      funext slot
      simp only [innerView, frozen]
    rw [same]
    exact durable.below
  · rw [still] at closed
    cases closed

/-- A session call outside a batch, where failing puts keep their keys. -/
theorem Durable.kept {format : RecordFormat ρ} (roundTrip : format.RoundTrip)
    {store : Buffered ρ} (durable : Durable format store)
    (closed : store.backend.batching = false) (op : SessionOp ρ)
    : (op.perform format store.kept).backend.batching = false
      ∧ Durable format (op.perform format store.kept) := by
  have here : store.kept.SessionInv
      (BufferingBackend.outside InnerBackend.atomic store.backend) format :=
    ⟨⟨store.backend.inner.plan.putsKeep_kept, closed, rfl⟩, durable.sound, durable.cached,
      durable.clean⟩
  have after := op.perform_inv roundTrip here
  obtain ⟨-, still, buffer⟩ := after.ready
  refine ⟨still, after.sound, after.cached, after.clean, ?_, fun _ => ?_⟩
  · rw [← shown_closed still]
    exact after.sound
  · rw [buffer]
    exact durable.drained closed

/-- A safe session call keeps the invariant: a failing put leaves the bundle it was to write, or
leaves none where no session is clean.
-/
theorem Durable.session {format : RecordFormat ρ} (roundTrip : format.RoundTrip)
    {store : Buffered ρ} (durable : Durable format store) {op : SessionOp ρ}
    (safe : Safe format store (.session op))
    : Durable format (op.perform format store) := by
  cases closed : store.backend.batching with
  | true => exact durable.batched roundTrip closed op
  | false =>
      obtain ⟨flag, after⟩ := durable.kept roundTrip closed op
      obtain ⟨⟨cache, dirty⟩, alike | ⟨spoilt, clean⟩⟩ := op.perform_follows closed
      · generalize op.perform format store.kept = kept at *
        obtain ⟨backend, keptCache, keptDirty⟩ := kept
        obtain rfl : backend = (op.perform format store).backend.kept := alike
        obtain rfl : keptCache = (op.perform format store).sessionCache := cache
        obtain rfl : keptDirty = (op.perform format store).sessionDirty := dirty
        exact ⟨after.sound, after.cached, after.clean, after.below, after.drained⟩
      · obtain ⟨address, fault, value, failing, left⟩ := spoilt.left
        have verdict := safe closed address fault failing
        have still : (op.perform format store).backend.batching = false := spoilt.flag.trans flag
        have sound : Sound format (innerView (op.perform format store)) := by
          refine after.below.mix after.below (fun other => ?_)
          simp only [innerView, left]
          split
          · rcases verdict with keeps | ⟨removes, -⟩
            · cases fault <;> simp_all [PutFault.keeps, PutFault.leaves]
            · cases fault <;> simp_all [PutFault.removes, PutFault.leaves]
          · exact .inl rfl
        refine ⟨shown_closed still ▸ sound, ?_, fun key record found fresh => ?_, sound,
          fun _ => spoilt.buffer.trans (after.drained flag)⟩
        · rw [← cache, ← dirty]
          exact after.cached
        · have known := clean key ⟨FiniteMap.mem_iff_lookup.mpr ⟨record, found⟩, fresh⟩
          have stored := after.clean key record (cache ▸ found) (dirty ▸ fresh)
          rw [shown_closed flag] at stored
          rw [shown_closed still]
          refine (storedSession_congr ?_).trans stored
          simp only [innerView, left]
          split
          · next here =>
            obtain ⟨identity, name, device⟩ := key
            obtain rfl : (identity, name) = address := by
              by_contra other
              exact sessionSlot_ne other here
            rcases verdict with keeps | ⟨-, gone⟩
            · cases fault <;> simp_all [PutFault.keeps, PutFault.leaves]
            · exact absurd (gone device known.1) known.2
          · rfl

/-- Opening a batch shows the same sessions: there is nothing in the buffer yet. -/
theorem Durable.begin {format : RecordFormat ρ} {store : Buffered ρ}
    (durable : Durable format store)
    : Durable format store.beginSendBatch.2 := by
  simp only [PddbStore.beginSendBatch, PddbStore.onBackend, BufferingBackend.beginBatch]
  cases closed : store.backend.batching with
  | true => exact durable
  | false =>
      let opened : Buffered ρ := { store with backend := { store.backend with batching := true } }
      have same : opened.backend.shown = store.backend.shown := by
        rw [view_eq opened, shown_closed closed]
        simp only [opened, if_true, durable.drained closed, BufferingBackend.overlay_empty]
        rfl
      refine ⟨?_, durable.cached, ?_, durable.below, fun closed => by cases closed⟩
      · exact same.symm ▸ durable.sound
      · exact same.symm ▸ durable.clean

/-- The sessions left when a batch ends: if every address shows what the batch showed, or had
its buffered sessions held already, or shows nothing and has no clean session, the invariant
survives.
-/
theorem Durable.close {format : RecordFormat ρ} {store : Buffered ρ}
    (durable : Durable format store) (opened : store.backend.batching = true)
    {inner : InnerBackend}
    (each
      : ∀ address : IdentityType × String,
          inner.map.lookup (bundleSlot address)
            = BufferingBackend.overlay store.backend.buffer (innerView store)
                (bundleSlot address)
          ∨ inner.map.lookup (bundleSlot address) = innerView store (bundleSlot address)
            ∧ Held format store address
          ∨ inner.map.lookup (bundleSlot address) = none
            ∧ ∀ device, ¬store.Clean (address.1, address.2, device))
    : Durable format { store with backend := { inner } } := by
  have shownSound := durable.sound
  have shownClean := durable.clean
  rw [view_eq, if_pos opened] at shownSound shownClean
  have sound : Sound format (fun slot => inner.map.lookup slot) :=
    shownSound.mix durable.below fun address =>
      (each address).imp_right (Or.imp And.left And.left)
  refine ⟨sound, durable.cached, fun key record found fresh => ?_, sound, fun _ => rfl⟩
  have shown := shownClean key record found fresh
  rcases each (key.1, key.2.1) with kept | ⟨lost, recorded⟩ | ⟨-, dirty⟩
  · exact (storedSession_congr kept).trans shown
  · have below : storedSession format (fun slot => inner.map.lookup slot) key
        = storedSession format (innerView store) key := storedSession_congr lost
    refine below.trans ?_
    cases buffered : store.backend.buffer.lookup (dictSession key.1, key.2.1) with
    | none =>
        refine (storedSession_congr ?_).trans shown
        simp [BufferingBackend.overlay, buffered]
    | some entry =>
        -- the batch showed a session here, so what it buffered is a bundle holding it
        cases entry with
        | delete =>
            simp [storedSession, storedBundle, BufferingBackend.overlay, buffered,
              BufferEntry.value] at shown
        | put bytes =>
            simp only [storedSession, storedBundle, BufferingBackend.overlay, buffered,
              BufferEntry.value, Option.bind_some] at shown
            cases decoded : deserializeSessionBundle format bytes with
            | error e => simp [decoded, Except.toOption] at shown
            | ok bundle =>
                simp only [decoded, Except.toOption, Option.bind_some] at shown
                exact recorded bytes bundle key.2.2 record buffered decoded shown fresh
  · exact absurd ⟨FiniteMap.mem_iff_lookup.mpr ⟨record, found⟩, fresh⟩ (dirty key.2.2)

/-- Every safe call keeps the invariant. -/
theorem Durable.perform {format : RecordFormat ρ} (roundTrip : format.RoundTrip)
    {store : Buffered ρ} (op : StoreOp ρ) (safe : Safe format store op)
    (durable : Durable format store)
    : Durable format (op.perform format store) := by
  cases op with
  | session op => exact durable.session roundTrip safe
  | beginSendBatch => exact durable.begin
  | abort =>
      simp only [StoreOp.perform]
      by_cases opened : store.backend.isBatching = true
      · rw [if_pos opened]
        exact durable.close opened (fun address => .inr (.inl ⟨rfl, safe opened address⟩))
      · rw [if_neg opened]
        exact durable
  | commit order =>
      simp only [StoreOp.perform]
      by_cases opened : store.backend.isBatching = true
      · rw [if_pos opened]
        have closed : (store.commitBatch order).2
            = { store with
                backend := { inner := (store.backend.commitInternal order).2.inner } } := by
          simp only [PddbStore.commitBatch, PddbStore.onBackend,
            BufferingBackend.commitInternal]
          split <;> rfl
        rw [closed]
        refine durable.close opened (fun address => ?_)
        rw [BufferingBackend.commitInternal_lookup]
        split
        · exact .inl rfl
        · next missed => exact .inr ((safe opened address).resolve_left missed)
      · rw [if_neg opened]
        exact durable

/-- The store with no further failure planned, to compare what it answers. -/
def calm (store : Buffered ρ) : Buffered ρ :=
  { store with
    backend := { store.backend with inner := { store.backend.inner with plan := {} } } }

/-- A restart keeps the inner backend only. -/
def restart (store : Buffered ρ) : Buffered ρ := .newBuffering store.backend.inner

/-- A calm store answers a load with its current session. -/
theorem load_calm {format : RecordFormat ρ} {store : Buffered ρ}
    (durable : Durable format store) (order : HashOrder) (identity : IdentityType)
    (address : ProtocolAddress)
    : ((calm store).loadSession format order identity address).1
      = .ok (store.current format store.backend.shown (sessionKey identity address)) := by
  have calmInv : (calm store).SessionInv
      (BufferingBackend.atomic InnerBackend.contract.atomic) format :=
    ⟨FaultPlan.onlyBulk_default, durable.sound, durable.cached, durable.clean⟩
  obtain ⟨-, -, -, -, ⟨e, -, never⟩ | answer⟩ :=
    PddbStore.loadSession_spec _ calmInv order identity address
  · exact never.elim
  · exact answer

/-- In a run that ends no batch over a session the inner backend does not hold, flushed
means durable: whenever no batch is open every cached session is dirty or stored, and with
an empty dirty set a restart changes the answer of no load.
-/
theorem flushed_sessions_survive_restart (format : RecordFormat ρ)
    (roundTrip : format.RoundTrip) (inner : InnerBackend)
    (sound : Sound format (fun slot => inner.map.lookup slot)) (ops : List (StoreOp ρ))
    (safe : Runs.Guarded (perform format) (Safe format) (.newBuffering inner) ops)
    : let store := Runs.run (perform format) (.newBuffering inner) ops
      store.backend.batching = false
      → (∀ key record, store.sessionCache.lookup key = some record
          → key ∈ store.sessionDirty
            ∨ storedSession format (innerView store) key = some record)
        ∧ (store.sessionDirty = ∅
          → ∀ order identity address,
              ((calm (restart store)).loadSession format order identity address).1
                = ((calm store).loadSession format order identity address).1) := by
  intro store closed
  have durable : Durable format store :=
    safe.invariant (fun store op safe => Durable.perform roundTrip op safe)
      (durable_new sound)
  have shown : store.backend.shown = innerView store := shown_closed closed
  have clean (key : SessionKey) (record : ρ)
      (found : store.sessionCache.lookup key = some record) (fresh : key ∉ store.sessionDirty)
      : storedSession format (innerView store) key = some record :=
    shown ▸ durable.clean key record found fresh
  refine ⟨fun key record found => ?_, fun empty order identity address => ?_⟩
  · by_cases dirty : key ∈ store.sessionDirty
    · exact .inl dirty
    · exact .inr (clean key record found dirty)
  · have fresh : Durable format (restart store) := durable_new durable.below
    rw [load_calm durable, load_calm fresh, shown]
    have restarted : (restart store).current format (restart store).backend.shown
        (sessionKey identity address)
        = storedSession format (innerView store) (sessionKey identity address) := by
      rw [PddbStore.current]
      rfl
    rw [restarted, PddbStore.current]
    cases found : store.sessionCache.lookup (sessionKey identity address) with
    | none => rfl
    | some record =>
        rw [clean _ record found (by rw [empty]; exact AList.notMem_empty _)]
        rfl

/-- Storing a session, flushing it inside a batch and aborting the batch: no batch is open,
nothing is dirty, the cache still answers and a restart has lost the session.
-/
theorem flush_in_aborted_batch_lost
    : let peer : ProtocolAddress := ⟨"peer", defaultDeviceId⟩
      let ops : List (StoreOp UInt8) :=
        [.session (.storeSession .aci peer 7), .beginSendBatch,
          .session (.flushSessions .insertion), .abort]
      let store := Runs.run (perform .oneByte) (.newBuffering { map := ∅ }) ops
      store.backend.batching = false
      ∧ store.sessionDirty = ∅
      ∧ ((calm store).loadSession .oneByte .insertion .aci peer).1 = .ok (some 7)
      ∧ ((calm (restart store)).loadSession .oneByte .insertion .aci peer).1 = .ok none := by
  refine ⟨rfl, rfl, rfl, rfl⟩

/-- A flush whose put fails with the bundle gone, then a flush in a batch whose commit falls back
to a put that works: every step is safe, and the session survives.
-/
theorem flushed_sessions_survive_restart_committed
    : let peer : ProtocolAddress := ⟨"peer", defaultDeviceId⟩
      let e : Error := .backend "disk"
      let inner : InnerBackend :=
        { map := ∅, plan := { put := [some (.openForWrite e)], putBatch := [some (e, [])] } }
      let ops : List (StoreOp UInt8) :=
        [.session (.storeSession .aci peer 7), .session (.flushSessions .insertion),
          .beginSendBatch, .session (.flushSessions .insertion), .commit .insertion]
      let store := Runs.run (perform .oneByte) (.newBuffering inner) ops
      store.sessionDirty = ∅
      ∧ ((calm store).loadSession .oneByte .insertion .aci peer).1 = .ok (some 7)
      ∧ ((calm (restart store)).loadSession .oneByte .insertion .aci peer).1
        = ((calm store).loadSession .oneByte .insertion .aci peer).1 := by
  intro peer e inner ops store
  have sound : Sound RecordFormat.oneByte (fun slot => inner.map.lookup slot) :=
    fun _ occupied => absurd rfl occupied
  have safe : Runs.Guarded (perform .oneByte) (Safe .oneByte) (.newBuffering inner) ops := by
    refine ⟨fun _ _ _ failing => (nomatch failing), fun _ address fault failing => ?_, trivial,
      fun closed => absurd closed (by decide +kernel), fun _ address => ?_, trivial⟩
    · change some ((IdentityType.aci, "peer"), PutFault.openForWrite e) = _ at failing
      obtain ⟨rfl, rfl⟩ := Prod.mk.inj (Option.some.inj failing)
      refine .inr ⟨rfl, fun device clean => absurd ?_ clean.2⟩
      -- the only cached session is the dirty one
      have cached : (.aci, "peer", device) = sessionKey .aci peer :=
        ((AList.mem_insert _).mp clean.1).resolve_right (AList.notMem_empty _)
      exact (AList.mem_insert _).mpr (.inl cached)
    · by_cases here : address = (.aci, "peer")
      · exact .inl (by rw [here]; decide +kernel)
      · have missing : AList.lookup (bundleSlot address)
            ((∅ : FiniteMap (String × String) BufferEntry).insert (bundleSlot (.aci, "peer"))
              (.put (serializeSessionBundle .insertion
                (FiniteMap.insertAll ∅ [(defaultDeviceId.id, [7])])))) = none := by
          rw [FiniteMap.lookup_insert', if_neg (sessionSlot_ne here)]
          rfl
        refine .inr (.inl ⟨?_, fun bytes bundle device record buffered => ?_⟩)
        · exact BufferingBackend.left_of_no_put .insertion
            (fun _ found => nomatch missing.symm.trans found)
        · exact nomatch missing.symm.trans buffered
  have whole := flushed_sessions_survive_restart .oneByte RecordFormat.oneByte_roundTrip inner
    sound ops safe (by decide +kernel)
  have flushed : store.sessionDirty = ∅ := rfl
  exact ⟨flushed, rfl, whole.2 flushed .insertion .aci peer⟩

end StoreOp

end XousAppSignal.Store
