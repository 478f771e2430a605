import XousAppSignal.Store.BatchedFlush
import XousAppSignal.Store.Clear
import XousAppSignal.Worker.HandleSend

/-! What is durable when a send reports its success. The attempt's writes sit in the batch's
buffer and its session records in the cache; the flush and the commit that follow may each
fail, and the success is reported all the same.
-/

namespace XousAppSignal.Worker

open Store
open StoreOp (Buffered innerView)
open TraitCall (latestWrite latestRecord)

variable {ρ : Type} {format : RecordFormat ρ}

/-- Filling the cache from a bundle keeps what is cached already, by induction. -/
theorem prefill_keeps {identity : IdentityType} {name : String} {key : SessionKey}
    {record : ρ} (entries : List (UInt32 × Bytes)) {cache : FiniteMap SessionKey ρ}
    (cached : cache.lookup key = some record)
    : (PddbStore.prefill format identity name entries cache).2.lookup key = some record := by
  induction entries generalizing cache with
  | nil => exact cached
  | cons entry rest ih =>
      obtain ⟨device, ser⟩ := entry
      unfold PddbStore.prefill
      split
      · exact ih cached
      · next missing =>
          split
          · exact cached
          · apply ih
            rw [FiniteMap.lookup_insert', if_neg]
            · exact cached
            · rintro rfl
              simp [cached] at missing

/-- A record is in the cache and waits for the next flush. -/
def Waiting (store : Buffered ρ) (key : SessionKey) (record : ρ) : Prop :=
  store.sessionCache.lookup key = some record ∧ key ∈ store.sessionDirty

/-- A session call that does not address a key leaves its waiting record alone. -/
theorem Waiting.keep {store : Buffered ρ} {key : SessionKey} {record : ρ}
    (waiting : Waiting store key record) {op : SessionOp ρ} (trait : op.isFlush = false)
    (elsewhere : op.effect key = none)
    : Waiting (op.perform format store) key record := by
  obtain ⟨cached, dirty⟩ := waiting
  cases op with
  | storeSession identity address stored =>
      have different : key ≠ sessionKey identity address := by
        intro same
        simp [SessionOp.effect, same] at elsewhere
      refine ⟨?_, AList.mem_insert _ |>.mpr (.inr dirty)⟩
      exact (AList.lookup_insert_ne different).trans cached
  | loadSession order identity address =>
      simp only [SessionOp.perform, PddbStore.loadSession, PddbStore.onBackend]
      split
      · exact ⟨cached, dirty⟩
      · generalize backendGetSessionBundleProtocol format (dictSession identity) address.name
          store.backend = outcome
        obtain ⟨_ | _ | bundle, next⟩ := outcome
        · exact ⟨cached, dirty⟩
        · exact ⟨cached, dirty⟩
        · have filled := @prefill_keeps _ format identity address.name _ _
            (order.arrange (FiniteMap.pairs bundle)) _ cached
          dsimp only
          split
          · exact ⟨filled, dirty⟩
          · split <;> exact ⟨filled, dirty⟩
  | flushSessions order => cases trait
  | deleteSession order identity address =>
      have different : key ≠ sessionKey identity address := by
        intro same
        simp [SessionOp.effect, same] at elsewhere
      simp only [SessionOp.perform, PddbStore.deleteSession_eq, PddbStore.onBackend]
      refine ⟨?_, AList.mem_erase.mpr ⟨different, dirty⟩⟩
      exact (AList.lookup_erase_ne different).trans cached
  | deleteAllSessions identity aci =>
      have different : ¬(key.1 = identity ∧ key.2.1 = aci.toString) := by
        intro same
        simp [SessionOp.effect, same] at elsewhere
      simp only [SessionOp.perform, PddbStore.deleteAllSessions_eq]
      have stays : decide (key.1 = identity
          ∧ key.2.1 = (ServiceId.aci aci).rawUuid.toString) = false :=
        decide_eq_false different
      refine ⟨?_, FiniteMap.mem_retain.mpr ⟨?_, dirty⟩⟩
      · rw [FiniteMap.lookup_retain, if_pos (by rw [stays]; rfl)]
        exact cached
      · rw [stays]
        rfl
  | getSubDeviceSessions identity aci =>
      simp only [SessionOp.perform, PddbStore.getSubDeviceSessions, PddbStore.onBackend]
      generalize backendGetSessionBundleProtocol format (dictSession identity)
        (ServiceId.rawUuid (.aci aci)).toString store.backend = outcome
      obtain ⟨_ | found, next⟩ := outcome <;> exact ⟨cached, dirty⟩

/-- After some calls inside a batch: the last write of each slot is buffered, and the last
record of each key waits for the flush.
-/
structure Holds (calls : List (TraitCall ρ)) (store : Buffered ρ) : Prop where
  flag : store.backend.batching = true
  writes
    : ∀ slot value, latestWrite calls slot = some value
        → ¬IsSessionDict slot.1
          ∧ (store.backend.buffer.lookup slot).map BufferEntry.value = some value
  sessions : ∀ key record, latestRecord calls key = some record → Waiting store key record

namespace Holds

/-- A session call: the other dictionaries' buffered writes stay, and the key it addresses,
if any, holds its effect.
-/
theorem session {calls : List (TraitCall ρ)} {store : Buffered ρ} (holds : Holds calls store)
    (op : SessionOp ρ) (trait : op.isFlush = false)
    : Holds (calls ++ [.session op trait]) (op.perform format store) := by
  have within := op.perform_within format store
  refine ⟨within.flag.trans holds.flag, ?_, ?_⟩
  · intro slot value written
    rw [TraitCall.latestWrite_append] at written
    obtain ⟨other, buffered⟩ := holds.writes slot value written
    exact ⟨other, (congrArg _ (within.buffer slot other)).trans buffered⟩
  · intro key record stored
    simp only [latestRecord, TraitCall.sessionOps, List.filterMap_append,
      List.filterMap_cons, List.filterMap_nil, SessionOp.lastEffect_append] at stored
    cases addressed : op.effect key with
    | none =>
        rw [addressed, Option.getD_none] at stored
        exact (holds.sessions key record stored).keep trait addressed
    | some left =>
        rw [addressed, Option.getD_some] at stored
        subst stored
        cases op with
        | storeSession identity address kept =>
            simp only [SessionOp.effect, Option.ite_none_right_eq_some, Option.some.injEq]
              at addressed
            obtain ⟨rfl, rfl⟩ := addressed
            exact ⟨AList.lookup_insert _, AList.mem_insert _ |>.mpr (.inl rfl)⟩
        | loadSession order identity address => cases addressed
        | flushSessions order => cases addressed
        | deleteSession order identity address => simp [SessionOp.effect] at addressed
        | deleteAllSessions identity aci => simp [SessionOp.effect] at addressed
        | getSubDeviceSessions identity aci => cases addressed

/-- What a key-value call does to the buffer of an open batch. -/
theorem kv_buffer {backend : BufferingBackend InnerBackend} (opened : backend.batching = true)
    {op : KvOp} (other : ¬IsSessionDict op.dict) {slot : String × String}
    {earlier : Option (Option Bytes)} {value : Option Bytes}
    (before : earlier = some value
      → (backend.buffer.lookup slot).map BufferEntry.value = some value)
    (written : TraitCall.writeEffect slot earlier (.kv op other : TraitCall ρ) = some value)
    : ((op.perform backend).2.buffer.lookup slot).map BufferEntry.value = some value := by
  cases op with
  | get dict key =>
      simp only [KvOp.perform, KvBackend.get, BufferingBackend.get]
      split <;> exact before written
  | put dict key bytes =>
      simp only [KvOp.perform, KvBackend.put, BufferingBackend.put,
        BufferingBackend.isBatching, opened, FiniteMap.lookup_insert']
      simp only [TraitCall.writeEffect] at written
      split at written
      · next here => simpa [here, BufferEntry.value] using written
      · next elsewhere => simpa [elsewhere] using before written
  | delete dict key =>
      simp only [KvOp.perform, KvBackend.delete, BufferingBackend.delete,
        BufferingBackend.isBatching, opened, FiniteMap.lookup_insert']
      simp only [TraitCall.writeEffect] at written
      split at written
      · next here => simpa [here, BufferEntry.value] using written
      · next elsewhere => simpa [elsewhere] using before written
  | deleteDict dict =>
      simp only [KvOp.perform, BufferingBackend.deleteDict_buffer]
      simp only [TraitCall.writeEffect] at written
      split at written
      · cases written
      · next elsewhere =>
          rw [if_neg (fun both => elsewhere both.2)]
          exact before written
  | listKeys dict =>
      have same : (KvBackend.listKeys dict backend).2.buffer = backend.buffer := by
        simp only [KvBackend.listKeys, BufferingBackend.listKeys, BufferingBackend.forward]
        generalize InnerBackend.listKeys dict backend.inner = outcome
        obtain ⟨_ | keys, next⟩ := outcome
        · rfl
        · dsimp only
          split <;> rfl
      simp only [KvOp.perform, same]
      exact before written

/-- The slot of a write lies outside the session dictionaries. -/
theorem writeEffect_other {slot : String × String} {earlier : Option (Option Bytes)}
    {value : Option Bytes} {op : KvOp} (other : ¬IsSessionDict op.dict)
    (before : earlier = some value → ¬IsSessionDict slot.1)
    (written : TraitCall.writeEffect slot earlier (.kv op other : TraitCall ρ) = some value)
    : ¬IsSessionDict slot.1 := by
  cases op with
  | get dict key => exact before written
  | listKeys dict => exact before written
  | put dict key bytes =>
      simp only [TraitCall.writeEffect] at written
      split at written
      · next here => rw [here]; exact other
      · exact before written
  | delete dict key =>
      simp only [TraitCall.writeEffect] at written
      split at written
      · next here => rw [here]; exact other
      · exact before written
  | deleteDict dict =>
      simp only [TraitCall.writeEffect] at written
      split at written
      · cases written
      · exact before written

theorem kv {calls : List (TraitCall ρ)} {store : Buffered ρ} (holds : Holds calls store)
    {op : KvOp} (other : ¬IsSessionDict op.dict)
    : Holds (calls ++ [.kv op other])
        { store with backend := (op.perform store.backend).2 } := by
  have within := @BufferingBackend.perform_within (fun _ => True) op trivial store.backend
  refine ⟨within.flag.trans holds.flag, ?_, ?_⟩
  · intro slot value written
    rw [TraitCall.latestWrite_append] at written
    exact ⟨writeEffect_other other (fun before => (holds.writes slot value before).1) written,
      kv_buffer holds.flag other (fun before => (holds.writes slot value before).2) written⟩
  · intro key record stored
    simp only [latestRecord, TraitCall.sessionOps, List.filterMap_append,
      List.filterMap_cons, List.filterMap_nil, List.append_nil] at stored
    exact holds.sessions key record stored

/-- The calls of an attempt, by induction from the last one. -/
theorem run {store : Buffered ρ} (opened : store.backend.batching = true)
    (calls : List (TraitCall ρ))
    : Holds calls (Runs.run (TraitCall.perform format) store calls) := by
  induction calls using List.reverseRecOn with
  | nil =>
      refine ⟨opened, fun slot value written => ?_, fun key record stored => ?_⟩
      · cases written
      · cases stored
  | append_singleton calls call ih =>
      rw [Runs.run_append]
      cases call with
      | session op trait => exact ih.session op trait
      | kv op other => exact ih.kv other

end Holds

-----------------------------------------------------------------------------------------
-- The success path
-----------------------------------------------------------------------------------------

/-- Retried attempts hand over to the next one. -/
theorem sendLoop_append {platform : Platform} {timestamp : UInt64} {attempt : Nat}
    {earlier : List (Attempt ρ)} {store : Buffered ρ}
    (retried : (sendLoop platform format timestamp attempt earlier store).1 = none)
    (later : List (Attempt ρ))
    : sendLoop platform format timestamp attempt (earlier ++ later) store
      = sendLoop platform format timestamp (attempt + earlier.length) later
          (sendLoop platform format timestamp attempt earlier store).2 := by
  induction earlier generalizing attempt store with
  | nil => rfl
  | cons current rest ih =>
      rw [List.length_cons, Nat.add_comm rest.length 1, ← Nat.add_assoc]
      simp only [List.cons_append, sendLoop] at retried ⊢
      generalize store.beginSendBatch = outcome at retried ⊢
      obtain ⟨_ | _, opened⟩ := outcome
      · cases retried
      · dsimp only at retried ⊢
        cases verdict : judge platform attempt current.outcome with
        | retry =>
            simp only [verdict] at retried ⊢
            exact ih retried
        | complete => simp [verdict] at retried
        | defer => simp [verdict] at retried
        | fail reason => simp [verdict] at retried

/-- A batch that begins: none was open, and only the flag changes. -/
theorem beginSendBatch_ok {store opened : Buffered ρ}
    (begun : store.beginSendBatch = (.ok (), opened))
    : opened.backend.batching = true := by
  simp only [PddbStore.beginSendBatch, PddbStore.onBackend, BufferingBackend.beginBatch]
    at begun
  cases flag : store.backend.batching with
  | false =>
      rw [flag] at begun
      cases begun
      rfl
  | true =>
      rw [flag] at begun
      cases begun

/-- The attempt that reports success: its batch is open while `send_message` runs, and it
ends with the flush and the commit.
-/
theorem sendLoop_completes {platform : Platform} {timestamp : UInt64} {attempt : Nat}
    {current : Attempt ρ} {store : Buffered ρ}
    (completes : (sendLoop platform format timestamp attempt [current] store).1
      = some (.event (.sendComplete timestamp)))
    : store.beginSendBatch.2.backend.batching = true
      ∧ (sendLoop platform format timestamp attempt [current] store).2
        = settleBatch format current.flushOrder current.commitOrder
            (Runs.run (TraitCall.perform format) store.beginSendBatch.2 current.calls) := by
  simp only [sendLoop] at completes ⊢
  cases begun : store.beginSendBatch with
  | mk result opened =>
      rw [begun] at completes
      cases result with
      | error e => simp at completes
      | ok =>
          refine ⟨beginSendBatch_ok begun, ?_⟩
          dsimp only at completes ⊢
          cases verdict : judge platform attempt current.outcome with
          | complete => rfl
          | retry => simp [verdict] at completes
          | defer => simp [verdict] at completes
          | fail reason => simp [verdict] at completes

/-- The store in which the successful attempt's `send_message` returned. -/
def sendReturned (platform : Platform) (format : RecordFormat ρ) (contacts : Contacts)
    (send : InnerSend) (earlier : List (Attempt ρ)) (current : Attempt ρ) (store : Buffered ρ)
    : Buffered ρ :=
  Runs.run (TraitCall.perform format)
    (handleSend platform format contacts send earlier store).2.beginSendBatch.2 current.calls

/-- Everything the attempt wrote is in the inner backend with its latest value: each slot
written by a store call, each bundle rewritten in the batch, and each session record stored.
-/
structure AttemptDurable (format : RecordFormat ρ) (current : Attempt ρ)
    (returned final : Buffered ρ)
    : Prop where
  writes
    : ∀ slot value, latestWrite current.calls slot = some value
        → innerView final slot = value
  bundles
    : ∀ address, (returned.backend.buffer.lookup (bundleSlot address)).isSome
        → innerView final (bundleSlot address)
          = (returned.flushSessions format current.flushOrder).2.backend.shown
              (bundleSlot address)
  sessions
    : ∀ key record, latestRecord current.calls key = some record
        → storedSession format (innerView final) key = some record

/-- The commit's write of a slot takes effect. -/
def Lands (format : RecordFormat ρ) (current : Attempt ρ) (returned : Buffered ρ)
    (slot : String × String)
    : Prop :=
  (returned.flushSessions format current.flushOrder).2.backend.lands current.commitOrder slot
    = true

/-- What the inner backend holds where the commit's write does not take effect: the slot as it
was, or what a put that fails after its pre-delete leaves there.
-/
def leftBelow (format : RecordFormat ρ) (current : Attempt ρ) (returned : Buffered ρ) : View :=
  (returned.flushSessions format current.flushOrder).2.backend.left current.commitOrder

/-- Each write of the attempt takes effect or was not needed: the commit's write of the slot
lands or what is left there is the value, and for a session record the flush gets as far as its
bundle or the bundle has the record already.
-/
structure WritesLand (format : RecordFormat ρ) (current : Attempt ρ) (returned : Buffered ρ)
    : Prop where
  writes
    : ∀ slot value, latestWrite current.calls slot = some value
        → Lands format current returned slot ∨ leftBelow format current returned slot = value
  bundles
    : ∀ address, (returned.backend.buffer.lookup (bundleSlot address)).isSome
        → Lands format current returned (bundleSlot address)
          ∨ leftBelow format current returned (bundleSlot address)
            = (returned.flushSessions format current.flushOrder).2.backend.shown
                (bundleSlot address)
  landing
    : ∀ key record, latestRecord current.calls key = some record
        → Lands format current returned (bundleSlot (key.1, key.2.1))
        → returned.flushWrites format current.flushOrder (key.1, key.2.1) = true
          ∨ storedSession format returned.backend.shown key = some record
  missing
    : ∀ key record, latestRecord current.calls key = some record
        → ¬Lands format current returned (bundleSlot (key.1, key.2.1))
        → storedSession format (leftBelow format current returned) key = some record

/-- After flush and commit a slot holds what the flushed batch showed where the commit's
write landed, and what is left there elsewhere.
-/
theorem settleBatch_lookup {current : Attempt ρ} {returned : Buffered ρ}
    (flushed : PddbStore.FlushBatched format current.flushOrder returned
      (returned.flushSessions format current.flushOrder).2)
    (slot : String × String)
    : (Lands format current returned slot
        → innerView (settleBatch format current.flushOrder current.commitOrder returned) slot
          = (returned.flushSessions format current.flushOrder).2.backend.shown slot)
      ∧ (¬Lands format current returned slot
        → innerView (settleBatch format current.flushOrder current.commitOrder returned) slot
          = leftBelow format current returned slot) := by
  have committed := BufferingBackend.commitInternal_lookup current.commitOrder
    (returned.flushSessions format current.flushOrder).2.backend slot
  rw [← BufferingBackend.shown_eq flushed.flag] at committed
  refine ⟨fun lands => ?_, fun stays => ?_⟩
  · unfold Lands at lands
    rw [if_pos lands] at committed
    exact committed
  · unfold Lands at stays
    rw [if_neg stays] at committed
    exact committed

/-- The flushed batch shows each slot's last write: a flush changes session dictionaries
only.
-/
theorem Holds.shown_write {calls : List (TraitCall ρ)} {returned : Buffered ρ}
    (holds : Holds calls returned) {order : FlushOrder}
    (flag : (returned.flushSessions format order).2.backend.batching = true)
    {slot : String × String} {value : Option Bytes}
    (written : latestWrite calls slot = some value)
    : (returned.flushSessions format order).2.backend.shown slot = value := by
  obtain ⟨other, buffered⟩ := holds.writes slot value written
  have within := SessionOp.perform_within format returned (.flushSessions order)
  have kept := within.buffer slot other
  obtain ⟨entry, found, rfl⟩ := Option.map_eq_some_iff.mp buffered
  rw [BufferingBackend.shown_eq flag]
  change (returned.flushSessions format order).2.backend.buffer.lookup slot = _ at kept
  simp only [BufferingBackend.overlay, kept, found]

/-- What the flushed batch shows of a session record the attempt stored. -/
theorem Holds.shown_record {calls : List (TraitCall ρ)} {returned : Buffered ρ}
    (holds : Holds calls returned) {order : FlushOrder}
    (flushed : PddbStore.FlushBatched format order returned
      (returned.flushSessions format order).2)
    {key : SessionKey} {record : ρ} (stored : latestRecord calls key = some record)
    : storedSession format (returned.flushSessions format order).2.backend.shown key
        = some record
      ↔ returned.flushWrites format order (key.1, key.2.1) = true
        ∨ storedSession format returned.backend.shown key = some record := by
  obtain ⟨cached, dirty⟩ := holds.sessions key record stored
  cases writes : returned.flushWrites format order (key.1, key.2.1) with
  | true => simp [flushed.reached key record dirty cached writes]
  | false =>
      have same := BufferingBackend.shown_congr flushed.flag holds.flag
        (flushed.unreached (key.1, key.2.1) writes) flushed.below
      simp [storedSession_congr same]

/-- Durability of the settled batch, slot by slot. -/
theorem attemptDurable_iff {current : Attempt ρ} {returned final : Buffered ρ}
    (holds : Holds current.calls returned)
    (flushed : PddbStore.FlushBatched format current.flushOrder returned
      (returned.flushSessions format current.flushOrder).2)
    (settled : final = settleBatch format current.flushOrder current.commitOrder returned)
    : AttemptDurable format current returned final ↔ WritesLand format current returned := by
  subst settled
  have landed := fun slot => (settleBatch_lookup flushed slot).1
  have stayed := fun slot => (settleBatch_lookup flushed slot).2
  have landedRecord {key : SessionKey} {record : ρ}
      (stored : latestRecord current.calls key = some record)
      (lands : Lands format current returned (bundleSlot (key.1, key.2.1)))
      : storedSession format
          (innerView (settleBatch format current.flushOrder current.commitOrder returned)) key
            = some record
        ↔ returned.flushWrites format current.flushOrder (key.1, key.2.1) = true
          ∨ storedSession format returned.backend.shown key = some record := by
    rw [storedSession_congr (landed _ lands)]
    exact holds.shown_record flushed stored
  constructor
  · intro durable
    refine ⟨?_, ?_, ?_, ?_⟩
    · intro slot value written
      refine or_iff_not_imp_left.mpr (fun stays => ?_)
      rw [← stayed slot stays]
      exact durable.writes slot value written
    · intro address buffered
      refine or_iff_not_imp_left.mpr (fun stays => ?_)
      rw [← stayed _ stays]
      exact durable.bundles address buffered
    · intro key record stored lands
      exact (landedRecord stored lands).mp (durable.sessions key record stored)
    · intro key record stored stays
      rw [← storedSession_congr (stayed _ stays)]
      exact durable.sessions key record stored
  · intro land
    refine ⟨?_, ?_, ?_⟩
    · intro slot value written
      by_cases lands : Lands format current returned slot
      · rw [landed slot lands]
        exact holds.shown_write flushed.flag written
      · rw [stayed slot lands]
        exact (land.writes slot value written).resolve_left lands
    · intro address buffered
      by_cases lands : Lands format current returned (bundleSlot address)
      · exact landed _ lands
      · rw [stayed _ lands]
        exact (land.bundles address buffered).resolve_left lands
    · intro key record stored
      by_cases lands : Lands format current returned (bundleSlot (key.1, key.2.1))
      · exact (landedRecord stored lands).mpr (land.landing key record stored lands)
      · rw [storedSession_congr (stayed _ lands)]
        exact land.missing key record stored lands

/-- When a send reports success, everything its attempt wrote is durable exactly if each of
its writes takes effect in the flush and the commit, whose own results are only logged.
-/
theorem send_complete_durable_iff (platform : Platform) (format : RecordFormat ρ)
    (roundTrip : format.RoundTrip) (addressable : format.Addressable) (inner : InnerBackend)
    (history : List (StoreCall ρ)) (contacts : Contacts) (send : InnerSend)
    (earlier : List (Attempt ρ)) (current : Attempt ρ)
    (retried
      : (handleSend platform format contacts send earlier
          (Runs.run (StoreCall.perform format) (.newBuffering inner) history)).1 = none)
    (completes
      : (handleSend platform format contacts send (earlier ++ [current])
          (Runs.run (StoreCall.perform format) (.newBuffering inner) history)).1
        = some (.event (.sendComplete send.timestamp)))
    : let store := Runs.run (StoreCall.perform format) (.newBuffering inner) history
      let returned := sendReturned platform format contacts send earlier current store
      let final := (handleSend platform format contacts send (earlier ++ [current]) store).2
      AttemptDurable format current returned final ↔ WritesLand format current returned := by
  intro store returned final
  -- the recipient resolves, or there would have been a report before
  have loop (attempts : List (Attempt ρ))
      : handleSend platform format contacts send attempts store
        = sendLoop platform format send.timestamp 1 attempts store := by
    have started := retried
    simp only [handleSend] at started ⊢
    cases resolved : resolveRecipient platform contacts send.recipient with
    | error reason => simp [resolved] at started
    | ok uuid => rfl
  change (handleSend platform format contacts send earlier store).1 = none at retried
  change (handleSend platform format contacts send (earlier ++ [current]) store).1 = _
    at completes
  have chained : handleSend platform format contacts send (earlier ++ [current]) store
      = sendLoop platform format send.timestamp (1 + earlier.length) [current]
          (handleSend platform format contacts send earlier store).2 := by
    rw [loop, loop]
    rw [loop] at retried
    exact sendLoop_append retried [current]
  rw [chained] at completes
  obtain ⟨opened, settled⟩ := sendLoop_completes completes
  have holds : Holds current.calls returned := Holds.run opened current.calls
  have flushed := PddbStore.flushSessions_batched roundTrip addressable holds.flag
    current.flushOrder
  exact attemptDurable_iff holds flushed ((congrArg Prod.snd chained).trans settled)

/-- The bulk write of the commit and its fallback puts all fail: the success is reported,
and neither the session record nor the identity key of the attempt is below the batch.
-/
theorem send_complete_not_durable
    : let peer : ProtocolAddress := ⟨"peer", defaultDeviceId⟩
      let e : Error := .backend "disk"
      let inner : InnerBackend :=
        { map := ∅,
          plan :=
            { putBatch := [some (e, [])], put := [some (.preDelete e), some (.openForWrite e)] } }
      let send : InnerSend := ⟨(⟨1⟩ : Uuid).toString, "hi", 5⟩
      let attempt : Attempt UInt8 :=
        { calls :=
            [.session (.storeSession .aci peer 7) rfl,
              .kv (.put (dictIdentity .aci) "peer" [1]) (by decide)]
          outcome := .ok }
      let store := PddbStore.newBuffering inner
      let returned := sendReturned (.knowing ⟨1⟩) .oneByte (.ok []) send [] attempt store
      let (report, final) :=
        handleSend (.knowing ⟨1⟩) .oneByte (.ok []) send [attempt] store
      report = some (.event (.sendComplete 5))
      ∧ innerView final (dictIdentity .aci, "peer") = none
      ∧ storedSession .oneByte (innerView final) (.aci, "peer", 1) = none
      ∧ ¬AttemptDurable .oneByte attempt returned final := by
  refine ⟨rfl, rfl, rfl, fun durable => ?_⟩
  have stored := durable.sessions (.aci, "peer", 1) 7 rfl
  cases stored

/-- The bulk write fails and the fallback puts land: the record and the identity key of the
attempt are durable.
-/
theorem send_complete_durable_iff_fallback
    : let peer : ProtocolAddress := ⟨"peer", defaultDeviceId⟩
      let inner : InnerBackend :=
        { map := ∅, plan := { putBatch := [some (.backend "disk", [])] } }
      let send : InnerSend := ⟨(⟨1⟩ : Uuid).toString, "hi", 5⟩
      let attempt : Attempt UInt8 :=
        { calls :=
            [.session (.storeSession .aci peer 7) rfl,
              .kv (.put (dictIdentity .aci) "peer" [1]) (by decide)]
          outcome := .ok }
      let store : Buffered UInt8 :=
        Runs.run (StoreCall.perform .oneByte) (.newBuffering inner) []
      let returned := sendReturned (.knowing ⟨1⟩) .oneByte (.ok []) send [] attempt store
      let final := (handleSend (.knowing ⟨1⟩) .oneByte (.ok []) send ([] ++ [attempt]) store).2
      innerView final (dictIdentity .aci, "peer") = some [1]
      ∧ storedSession .oneByte (innerView final) (.aci, "peer", 1) = some 7
      ∧ (AttemptDurable .oneByte attempt returned final
        ↔ WritesLand .oneByte attempt returned) := by
  refine ⟨rfl, rfl, ?_⟩
  apply send_complete_durable_iff (.knowing ⟨1⟩) .oneByte RecordFormat.oneByte_roundTrip
    PddbStore.oneByte_addressable
  · rfl
  · rfl

end XousAppSignal.Worker
