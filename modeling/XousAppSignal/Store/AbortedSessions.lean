import XousAppSignal.Store.BatchedFlush
import XousAppSignal.Store.RecordFrames

/-! The session view across an aborted batch. Memory is not rolled back but the rewritten
bundles are, so what a batch deleted from a bundle comes back with the abort; what it stored or
flushed stays in memory.
-/

namespace XousAppSignal.Store

variable {ρ : Type} {format : RecordFormat ρ}

open StoreOp (Buffered innerView calm)

-----------------------------------------------------------------------------------------
-- Reads and deletions inside a batch
-----------------------------------------------------------------------------------------

namespace BufferingBackend

/-- A read of the slot works inside a batch: the slot is buffered, or the next inner read is not
planned to fail.
-/
def readWorks (self : BufferingBackend InnerBackend) (slot : String × String) : Bool :=
  (self.buffer.lookup slot).isSome || self.inner.plan.get.head?.join.isNone

theorem get_batched {self : BufferingBackend InnerBackend} (opened : self.batching = true)
    (slot : String × String)
    : (∃ next, KvBackend.get slot.1 slot.2 self = (.ok (self.shown slot), next)
        ∧ next.batching = true ∧ self.readWorks slot = true)
      ∨ ∃ e next, KvBackend.get slot.1 slot.2 self = (.error e, next)
          ∧ self.readWorks slot = false := by
  rw [shown_eq opened]
  cases found : self.buffer.lookup slot with
  | some entry =>
      refine .inl ⟨self, ?_, opened, by simp [readWorks, found]⟩
      simp [KvBackend.get, get, isBatching, opened, found, overlay]
  | none =>
      cases fault : self.inner.plan.get.head?.join with
      | none =>
          refine .inl ⟨self.readOnce, ?_, opened, by simp [readWorks, fault]⟩
          simp [KvBackend.get, get, isBatching, opened, found, overlay, forward,
            InnerBackend.get, fault, readOnce]
      | some e =>
          refine .inr ⟨e, self.readOnce, ?_, by simp [readWorks, found, fault]⟩
          simp [KvBackend.get, get, isBatching, opened, found, forward, InnerBackend.get,
            fault, readOnce]

/-- The bundle of an address is read exactly when a read of its slot works. -/
theorem getBundle_batched {self : BufferingBackend InnerBackend} (opened : self.batching = true)
    (sound : Sound format self.shown) (address : IdentityType × String)
    : (∃ next,
        backendGetSessionBundleProtocol format (dictSession address.1) address.2 self
          = (.ok (storedBundle format self.shown address), next)
        ∧ next.batching = true ∧ self.readWorks (bundleSlot address) = true)
      ∨ ∃ e next,
          backendGetSessionBundleProtocol format (dictSession address.1) address.2 self
            = (.error e, next)
          ∧ self.readWorks (bundleSlot address) = false := by
  rcases get_batched opened (bundleSlot address) with
    ⟨next, read, still, works⟩ | ⟨e, next, read, fails⟩
  · refine .inl ⟨next, ?_, still, works⟩
    unfold backendGetSessionBundleProtocol
    rw [read]
    cases stored : self.shown (bundleSlot address) with
    | none => simp [storedBundle, stored]
    | some bytes =>
        obtain ⟨bundle, decodes, -⟩ := sound address (by simp [stored])
        rw [decodes]
        simp only [storedBundle, stored, Option.bind_some] at decodes
        cases decoded : deserializeSessionBundle format bytes with
        | error e => simp [decoded, Except.toOption] at decodes
        | ok other =>
            simp only [decoded, Except.toOption, Option.some.injEq] at decodes
            simp [decoded, decodes]
  · refine .inr ⟨protocolBackendErr e, next, ?_, fails⟩
    unfold backendGetSessionBundleProtocol
    rw [read]

theorem dropDevice_works {self : BufferingBackend InnerBackend} (opened : self.batching = true)
    (sound : Sound format self.shown) (order : HashOrder) (key : SessionKey)
    : (PddbStore.dropDevice format order key self).1 = .ok ()
      ↔ self.readWorks (bundleSlot (key.1, key.2.1)) = true := by
  unfold PddbStore.dropDevice
  rcases getBundle_batched opened sound (key.1, key.2.1) with
    ⟨next, read, still, works⟩ | ⟨e, next, read, fails⟩
  · rw [read, works]
    cases storedBundle format self.shown (key.1, key.2.1) with
    | none => simp
    | some bundle =>
        simp only [iff_true]
        split
        · rfl
        · split
          · simp [backendDeleteProtocol, KvBackend.delete, delete, isBatching, still]
          · simp [backendPutSessionBundleProtocol, KvBackend.put, put, isBatching, still]
  · rw [read, fails]
    simp

theorem dropAddress_works {self : BufferingBackend InnerBackend} (opened : self.batching = true)
    (sound : Sound format self.shown) (address : IdentityType × String)
    : (∃ bundle, (PddbStore.dropAddress format address self).1 = .ok bundle)
      ↔ self.readWorks (bundleSlot address) = true := by
  unfold PddbStore.dropAddress
  rcases getBundle_batched opened sound address with
    ⟨next, read, still, works⟩ | ⟨e, next, read, fails⟩
  · rw [read, works]
    cases storedBundle format self.shown address with
    | none => simp
    | some bundle =>
        simp [backendDeleteProtocol, KvBackend.delete, delete, isBatching, still]
  · rw [read, fails]
    simp

end BufferingBackend

-----------------------------------------------------------------------------------------
-- What memory does to a load
-----------------------------------------------------------------------------------------

section Memory

variable {β : Type} [KvBackend β]

/-- The dirty set is not looked at by a load. -/
theorem loadSession_dirty (order : HashOrder) (identity : IdentityType)
    (address : ProtocolAddress) (self : PddbStore β ρ) (dirty : FiniteSet SessionKey)
    : PddbStore.loadSession format order identity address { self with sessionDirty := dirty }
      = ((PddbStore.loadSession format order identity address self).1,
          { (PddbStore.loadSession format order identity address self).2 with
            sessionDirty := dirty }) := by
  simp only [PddbStore.loadSession, PddbStore.onBackend]
  split
  · rfl
  · generalize backendGetSessionBundleProtocol format _ _ self.backend = outcome
    rcases outcome with ⟨_ | _ | bundle, next⟩
    · rfl
    · rfl
    · dsimp only
      split
      · rfl
      · split <;> rfl

/-- Every cached session marked dirty. -/
def allDirty (cache : FiniteMap SessionKey ρ) : FiniteSet SessionKey :=
  FiniteMap.insertAll ∅ (cache.keys.map (fun key => (key, ())))

theorem mem_allDirty {cache : FiniteMap SessionKey ρ} {key : SessionKey}
    : key ∈ allDirty cache ↔ key ∈ cache := by
  have names : (cache.keys.map (fun key => (key, ()))).map Prod.fst = cache.keys := by
    simp [Function.comp_def]
  rw [FiniteMap.mem_iff_lookup, allDirty]
  by_cases listed : key ∈ cache
  · have pair : (key, ()) ∈ cache.keys.map (fun key => (key, ())) :=
      List.mem_map.mpr ⟨key, AList.mem_keys.mp listed, rfl⟩
    rw [FiniteMap.lookup_insertAll_of_mem (by rw [names]; exact cache.keys_nodup) pair]
    simp [listed]
  · rw [FiniteMap.lookup_insertAll_of_notMem (by rw [names]; exact listed)]
    simp [listed]

/-- With every cached session marked dirty the session invariant asks for readable bundles only. -/
theorem allDirty_inv {kv : KvAtomic β} {self : PddbStore β ρ} (ready : kv.Ready self.backend)
    (sound : Sound format (kv.view self.backend))
    : PddbStore.SessionInv kv format
        { self with sessionDirty := allDirty self.sessionCache } where
  ready := ready
  sound := sound
  cached _ dirty := mem_allDirty.mp dirty
  clean _ _ found fresh :=
    absurd (mem_allDirty.mpr (FiniteMap.mem_iff_lookup.mpr ⟨_, found⟩)) fresh

/-- A load over readable bundles answers with the cached session, else with the stored one. -/
theorem loadSession_answer (kv : KvAtomic β) (never : ¬kv.MayFail) {self : PddbStore β ρ}
    (ready : kv.Ready self.backend) (sound : Sound format (kv.view self.backend))
    (order : HashOrder) (identity : IdentityType) (address : ProtocolAddress)
    : (PddbStore.loadSession format order identity address self).1
      = .ok (self.current format (kv.view self.backend) (sessionKey identity address)) := by
  obtain ⟨-, -, -, -, ⟨e, -, may⟩ | answer⟩ :=
    PddbStore.loadSession_spec kv (allDirty_inv ready sound) order identity address
  · exact absurd may never
  · rw [loadSession_dirty] at answer
    exact answer

/-- A load keeps what is stored and what is cached, and caches stored sessions only. -/
theorem loadSession_memory (kv : KvAtomic β) {self : PddbStore β ρ}
    (ready : kv.Ready self.backend) (sound : Sound format (kv.view self.backend))
    (order : HashOrder) (identity : IdentityType) (address : ProtocolAddress)
    : let out := (PddbStore.loadSession format order identity address self).2
      kv.view out.backend = kv.view self.backend
      ∧ ∀ key, (key ∈ self.sessionCache → key ∈ out.sessionCache)
        ∧ out.current format (kv.view self.backend) key
          = self.current format (kv.view self.backend) key := by
  intro out
  obtain ⟨inv, same, dirty, answers, -⟩ :=
    PddbStore.loadSession_spec kv (allDirty_inv ready sound) order identity address
  rw [loadSession_dirty] at inv same answers
  refine ⟨same, fun key => ⟨fun cached => ?_, answers key⟩⟩
  exact inv.cached key (mem_allDirty.mpr cached)

/-- A flush changes no session that is not in memory: its groups hold cached records. -/
theorem flushSessions_uncached (kv : KvAtomic β) (roundTrip : format.RoundTrip)
    {self : PddbStore β ρ} (ready : kv.Ready self.backend)
    (sound : Sound format (kv.view self.backend)) (order : FlushOrder)
    : let out := (PddbStore.flushSessions format order self).2
      out.sessionCache = self.sessionCache
      ∧ ∀ key, key ∉ self.sessionCache
        → storedSession format (kv.view out.backend) key
          = storedSession format (kv.view self.backend) key := by
  simp only [PddbStore.flushSessions, PddbStore.onBackend]
  split
  · exact ⟨rfl, fun _ _ => rfl⟩
  · rcases PddbStore.groupDirty_spec (order.dirty.arrange self.sessionDirty.keys)
        (PddbStore.grouped_nil format self.sessionCache)
        ((order.dirty.perm self.sessionDirty.keys).nodup_iff.mpr self.sessionDirty.keys_nodup) with
      ⟨e, record, message, failed, -⟩ | ⟨groups, collected, grouped⟩
    · simp only [failed]
      exact ⟨trivial, fun _ _ => trivial⟩
    · have listed (group : (IdentityType × String) × List (UInt32 × Bytes))
          (member : group ∈ order.groups.arrange (FiniteMap.pairs groups))
          : groups.lookup group.1 = some group.2 :=
        FiniteMap.mem_pairs.mp (order.groups.mem_arrange.mp member)
      obtain ⟨-, -, same, -⟩ := PddbStore.writeGroups_spec kv order.bundle
        (order.groups.nodup_map_arrange _ (FiniteMap.pairs_keys_nodup groups))
        (fun group member => grouped.unique _ _ (listed group member))
        (fun group member => grouped.readable roundTrip (listed group member)) 0 ready sound
      simp only [collected]
      have elsewhere (key : SessionKey) (uncached : key ∉ self.sessionCache)
          : PddbStore.Ungrouped (order.groups.arrange (FiniteMap.pairs groups)) key := by
        intro group member here device
        obtain ⟨⟨_, bytes⟩, entry, rfl⟩ := List.mem_map.mp device
        obtain ⟨-, record, found, -⟩ := grouped.listed _ _ _ _ (listed group member) entry
        rw [here] at found
        exact uncached (FiniteMap.mem_iff_lookup.mpr ⟨record, found⟩)
      generalize PddbStore.writeGroups format order.bundle _ 0 self.backend = outcome at same ⊢
      rcases outcome with ⟨_ | written, next⟩ <;>
        exact ⟨rfl, fun key uncached => same key (elsewhere key uncached)⟩

/-- The sub-device query touches the backend only, and changes nothing stored. -/
theorem getSubDeviceSessions_memory (kv : KvAtomic β) {self : PddbStore β ρ}
    (ready : kv.Ready self.backend) (sound : Sound format (kv.view self.backend))
    (identity : IdentityType) (aci : Uuid)
    : let out := (PddbStore.getSubDeviceSessions format identity (.aci aci) self).2
      out.sessionCache = self.sessionCache
      ∧ kv.view out.backend = kv.view self.backend := by
  have same : kv.view (backendGetSessionBundleProtocol format (dictSession identity)
      aci.toString self.backend).2 = kv.view self.backend := by
    cases backendGetSessionBundleProtocol_settles kv ready sound (identity, aci.toString) with
    | done returns => exact returns.view
    | failed e may result ready same => exact same
  simp only [PddbStore.getSubDeviceSessions, PddbStore.onBackend, ServiceId.rawUuid]
  generalize backendGetSessionBundleProtocol format _ _ self.backend = outcome at same ⊢
  rcases outcome with ⟨_ | found, next⟩ <;> exact ⟨rfl, same⟩

end Memory

-----------------------------------------------------------------------------------------
-- Runs inside the batch
-----------------------------------------------------------------------------------------

/-- Whether the session is out of its stored bundle after a call, given whether it was taken out
before: a deletion that can read the bundle takes it out, a store makes up for it.
-/
def SessionOp.removes (op : SessionOp ρ) (store : Buffered ρ) (key : SessionKey) (was : Bool)
    : Bool :=
  match op.effect key with
  | some (some _) => false
  | some none => was || store.backend.readWorks (bundleSlot (key.1, key.2.1))
  | none => was

theorem SessionOp.removes_delete {op : SessionOp ρ} {store : Buffered ρ} {key : SessionKey}
    {was covers : Bool} (effect : op.effect key = if covers then some none else none)
    : op.removes store key was
      = (was || covers && store.backend.readWorks (bundleSlot (key.1, key.2.1))) := by
  rw [SessionOp.removes, effect]
  cases covers <;> simp

/-- A deletion of the run took the session out of its stored bundle, and it was not stored
again since.
-/
def removedAfter (format : RecordFormat ρ) (key : SessionKey)
    : List (SessionOp ρ) → Buffered ρ → (was : Bool) → Bool
  | [], _, was => was
  | op :: rest, store, was =>
      removedAfter format key rest (op.perform format store) (op.removes store key was)

/-- Inside the batch a session is in memory, or stored as below the batch, unless it was removed;
then it is nowhere.
-/
structure RollsBack (format : RecordFormat ρ) (below : View) (store : Buffered ρ)
    (removed : SessionKey → Bool)
    : Prop where
  opened : store.backend.batching = true
  frozen : innerView store = below
  sound : Sound format store.backend.shown
  gone
    : ∀ key, removed key = true
        → key ∉ store.sessionCache ∧ storedSession format store.backend.shown key = none
  kept
    : ∀ key, removed key = false
        → key ∈ store.sessionCache
          ∨ storedSession format store.backend.shown key = storedSession format below key

namespace RollsBack

variable {below : View} {store : Buffered ρ} {removed : SessionKey → Bool}

/-- A bundle that is not buffered is shown as it is below. -/
theorem stored_unbuffered (rolls : RollsBack format below store removed) {key : SessionKey}
    (fails : store.backend.readWorks (bundleSlot (key.1, key.2.1)) = false)
    : storedSession format store.backend.shown key = storedSession format below key := by
  apply storedSession_congr
  simp only [BufferingBackend.readWorks, Bool.or_eq_false_iff, Option.isSome_eq_false_iff,
    Option.isNone_iff_eq_none] at fails
  rw [BufferingBackend.shown_eq rolls.opened, ← rolls.frozen]
  simp [BufferingBackend.overlay, fails.1, innerView]

/-- The batch stays open over the same inner backend, and its bundles readable. -/
theorem scope (roundTrip : format.RoundTrip) (rolls : RollsBack format below store removed)
    (op : SessionOp ρ)
    : (op.perform format store).backend.batching = true
      ∧ innerView (op.perform format store) = below
      ∧ Sound format (op.perform format store).backend.shown := by
  obtain ⟨⟨still, map⟩, sound⟩ :=
    op.perform_sound (BufferingBackend.inBatch store.backend) roundTrip ⟨rolls.opened, rfl⟩
      rolls.sound
  refine ⟨still, Eq.trans ?_ rolls.frozen, sound⟩
  funext slot
  simp only [innerView, map]

/-- A call that forgets nothing, and puts in memory only what is stored. -/
theorem quiet {after : Buffered ρ} (rolls : RollsBack format below store removed)
    (opened : after.backend.batching = true) (frozen : innerView after = below)
    (sound : Sound format after.backend.shown)
    (shown : ∀ key, key ∉ store.sessionCache
      → storedSession format after.backend.shown key
        = storedSession format store.backend.shown key)
    (grows : ∀ key, key ∈ store.sessionCache → key ∈ after.sessionCache)
    (loads : ∀ key, key ∈ after.sessionCache → key ∉ store.sessionCache
      → storedSession format store.backend.shown key ≠ none)
    : RollsBack format below after removed where
  opened := opened
  frozen := frozen
  sound := sound
  gone key was := by
    obtain ⟨uncached, nothing⟩ := rolls.gone key was
    exact ⟨fun cached => loads key cached uncached nothing, (shown key uncached).trans nothing⟩
  kept key was := by
    by_cases cached : key ∈ store.sessionCache
    · exact .inl (grows key cached)
    · rw [shown key cached]
      exact .inr ((rolls.kept key was).resolve_left cached)

/-- A deletion in one address: where the bundle cannot be read, only memory forgets, and the
bundle below was never replaced.
-/
theorem delete {after : Buffered ρ} (rolls : RollsBack format below store removed)
    (address : IdentityType × String) (opened : after.backend.batching = true)
    (frozen : innerView after = below) (sound : Sound format after.backend.shown)
    {covers : SessionKey → Bool}
    (inside : ∀ key, covers key = true → (key.1, key.2.1) = address)
    (memory : ∀ key, key ∈ after.sessionCache ↔ covers key = false ∧ key ∈ store.sessionCache)
    (dropped
      : store.backend.readWorks (bundleSlot address) = false
          ∧ after.backend.shown = store.backend.shown
        ∨ store.backend.readWorks (bundleSlot address) = true
          ∧ ∀ key, storedSession format after.backend.shown key
            = if covers key then none else storedSession format store.backend.shown key)
    : RollsBack format below after
        (fun key => removed key
          || covers key && store.backend.readWorks (bundleSlot (key.1, key.2.1))) where
  opened := opened
  frozen := frozen
  sound := sound
  gone key was := by
    rw [memory key]
    cases covered : covers key with
    | false =>
        obtain ⟨uncached, nothing⟩ := rolls.gone key (by simpa [covered] using was)
        refine ⟨fun cached => uncached cached.2, ?_⟩
        rcases dropped with ⟨-, same⟩ | ⟨-, stored⟩
        · rw [same, nothing]
        · rw [stored key, if_neg (by simp [covered]), nothing]
    | true =>
        refine ⟨fun cached => Bool.noConfusion cached.1, ?_⟩
        rcases dropped with ⟨fails, same⟩ | ⟨-, stored⟩
        · rw [inside key covered, fails] at was
          rw [same]
          exact (rolls.gone key (by simpa using was)).2
        · rw [stored key, if_pos covered]
  kept key was := by
    rw [memory key]
    obtain ⟨before, uncovered⟩ := Bool.or_eq_false_iff.mp was
    cases covered : covers key with
    | false =>
        rcases rolls.kept key before with cached | same
        · exact .inl ⟨rfl, cached⟩
        · right
          rcases dropped with ⟨-, view⟩ | ⟨-, stored⟩
          · rw [view, same]
          · rw [stored key, if_neg (by simp [covered]), same]
    | true =>
        rw [covered, Bool.true_and] at uncovered
        right
        rcases dropped with ⟨-, view⟩ | ⟨works, -⟩
        · rw [view, rolls.stored_unbuffered uncovered]
        · rw [inside key covered, works] at uncovered
          cases uncovered

/-- A store puts one session in memory and touches no bundle. -/
theorem stores {after : Buffered ρ} (rolls : RollsBack format below store removed)
    (stored : SessionKey) (opened : after.backend.batching = true)
    (frozen : innerView after = below) (sound : Sound format after.backend.shown)
    (same : after.backend.shown = store.backend.shown)
    (memory : ∀ key, key ∈ after.sessionCache ↔ key = stored ∨ key ∈ store.sessionCache)
    : RollsBack format below after (fun key => if key = stored then false else removed key)
    where
  opened := opened
  frozen := frozen
  sound := sound
  gone key was := by
    split at was
    · cases was
    · next other =>
        obtain ⟨uncached, nothing⟩ := rolls.gone key was
        exact ⟨fun cached => ((memory key).mp cached).elim other uncached, same ▸ nothing⟩
  kept key was := by
    rw [memory key, same]
    split at was
    · next here => exact .inl (.inl here)
    · exact (rolls.kept key was).imp_left .inr

/-- One call, by cases on it. -/
theorem step (roundTrip : format.RoundTrip) (rolls : RollsBack format below store removed)
    (op : SessionOp ρ)
    : RollsBack format below (op.perform format store)
        (fun key => op.removes store key (removed key)) := by
  let kv := BufferingBackend.inBatch store.backend
  have ready : kv.Ready store.backend := ⟨rolls.opened, rfl⟩
  obtain ⟨opened, frozen, sound⟩ := rolls.scope roundTrip op
  cases op with
  | storeSession identity address record =>
      have covers (key : SessionKey)
          : SessionOp.removes (.storeSession identity address record) store key (removed key)
            = if key = sessionKey identity address then false else removed key := by
        by_cases here : key = sessionKey identity address <;>
          simp [SessionOp.removes, SessionOp.effect, here]
      simp only [covers]
      exact rolls.stores (sessionKey identity address) opened frozen sound rfl
        fun key => AList.mem_insert _
  | loadSession order identity address =>
      obtain ⟨same, memory⟩ := loadSession_memory kv ready rolls.sound order identity address
      refine rolls.quiet opened frozen sound
        (fun key _ => congrArg (storedSession format · key) same) (fun key => (memory key).1) ?_
      intro key cached uncached nothing
      obtain ⟨record, found⟩ : ∃ record,
          (store.loadSession format order identity address).2.sessionCache.lookup key
            = some record :=
        FiniteMap.mem_iff_lookup.mp cached
      have answers := (memory key).2
      rw [PddbStore.current, PddbStore.current, AList.lookup_eq_none.mpr uncached, found] at answers
      exact absurd (answers.trans nothing) (Option.some_ne_none record)
  | flushSessions order =>
      obtain ⟨memory, same⟩ := flushSessions_uncached kv roundTrip ready rolls.sound order
      refine rolls.quiet opened frozen sound same (fun key cached => memory ▸ cached) ?_
      exact fun key cached uncached => absurd (memory ▸ cached) uncached
  | deleteSession order identity address =>
      have covers (key : SessionKey)
          : SessionOp.removes (.deleteSession order identity address) store key (removed key)
            = (removed key || decide (key = sessionKey identity address)
                && store.backend.readWorks (bundleSlot (key.1, key.2.1))) :=
        SessionOp.removes_delete (by simp [SessionOp.effect])
      simp only [covers]
      simp only [SessionOp.perform, PddbStore.deleteSession_eq, PddbStore.onBackend]
        at opened frozen sound ⊢
      have works : _ ↔ store.backend.readWorks (bundleSlot (identity, address.name)) = true :=
        BufferingBackend.dropDevice_works rolls.opened rolls.sound order
          (sessionKey identity address)
      refine rolls.delete (identity, address.name) opened frozen sound ?_ ?_ ?_
      · intro key covered
        rw [of_decide_eq_true covered]
        rfl
      · intro key
        simp [AList.mem_erase]
      · obtain ⟨-, -, ⟨e, failed, -, same⟩ | ⟨ok, stored⟩⟩ :=
          PddbStore.dropDevice_spec kv ready rolls.sound order (sessionKey identity address)
        · refine .inl ⟨?_, same⟩
          rw [failed] at works
          simpa using works
        · exact .inr ⟨works.mp ok, fun key => (stored key).trans (if_congr (by simp) rfl rfl)⟩
  | deleteAllSessions identity aci =>
      have covers (key : SessionKey)
          : SessionOp.removes (.deleteAllSessions identity aci) store key (removed key)
            = (removed key || decide (key.1 = identity ∧ key.2.1 = aci.toString)
                && store.backend.readWorks (bundleSlot (key.1, key.2.1))) :=
        SessionOp.removes_delete (by simp [SessionOp.effect])
      simp only [covers]
      simp only [SessionOp.perform, PddbStore.deleteAllSessions_eq] at opened frozen sound ⊢
      have works : _ ↔ store.backend.readWorks (bundleSlot (identity, aci.toString)) = true :=
        BufferingBackend.dropAddress_works rolls.opened rolls.sound (identity, aci.toString)
      refine rolls.delete (identity, aci.toString) opened frozen sound ?_ ?_ ?_
      · intro key covered
        obtain ⟨rfl, same⟩ := of_decide_eq_true covered
        rw [same]
      · intro key
        exact FiniteMap.mem_retain.trans (and_congr_left fun _ => (Bool.not_eq_true' _).to_iff)
      · obtain ⟨-, -, ⟨e, failed, -, same⟩ | ⟨ok, stored⟩⟩ :=
          PddbStore.dropAddress_spec kv ready rolls.sound (identity, aci.toString)
        · refine .inl ⟨?_, same⟩
          rw [failed] at works
          simpa using works
        · exact .inr ⟨works.mp ⟨_, ok⟩, fun key => (stored key).trans (if_congr (by simp) rfl rfl)⟩
  | getSubDeviceSessions identity aci =>
      obtain ⟨memory, same⟩ := getSubDeviceSessions_memory kv ready rolls.sound identity aci
      refine rolls.quiet opened frozen sound
        (fun key _ => congrArg (storedSession format · key) same)
        (fun key cached => memory ▸ cached) ?_
      exact fun key cached uncached => absurd (memory ▸ cached) uncached

/-- A run of calls, by induction on them. -/
theorem run (roundTrip : format.RoundTrip) (ops : List (SessionOp ρ)) {store : Buffered ρ}
    {removed : SessionKey → Bool} (rolls : RollsBack format below store removed)
    : RollsBack format below (Runs.run (SessionOp.perform format) store ops)
        (fun key => removedAfter format key ops store (removed key)) := by
  induction ops generalizing store removed with
  | nil => exact rolls
  | cons op rest ih => exact ih (rolls.step roundTrip op)

end RollsBack

-----------------------------------------------------------------------------------------
-- The abort
-----------------------------------------------------------------------------------------

variable {start : Buffered ρ}

/-- A fresh batch shows what is below it. -/
theorem rollsBack_begin (closed : start.backend.batching = false)
    (empty : start.backend.buffer = ∅) (sound : Sound format (innerView start))
    : RollsBack format (innerView start) start.beginSendBatch.2 (fun _ => false) := by
  have begun : start.beginSendBatch.2
      = { start with backend := { start.backend with batching := true } } := by
    simp [PddbStore.beginSendBatch, PddbStore.onBackend, BufferingBackend.beginBatch, closed]
  have shown : ({ start.backend with batching := true } : BufferingBackend InnerBackend).shown
      = innerView start := by
    rw [BufferingBackend.shown_eq rfl]
    funext slot
    simp [BufferingBackend.overlay, empty, innerView]
  rw [begun]
  refine ⟨rfl, rfl, ?_, fun _ was => Bool.noConfusion was, fun key _ => .inr ?_⟩
  · rw [shown]
    exact sound
  · rw [shown]

theorem load_calm_answer {store : Buffered ρ} (sound : Sound format store.backend.shown)
    (order : HashOrder) (identity : IdentityType) (address : ProtocolAddress)
    : ((calm store).loadSession format order identity address).1
      = .ok (store.current format store.backend.shown (sessionKey identity address)) :=
  loadSession_answer (BufferingBackend.atomic InnerBackend.contract.atomic) id
    (show FaultPlan.OnlyBulk (calm store).backend.inner.plan from FaultPlan.onlyBulk_default)
    sound order identity address

/-- For every run of session calls in a batch, over any readable bundles and any failures of the
inner backend: the abort changes the answer of no load exactly when no session held below the
batch was taken out of its bundle and not stored again.
-/
theorem abort_keeps_session_view_iff (format : RecordFormat ρ) (roundTrip : format.RoundTrip)
    (start : Buffered ρ) (closed : start.backend.batching = false)
    (empty : start.backend.buffer = ∅) (sound : Sound format (innerView start))
    (ops : List (SessionOp ρ))
    : let begun := start.beginSendBatch.2
      let before := Runs.run (SessionOp.perform format) begun ops
      (∀ order order' identity address,
        ((calm before.abortBatch).loadSession format order identity address).1
          = ((calm before).loadSession format order' identity address).1)
      ↔ ∀ identity address,
          removedAfter format (sessionKey identity address) ops begun false = true
          → storedSession format (innerView start) (sessionKey identity address) = none := by
  intro begun before
  have rolls := (rollsBack_begin closed empty sound).run roundTrip ops
  have below : before.abortBatch.backend.shown = innerView start := rolls.frozen
  have answers (order order' : HashOrder) (identity : IdentityType) (address : ProtocolAddress)
      : ((calm before.abortBatch).loadSession format order identity address).1
            = ((calm before).loadSession format order' identity address).1
        ↔ (before.sessionCache.lookup (sessionKey identity address)).or
              (storedSession format (innerView start) (sessionKey identity address))
            = (before.sessionCache.lookup (sessionKey identity address)).or
              (storedSession format before.backend.shown (sessionKey identity address)) := by
    rw [load_calm_answer (below ▸ sound), load_calm_answer rolls.sound, below, Except.ok.injEq]
    rfl
  constructor
  · intro same identity address was
    obtain ⟨uncached, nothing⟩ := rolls.gone _ was
    have answer := (answers .insertion .insertion identity address).mp (same _ _ _ _)
    rw [AList.lookup_eq_none.mpr uncached] at answer
    exact answer.trans nothing
  · intro kept order order' identity address
    rw [answers]
    cases cached : before.sessionCache.lookup (sessionKey identity address) with
    | some record => rfl
    | none =>
        cases was : removedAfter format (sessionKey identity address) ops begun false with
        | true => rw [kept identity address was, (rolls.gone _ was).2]
        | false =>
            have same := (rolls.kept _ was).resolve_left (AList.lookup_eq_none.mp cached)
            rw [same]

/-- A session stored before the batch is deleted in it, which succeeds: it is gone before the
abort and back after it.
-/
theorem deleted_session_back_after_abort
    : let peer : ProtocolAddress := ⟨"peer", defaultDeviceId⟩
      let start : Buffered UInt8 :=
        Runs.run (SessionOp.perform .oneByte) (.newBuffering { map := ∅ })
          [.storeSession .aci peer 7, .flushSessions .insertion]
      let deleted := start.beginSendBatch.2.deleteSession .oneByte .insertion .aci peer
      deleted.1 = .ok ()
      ∧ ((calm deleted.2).loadSession .oneByte .insertion .aci peer).1 = .ok none
      ∧ ((calm deleted.2.abortBatch).loadSession .oneByte .insertion .aci peer).1
        = .ok (some 7) :=
  ⟨rfl, rfl, rfl⟩

/-- The session is deleted and stored anew in the batch: it is in memory on both sides of the
abort.
-/
theorem abort_keeps_session_view_restored
    : let peer : ProtocolAddress := ⟨"peer", defaultDeviceId⟩
      let start : Buffered UInt8 :=
        Runs.run (SessionOp.perform .oneByte) (.newBuffering { map := ∅ })
          [.storeSession .aci peer 7, .flushSessions .insertion]
      let before := Runs.run (SessionOp.perform .oneByte) start.beginSendBatch.2
        [.deleteSession .insertion .aci peer, .storeSession .aci peer 9]
      ((calm before.abortBatch).loadSession .oneByte .insertion .aci peer).1
        = ((calm before).loadSession .oneByte .insertion .aci peer).1 := by
  intro peer start before
  have vacant : Sound .oneByte (fun slot => (InnerBackend.mk ∅ {}).map.lookup slot) :=
    fun _ occupied => absurd rfl occupied
  have storing : StoreOp.Safe .oneByte (.newBuffering { map := ∅ })
      (.session (.storeSession .aci peer 7)) := fun _ _ _ failing => nomatch failing
  have stored := (StoreOp.durable_new vacant).session RecordFormat.oneByte_roundTrip storing
  have flushing : StoreOp.Safe .oneByte
      (Runs.run (SessionOp.perform .oneByte) (.newBuffering { map := ∅ })
        [.storeSession .aci peer 7])
      (.session (.flushSessions .insertion)) := fun _ _ _ failing => nomatch failing
  have durable := stored.session RecordFormat.oneByte_roundTrip flushing
  have sound : Sound .oneByte (innerView start) := durable.below
  refine (abort_keeps_session_view_iff .oneByte RecordFormat.oneByte_roundTrip start rfl rfl sound
    [.deleteSession .insertion .aci peer, .storeSession .aci peer 9]).mpr ?_ .insertion .insertion
    .aci peer
  intro identity address was
  by_cases here : sessionKey identity address = sessionKey .aci peer <;>
    simp [removedAfter, SessionOp.removes, SessionOp.effect, here] at was

end XousAppSignal.Store
