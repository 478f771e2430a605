import XousAppSignal.Store.PddbNames
import XousAppSignal.Store.PddbRuns

/-! The account store on a working PDDB. Whatever is saved, loaded, deleted, flushed, batched or
wiped, in any order and across restarts, the store over the PDDB answers as the store over the
map in memory.
-/

namespace XousAppSignal.Store

open BufferingBackend (Mirrors)

variable {α β ρ : Type} [KvBackend α] [KvBackend β] {limits : NameLimits} {presage : Presage}

-----------------------------------------------------------------------------------------
-- Calls through mirrored buffers
-----------------------------------------------------------------------------------------

namespace BufferingBackend.Mirrors

variable {left : KvContractOn limits α} {right : KvContract β} {dict key : String}

/-- A read through either wrapper on its own changes nothing that shows. -/
theorem ask (allows : limits.Allows (dict, key))
    : AskAlike (Mirrors left right) (KvBackend.get dict key) (KvBackend.get dict key) where
  same mirrors := (Mirrors.get allows mirrors).1
  left b a mirrors := by
    have inner := left.get mirrors.ready allows
    simp only [KvBackend.get, BufferingBackend.get]
    split
    · exact mirrors
    · exact ⟨mirrors.flag, mirrors.buffer, mirrors.within, inner.ready, mirrors.ready',
        inner.view.trans mirrors.same⟩
  right a b mirrors := by
    have inner := right.get mirrors.ready' dict key
    simp only [KvBackend.get, BufferingBackend.get]
    split
    · exact mirrors
    · exact ⟨mirrors.flag, mirrors.buffer, mirrors.within, mirrors.ready, inner.ready,
        mirrors.same.trans inner.view.symm⟩

/-- A listed key holds a value below or in the buffer, so its name is served. -/
theorem listed_served (allows : limits.dict dict) {a : BufferingBackend α} {b : BufferingBackend β}
    (mirrors : Mirrors left right a b) {keys : List String}
    (listed : (KvBackend.listKeys dict a).1 = .ok keys)
    : ∀ key ∈ keys, limits.key key := by
  obtain ⟨found, call, -, stored⟩ := left.listKeys mirrors.ready allows
  have below (key : String) (member : key ∈ found) : limits.key key := by
    have some := (stored key).mp member
    exact (left.confined mirrors.ready (fun none => by rw [none] at some; cases some)).key
  simp only [KvBackend.listKeys, BufferingBackend.listKeys, BufferingBackend.forward,
    call.result] at listed
  split at listed
  · cases listed
    exact below
  · cases listed
    have folded (entries : List ((String × String) × BufferEntry))
        (within : ∀ entry ∈ entries, limits.Allows entry.1) (keys : Finset String)
        (served : ∀ key ∈ keys, limits.key key)
        : ∀ key ∈ entries.foldl (overlayKey dict) keys, limits.key key := by
      induction entries generalizing keys with
      | nil => exact served
      | cons entry rest ih =>
          obtain ⟨first, later⟩ := List.forall_mem_cons.mp within
          refine ih later _ fun key member => ?_
          unfold overlayKey at member
          split at member
          · exact served key member
          · split at member
            · rcases Finset.mem_insert.mp member with rfl | old
              · exact first.key
              · exact served key old
            · exact served key (Finset.mem_of_mem_erase member)
    intro key member
    refine folded _ (fun entry pair => ?_) _ ?_ key ((Finset.mem_sort _).mp member)
    · exact mirrors.within entry.1 (FiniteMap.mem_iff_lookup.mpr
        ⟨entry.2, FiniteMap.mem_pairs.mp pair⟩)
    · exact fun key member => below key (List.mem_toFinset.mp member)

/-- Both wrappers of mirrored buffers take the same calls. -/
theorem callsAlike (left : KvContractOn limits α) (right : KvContract β)
    : CallsAlike limits (Mirrors left right) where
  get := ask
  put := put
  delete := delete
  deleteDict := deleteDict
  listKeys allows a b mirrors := by
    obtain ⟨keys, keys', first, second, perm, after⟩ := listKeys allows mirrors
    exact ⟨keys, keys', _, _, Prod.ext first rfl, Prod.ext second rfl, perm,
      listed_served allows mirrors first, after⟩

end BufferingBackend.Mirrors

-----------------------------------------------------------------------------------------
-- Steps of the store
-----------------------------------------------------------------------------------------

/-- The store after a step, over any inner backend. -/
def StoreAction.performOn (format : RecordFormat ρ) (store : PddbStore (BufferingBackend β) ρ)
    : StoreAction presage ρ → PddbStore (BufferingBackend β) ρ
  | .read op => (op.perform format store).2
  | .write op => op.perform format store
  | .beginSendBatch => store.beginSendBatch.2
  | .commit order => if store.backend.isBatching then (store.commitBatch order).2 else store
  | .abort => if store.backend.isBatching then store.abortBatch else store
  | .restart => .newBuffering store.backend.inner

theorem StoreAction.performOn_inner (format : RecordFormat ρ) (store : StoreOp.Buffered ρ)
    (action : StoreAction presage ρ)
    : action.performOn format store = action.perform format store := by
  cases action <;> rfl

/-- The records that a write names itself have served names; a flush names none. -/
def StoreWrite.Named (limits : NameLimits) (write : StoreWrite presage ρ) : Prop :=
  write.Served limits (PddbStore.new { map := ∅ } : PddbStore InnerBackend ρ)

/-- The records that a step names have served names. -/
def StoreAction.Named (limits : NameLimits) : StoreAction presage ρ → Prop
  | .read op => op.Served limits
  | .write op => op.Named limits
  | _ => True

/-- The addresses with a dirty session have served names. -/
def DirtyServed (limits : NameLimits) (dirty : FiniteSet SessionKey) : Prop :=
  ∀ key ∈ dirty, limits.Allows (dictSession key.1, key.2.1)

theorem DirtyServed.empty (limits : NameLimits) : DirtyServed limits ∅ :=
  fun _ member => absurd member (AList.notMem_empty _)

namespace StoreWrite

variable {write : StoreWrite presage ρ}

omit [KvBackend β] in
/-- With the dirty sessions served, all records that a write touches are. -/
theorem Named.served (named : write.Named limits) {store : PddbStore β ρ}
    (dirty : DirtyServed limits store.sessionDirty)
    : write.Served limits store := by
  cases write with
  | flushSessions order =>
      rintro record ⟨key, member, rfl⟩
      exact dirty key (AList.mem_keys.mp member)
  | _ => exact named

/-- Only a stored session makes another address dirty, by cases on the write. -/
theorem Named.dirtyServed (named : write.Named limits) (format : RecordFormat ρ)
    {store : PddbStore β ρ} (dirty : DirtyServed limits store.sessionDirty)
    : DirtyServed limits (write.perform format store).sessionDirty := by
  cases write with
  | storeSession identity address record =>
      intro key member
      rcases AList.mem_insert _ |>.mp member with rfl | member
      · exact named _ rfl
      · exact dirty key member
  | deleteSession order identity address =>
      simp only [perform, PddbStore.deleteSession_eq]
      exact fun key member => dirty key (AList.mem_erase.mp member).2
  | deleteAllSessions identity address =>
      simp only [perform, PddbStore.deleteAllSessions_eq]
      exact fun key member => dirty key (FiniteMap.mem_retain.mp member).2
  | flushSessions order =>
      simp only [perform, PddbStore.flushSessions, PddbStore.onBackend]
      split
      · exact dirty
      · split
        · exact dirty
        · generalize PddbStore.writeGroups format _ _ _ store.backend = outcome
          rcases outcome with ⟨_ | written, next⟩
          · exact dirty
          · exact .empty limits
  | clear =>
      simp only [perform, PddbStore.clear, PddbStore.onBackend]
      generalize deleteDicts clearedDicts store.backend = outcome
      rcases outcome with ⟨_ | done, next⟩
      · exact dirty
      · exact .empty limits
  | _ => exact dirty

end StoreWrite

/-- A read leaves the dirty set alone. -/
theorem StoreRead.perform_dirty (format : RecordFormat ρ) (read : StoreRead presage)
    (store : PddbStore β ρ)
    : (read.perform format store).2.sessionDirty = store.sessionDirty := by
  cases read with
  | loadSession order identity address =>
      simp only [perform, PddbStore.loadSession, PddbStore.onBackend]
      split
      · rfl
      · generalize backendGetSessionBundleProtocol format _ _ store.backend = outcome
        rcases outcome with ⟨_ | _ | bundle, next⟩
        · rfl
        · rfl
        · dsimp only
          split
          · rfl
          · split <;> rfl
  | getSubDeviceSessions identity name =>
      simp only [perform, PddbStore.getSubDeviceSessions, PddbStore.onBackend]
      generalize backendGetSessionBundleProtocol format _ _ store.backend = outcome
      rcases outcome with ⟨_ | found, next⟩ <;> rfl
  | _ => rfl

/-- Alike stores through mirrored buffers, with served addresses in the dirty set. -/
structure InStep (left : KvContractOn limits α) (right : KvContract β)
    (a : PddbStore (BufferingBackend α) ρ) (b : PddbStore (BufferingBackend β) ρ)
    : Prop where
  twins : Twins (Mirrors left right) a b
  dirty : DirtyServed limits a.sessionDirty

namespace InStep

variable {left : KvContractOn limits α} {right : KvContract β}
  {a : PddbStore (BufferingBackend α) ρ} {b : PddbStore (BufferingBackend β) ρ}

/-- Every step with served names keeps the stores in step, by cases on the step. -/
theorem performOn (covers : limits.Covers presage) (format : RecordFormat ρ)
    {action : StoreAction presage ρ} (named : action.Named limits) (inStep : InStep left right a b)
    : InStep left right (action.performOn format a) (action.performOn format b) := by
  have alike := Mirrors.callsAlike left right
  obtain ⟨twins, dirty⟩ := inStep
  have mirrors := twins.backend
  cases action with
  | read op =>
      refine ⟨(op.perform_twins twins alike covers format named).2, ?_⟩
      simp only [StoreAction.performOn, op.perform_dirty]
      exact dirty
  | write op =>
      exact ⟨op.perform_twins alike covers format twins (named.served dirty),
        named.dirtyServed format dirty⟩
  | beginSendBatch =>
      exact ⟨⟨(Mirrors.beginBatch mirrors).2, twins.sessionCache, twins.sessionDirty⟩, dirty⟩
  | commit order =>
      cases flag : b.backend.batching with
      | true =>
          simp only [StoreAction.performOn, BufferingBackend.isBatching, mirrors.flag, flag, if_true]
          exact ⟨⟨(Mirrors.commit order mirrors).2, twins.sessionCache, twins.sessionDirty⟩, dirty⟩
      | false =>
          simp only [StoreAction.performOn, BufferingBackend.isBatching, mirrors.flag, flag,
            Bool.false_eq_true, if_false]
          exact ⟨twins, dirty⟩
  | abort =>
      cases flag : b.backend.batching with
      | true =>
          simp only [StoreAction.performOn, BufferingBackend.isBatching, mirrors.flag, flag, if_true]
          exact ⟨⟨mirrors.abort, twins.sessionCache, twins.sessionDirty⟩, dirty⟩
      | false =>
          simp only [StoreAction.performOn, BufferingBackend.isBatching, mirrors.flag, flag,
            Bool.false_eq_true, if_false]
          exact ⟨twins, dirty⟩
  | restart =>
      exact ⟨⟨.start mirrors.ready mirrors.ready' mirrors.same, rfl, rfl⟩, .empty limits⟩

end InStep

-----------------------------------------------------------------------------------------
-- Runs of the store
-----------------------------------------------------------------------------------------

namespace Pddb

variable {σ : Type}

/-- A key that is too long is refused before the server is asked. -/
theorem get_too_long {server : PddbServer σ} {rounds : σ → Nat} {dict key : String}
    (long : keyNameLen - 1 < key.utf8ByteSize) (backend : PddbBackend server rounds)
    : ∀ found, (KvBackend.get dict key backend).1 ≠ .ok found := by
  intro found answered
  obtain ⟨state⟩ := backend
  have refused : ∃ message, Pddb.get server.toServer (rounds state) dict key state
      = some (.error (.backend message), state) := by
    simp only [Pddb.get, openKey, long, if_true]
    split
    · next refused =>
        split at refused <;> cases refused <;> exact ⟨_, rfl⟩
    · next opened => split at opened <;> cases opened
  obtain ⟨message, refused⟩ := refused
  simp only [KvBackend.get, refused, PddbBackend.outcome] at answered
  cases answered

/-- A working PDDB keeps exactly the records that fit: what is saved in the slot of a record
with a key of its own is read back if and only if the record fits.
-/
theorem record_kept_iff (server : PddbServer σ) (rounds : σ → Nat)
    (works : server.Works rounds) (state : σ) (ready : works.Ready state) (presage : Presage)
    (record : LogicalRecord) (keyed : record.key presage ≠ "") (value : Bytes)
    : let slot := record.slot presage
      let saved := KvBackend.put slot.1 slot.2 value (⟨state⟩ : PddbBackend server rounds)
      (saved.1 = .ok () ∧ (KvBackend.get slot.1 slot.2 saved.2).1 = .ok (some value))
      ↔ Fits record := by
  intro slot saved
  constructor
  · rintro ⟨-, loaded⟩
    rw [← slot_served_iff presage]
    refine ⟨dict_served record.dict, ?_, ?_⟩
    · exact Nat.pos_of_ne_zero fun empty => keyed (String.utf8ByteSize_eq_zero_iff.mp empty)
    · exact Nat.le_of_not_lt fun long => get_too_long long saved.2 _ loaded
  · intro fits
    have allows := (slot_served_iff presage record).mpr fits
    have put := works.contract.put ready allows value
    have get := works.contract.get put.ready allows
    refine ⟨put.result, get.result.trans ?_⟩
    rw [put.view, Function.update_self]

/-- The sessions of an account are kept, those of a name of a hundred letters are not. -/
theorem record_kept_iff_account
    : let kept (name : String) : Prop :=
        let slot := (LogicalRecord.protocol .aci (.session name)).slot Presage.plain
        let saved := KvBackend.put slot.1 slot.2 [7] (⟨{}⟩ : PddbBackend Basis.server Basis.rounds)
        saved.1 = .ok () ∧ (KvBackend.get slot.1 slot.2 saved.2).1 = .ok (some [7])
      kept (ServiceId.pni ⟨5⟩).serviceIdString
      ∧ ¬kept (String.ofList (List.replicate 100 'a')) := by
  intro kept
  have size : (String.ofList (List.replicate 100 'a')).utf8ByteSize = 100 :=
    (utf8ByteSize_ofList fun c member => by rw [List.eq_of_mem_replicate member]; rfl).trans
      List.length_replicate
  generalize String.ofList (List.replicate 100 'a') = long at size ⊢
  have known (name : String) (named : name ≠ "")
      : kept name ↔ Fits (.protocol .aci (.session name)) :=
    record_kept_iff Basis.server Basis.rounds Basis.works {} Basis.tidy_empty Presage.plain
      (.protocol .aci (.session name)) named [7]
  refine ⟨(known _ (by decide)).mpr (fits_serviceId defaultDeviceId ⟨0⟩).1, fun held => ?_⟩
  have within := (known long fun empty => by simp [empty] at size).mp held
  rw [Fits, size] at within
  omega

/-- Any history of the store over a working PDDB, as long as the records it names fit: the store
answers every read as the one over the map in memory, lists in any order, and both hold the
same sessions in memory, the same open batch and the same values below it.
-/
theorem store_matches_memory (server : PddbServer σ) (rounds : σ → Nat)
    (works : server.Works rounds) (state : σ) (ready : works.Ready state) (memory : InnerBackend)
    (faultless : memory.plan.OnlyBulk)
    (same : ∀ slot, works.contents state slot = memory.map.lookup slot) (format : RecordFormat ρ)
    (history : List (StoreAction presage ρ))
    (named : ∀ action ∈ history, action.Named nameLimits)
    : let onPddb := Runs.run (StoreAction.performOn format)
        (.newBuffering (⟨state⟩ : PddbBackend server rounds)) history
      let inMemory := Runs.run (StoreAction.perform format) (.newBuffering memory) history
      (∀ read : StoreRead presage, read.Served nameLimits
        → read.Agree (read.perform format onPddb).1 (read.perform format inMemory).1)
      ∧ onPddb.sessionCache = inMemory.sessionCache
      ∧ onPddb.sessionDirty = inMemory.sessionDirty
      ∧ onPddb.backend.batching = inMemory.backend.batching
      ∧ onPddb.backend.buffer = inMemory.backend.buffer
      ∧ ∀ slot, works.contents onPddb.backend.inner.state slot
          = inMemory.backend.inner.map.lookup slot := by
  intro onPddb inMemory
  have start : InStep works.contract InnerBackend.contract
      (.newBuffering (⟨state⟩ : PddbBackend server rounds) : PddbStore _ ρ)
      (.newBuffering memory) :=
    ⟨⟨.start ready faultless (funext same), rfl, rfl⟩, .empty nameLimits⟩
  have step (action : StoreAction presage ρ) (member : action ∈ history)
      (a : PddbStore (BufferingBackend (PddbBackend server rounds)) ρ) (b : StoreOp.Buffered ρ)
      (inStep : InStep works.contract InnerBackend.contract a b)
      : InStep works.contract InnerBackend.contract (action.performOn format a)
          (action.perform format b) := by
    rw [← action.performOn_inner format b]
    exact inStep.performOn (covers presage) format (named action member)
  obtain ⟨twins, -⟩ := @Runs.run_related _ _ _ (fun store action =>
    StoreAction.performOn format store action) _ _ history step _ _ start
  refine ⟨fun read served => ?_, twins.sessionCache, twins.sessionDirty, twins.backend.flag,
    twins.backend.buffer, fun slot => congrFun twins.backend.same slot⟩
  exact (read.perform_twins twins (Mirrors.callsAlike _ _) (covers presage) format served).1

/-- A session is stored and flushed within a batch, and is there after a restart. -/
theorem store_matches_memory_flushed
    : let peer : ProtocolAddress := ⟨"alice", defaultDeviceId⟩
      let history : List (StoreAction Presage.plain UInt8) :=
        [.beginSendBatch, .write (.storeSession .aci peer 7), .write (.flushSessions .insertion),
          .commit .insertion, .restart]
      let onPddb := Runs.run (StoreAction.performOn .oneByte)
        (.newBuffering (⟨{}⟩ : PddbBackend Basis.server Basis.rounds)) history
      (onPddb.loadSession .oneByte .insertion .aci peer).1 = .ok (some 7) := by
  intro peer history onPddb
  have fits : nameLimits.Allows
      ((LogicalRecord.protocol .aci (.session peer.name)).slot Presage.plain) :=
    (slot_served_iff Presage.plain _).mpr ⟨by decide, by decide⟩
  have named (action : StoreAction Presage.plain UInt8) (member : action ∈ history)
      : action.Named nameLimits := by
    simp only [history, List.mem_cons, List.not_mem_nil, or_false] at member
    rcases member with rfl | rfl | rfl | rfl | rfl
    · trivial
    · rintro record rfl
      exact fits
    · rintro record ⟨key, member, -⟩
      cases member
    · trivial
    · trivial
  have answers := (store_matches_memory Basis.server Basis.rounds Basis.works {} Basis.tidy_empty
    { map := ∅ } FaultPlan.onlyBulk_default (fun _ => rfl) .oneByte history named).1
  have loaded := answers (.loadSession .insertion .aci peer) (by
    rintro record ⟨⟩
    exact fits)
  have computed : ((Runs.run (StoreAction.perform .oneByte) (.newBuffering { map := ∅ })
      history).loadSession .oneByte .insertion .aci peer).1 = .ok (some 7) := by
    simp only [history, peer]
    decide +kernel
  exact loaded.trans computed

end Pddb

end XousAppSignal.Store
