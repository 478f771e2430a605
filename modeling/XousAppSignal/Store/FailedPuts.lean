import XousAppSignal.Store.CommitFaults
import XousAppSignal.Store.SessionRefinement

/-! A session call outside a batch one of whose puts fails. A put that fails after its
pre-delete ends the call; but for what it leaves at its bundle's slot, the call ends as it does
where failing puts keep their keys.
-/

namespace XousAppSignal.Store

variable {ρ : Type} {format : RecordFormat ρ}

/-- The slot of an address's bundle. -/
abbrev bundleSlot (address : IdentityType × String) : String × String :=
  (dictSession address.1, address.2)

/-- The plan in which every failing put keeps its key. -/
def FaultPlan.kept (plan : FaultPlan) : FaultPlan :=
  { plan with put := plan.put.map (Option.map (fun fault => .preDelete fault.error)) }

theorem FaultPlan.putsKeep_kept (plan : FaultPlan) : plan.kept.PutsKeep := by
  intro fault member
  obtain ⟨planned, -, rfl⟩ := List.mem_map.mp member
  cases planned <;> rfl

/-- What becomes of the puts of some bundles, which are read and written one after the other:
the first that fails ends them, as does the first failing read.
-/
def failingWrite
    : List (IdentityType × String) → List (Option Error) → List (Option PutFault)
      → Option ((IdentityType × String) × PutFault)
  | [], _, _ => none
  | address :: rest, gets, puts =>
      match gets.head?.join, puts.head?.join with
      | some _, _ => none
      | none, some fault => some (address, fault)
      | none, none => failingWrite rest gets.tail puts.tail

namespace PddbStore

/-- The key is cached and not dirty. -/
def Clean {β : Type} (store : PddbStore β ρ) (key : SessionKey) : Prop :=
  key ∈ store.sessionCache ∧ key ∉ store.sessionDirty

/-- The groups of a flush, in the order in which it visits them. -/
def flushGroups {β : Type} (format : RecordFormat ρ) (order : FlushOrder)
    (store : PddbStore β ρ)
    : Option (List ((IdentityType × String) × List (UInt32 × Bytes))) :=
  match groupDirty format store.sessionCache
      (order.dirty.arrange store.sessionDirty.keys) ∅ with
  | .error _ => none
  | .ok groups => some (order.groups.arrange (FiniteMap.pairs groups))

/-- The put of a deletion, which writes a bundle back without the device. -/
def failingRewrite (format : RecordFormat ρ) (key : SessionKey) (inner : InnerBackend)
    : Option PutFault :=
  match inner.plan.get.head?.join,
    storedBundle format (fun slot => inner.map.lookup slot) (key.1, key.2.1) with
  | none, some bundle =>
      if (bundle.lookup key.2.2).isNone || (bundle.erase key.2.2).entries.isEmpty then none
      else inner.plan.put.head?.join
  | _, _ => none

end PddbStore

/-- The put of a session call outside a batch that fails, with the address of its bundle. -/
def SessionOp.failingPut (format : RecordFormat ρ)
    (store : PddbStore (BufferingBackend InnerBackend) ρ)
    : SessionOp ρ → Option ((IdentityType × String) × PutFault)
  | .flushSessions order =>
      (store.flushGroups format order).bind (fun groups =>
        failingWrite (groups.map Prod.fst) store.backend.inner.plan.get
          store.backend.inner.plan.put)
  | .deleteSession _ identity address =>
      (PddbStore.failingRewrite format (sessionKey identity address) store.backend.inner).map
        (fun fault => ((identity, address.name), fault))
  | _ => none

-----------------------------------------------------------------------------------------
-- The same call where failing puts keep their keys
-----------------------------------------------------------------------------------------

namespace InnerBackend

/-- The same map, on which failing puts keep their keys. -/
def kept (self : InnerBackend) : InnerBackend := { self with plan := self.plan.kept }

theorem get_kept (dict key : String) (self : InnerBackend)
    : KvBackend.get dict key self.kept
      = ((KvBackend.get dict key self).1, (KvBackend.get dict key self).2.kept) := by
  have same : self.kept.plan.get = self.plan.get := rfl
  simp only [KvBackend.get, get, same]
  cases self.plan.get.head?.join <;> rfl

theorem delete_kept (dict key : String) (self : InnerBackend)
    : KvBackend.delete dict key self.kept
      = ((KvBackend.delete dict key self).1, (KvBackend.delete dict key self).2.kept) := by
  have same : self.kept.plan.delete = self.plan.delete := rfl
  simp only [KvBackend.delete, delete, same]
  cases self.plan.delete.head?.join <;> rfl

theorem kept_head (plan : FaultPlan)
    : plan.kept.put.head?.join
      = plan.put.head?.join.map (fun fault => PutFault.preDelete fault.error) := by
  unfold FaultPlan.kept
  cases plan.put with
  | nil => rfl
  | cons fault rest => simp

theorem kept_tail (plan : FaultPlan)
    : { plan.kept with put := plan.kept.put.tail }
      = ({ plan with put := plan.put.tail } : FaultPlan).kept := by
  simp [FaultPlan.kept]

/-- A put that is not planned to fail. -/
theorem put_works {dict key : String} {self : InnerBackend}
    (works : self.plan.put.head?.join = none) (value : Bytes)
    : (KvBackend.put dict key value self).1 = .ok ()
      ∧ (KvBackend.put dict key value self.kept)
        = (.ok (), (KvBackend.put dict key value self).2.kept) := by
  have keptWorks : self.kept.plan.put.head?.join = none := by
    change self.plan.kept.put.head?.join = none
    rw [kept_head, works]
    rfl
  simp only [KvBackend.put, put, works, keptWorks]
  refine ⟨trivial, ?_⟩
  simp only [kept, kept_tail]

/-- A put that fails, with the error it has where it keeps its key. -/
theorem put_fails {dict key : String} {self : InnerBackend} {fault : PutFault}
    (fails : self.plan.put.head?.join = some fault) (value : Bytes)
    : (KvBackend.put dict key value self).1 = .error fault.error
      ∧ (KvBackend.put dict key value self.kept).1 = .error fault.error
      ∧ (KvBackend.put dict key value self.kept).2.map = self.map := by
  have keptFails : self.kept.plan.put.head?.join = some (.preDelete fault.error) := by
    change self.plan.kept.put.head?.join = _
    rw [kept_head, fails]
    rfl
  refine ⟨?_, ?_, ?_⟩
  · cases fault <;> simp only [KvBackend.put, put, fails, PutFault.error]
  · simp only [KvBackend.put, put, keptFails]
  · simp only [KvBackend.put, put, keptFails]
    rfl

end InnerBackend

namespace BufferingBackend

/-- The wrapper over the same map, on which failing puts keep their keys. -/
def kept (self : BufferingBackend InnerBackend) : BufferingBackend InnerBackend :=
  { self with inner := self.inner.kept }

/-- The call never puts: it goes the same way where failing puts keep their keys. -/
def PutFree {ε α : Type}
    (call : BufferingBackend InnerBackend → Except ε α × BufferingBackend InnerBackend)
    : Prop :=
  ∀ self, call self.kept = ((call self).1, (call self).2.kept)

/-- A failing put has ended the call: the wrappers differ in what it left at its slot. -/
structure Spoilt (failing : Option ((IdentityType × String) × PutFault))
    (kept after : BufferingBackend InnerBackend)
    : Prop where
  flag : after.batching = kept.batching
  buffer : after.buffer = kept.buffer
  left
    : ∃ address fault value, failing = some (address, fault)
        ∧ ∀ slot, after.inner.map.lookup slot
          = if slot = bundleSlot address then fault.leaves value (kept.inner.map.lookup slot)
            else kept.inner.map.lookup slot

/-- A call ends alike in both, or a failing put has ended it. -/
def Follows {ε α : Type} (failing : Option ((IdentityType × String) × PutFault))
    (kept after : Except ε α × BufferingBackend InnerBackend)
    : Prop :=
  kept.1 = after.1
  ∧ (kept.2 = after.2.kept ∨ (∃ e, after.1 = .error e) ∧ Spoilt failing kept.2 after.2)

theorem putFree_get (dict key : String)
    : PutFree (KvBackend.get dict key : Call (BufferingBackend InnerBackend) _) := by
  rintro ⟨inner, batching, buffer⟩
  have read : InnerBackend.get dict key inner.kept = _ := InnerBackend.get_kept dict key inner
  cases batching with
  | false => simp [KvBackend.get, get, isBatching, kept, forward, read]
  | true =>
      cases found : buffer.lookup (dict, key) with
      | some entry => simp [KvBackend.get, get, isBatching, kept, found]
      | none => simp [KvBackend.get, get, isBatching, kept, found, forward, read]

theorem putFree_delete (dict key : String)
    : PutFree (KvBackend.delete dict key : Call (BufferingBackend InnerBackend) _) := by
  rintro ⟨inner, batching, buffer⟩
  have gone : InnerBackend.delete dict key inner.kept = _ :=
    InnerBackend.delete_kept dict key inner
  cases batching with
  | false => simp [KvBackend.delete, delete, isBatching, kept, forward, gone]
  | true => rfl

theorem putFree_getBundle (format : RecordFormat ρ) (dict key : String)
    : PutFree (backendGetSessionBundle format dict key : Call (BufferingBackend InnerBackend) _)
    := by
  intro self
  have read := putFree_get dict key self
  unfold backendGetSessionBundle
  rw [read]
  generalize KvBackend.get dict key self = outcome
  obtain ⟨_ | _ | bytes, next⟩ := outcome <;> rfl

theorem putFree_getBundleProtocol (format : RecordFormat ρ) (dict key : String)
    : PutFree (backendGetSessionBundleProtocol format dict key
        : ProtocolCall (BufferingBackend InnerBackend) _) := by
  intro self
  have read := putFree_get dict key self
  unfold backendGetSessionBundleProtocol
  rw [read]
  generalize KvBackend.get dict key self = outcome
  obtain ⟨_ | _ | bytes, next⟩ := outcome
  · rfl
  · rfl
  · dsimp only
    cases deserializeSessionBundle format bytes <;> rfl

theorem putFree_deleteProtocol (dict key : String)
    : PutFree (backendDeleteProtocol dict key : ProtocolCall (BufferingBackend InnerBackend) _)
    := by
  intro self
  have gone := putFree_delete dict key self
  unfold backendDeleteProtocol
  rw [gone]
  generalize KvBackend.delete dict key self = outcome
  obtain ⟨_ | _, next⟩ := outcome <;> rfl

theorem putFree_dropAddress (format : RecordFormat ρ) (slot : IdentityType × String)
    : PutFree (PddbStore.dropAddress format slot
        : ProtocolCall (BufferingBackend InnerBackend) _) := by
  intro self
  have read := putFree_getBundleProtocol format (dictSession slot.1) slot.2 self
  unfold PddbStore.dropAddress
  rw [read]
  generalize backendGetSessionBundleProtocol format (dictSession slot.1) slot.2 self = outcome
  obtain ⟨_ | _ | bundle, next⟩ := outcome
  · rfl
  · rfl
  · have gone := putFree_deleteProtocol (dictSession slot.1) slot.2 next
    dsimp only
    rw [gone]
    generalize backendDeleteProtocol (dictSession slot.1) slot.2 next = outcome
    obtain ⟨_ | _, last⟩ := outcome <;> rfl

/-- A read of a bundle outside a batch: where it succeeds it was not planned to fail, and no
outcome of a put is used up.
-/
theorem getBundle_closed {self next : BufferingBackend InnerBackend}
    (closed : self.batching = false) {dict key : String} {found : Option SessionBundle}
    (read : backendGetSessionBundle format dict key self = (.ok found, next))
    : self.inner.plan.get.head?.join = none
      ∧ next.batching = false
      ∧ next.inner.plan = { self.inner.plan with get := self.inner.plan.get.tail } := by
  unfold backendGetSessionBundle at read
  have outer : KvBackend.get dict key self
      = ((InnerBackend.get dict key self.inner).1,
          { self with inner := (InnerBackend.get dict key self.inner).2 }) := by
    simp only [KvBackend.get, get, isBatching, closed, forward]
  rw [outer] at read
  unfold InnerBackend.get at read
  cases planned : self.inner.plan.get.head?.join with
  | some e => simp [planned] at read
  | none =>
      simp only [planned] at read
      generalize self.inner.map.lookup (dict, key) = stored at read
      cases stored with
      | none =>
          obtain ⟨-, rfl⟩ := Prod.mk.inj read
          exact ⟨rfl, closed, rfl⟩
      | some bytes =>
          obtain ⟨-, rfl⟩ := Prod.mk.inj read
          exact ⟨rfl, closed, rfl⟩

/-- The same for the read of a deletion, which finds the stored bundle. -/
theorem getBundleProtocol_closed {self next : BufferingBackend InnerBackend}
    (closed : self.batching = false) {key : SessionKey} {bundle : SessionBundle}
    (read : backendGetSessionBundleProtocol format (dictSession key.1) key.2.1 self
      = (.ok (some bundle), next))
    : self.inner.plan.get.head?.join = none
      ∧ storedBundle format (fun slot => self.inner.map.lookup slot) (key.1, key.2.1)
        = some bundle
      ∧ next.batching = false
      ∧ next.inner.plan.put = self.inner.plan.put := by
  unfold backendGetSessionBundleProtocol at read
  have outer : KvBackend.get (dictSession key.1) key.2.1 self
      = ((InnerBackend.get (dictSession key.1) key.2.1 self.inner).1,
          { self with inner := (InnerBackend.get (dictSession key.1) key.2.1 self.inner).2 }) := by
    simp only [KvBackend.get, get, isBatching, closed, forward]
  rw [outer] at read
  unfold InnerBackend.get at read
  cases planned : self.inner.plan.get.head?.join with
  | some e => simp [planned] at read
  | none =>
      simp only [planned] at read
      cases stored : self.inner.map.lookup (dictSession key.1, key.2.1) with
      | none => simp [stored] at read
      | some bytes =>
          simp only [stored] at read
          cases decoded : deserializeSessionBundle format bytes with
          | error e => simp [decoded] at read
          | ok other =>
              simp only [decoded] at read
              obtain ⟨same, rfl⟩ := Prod.mk.inj read
              obtain rfl : other = bundle := by simpa using same
              exact ⟨rfl, by simp [storedBundle, stored, decoded, Except.toOption], closed, rfl⟩

/-- A put outside a batch goes to the inner backend. -/
theorem put_closed {self : BufferingBackend InnerBackend} (closed : self.batching = false)
    (dict key : String) (value : Bytes)
    : KvBackend.put dict key value self
      = ((KvBackend.put dict key value self.inner).1,
          { self with inner := (KvBackend.put dict key value self.inner).2 }) := by
  simp only [KvBackend.put, put, isBatching, closed, forward]

/-- A put outside a batch that does not fail. -/
theorem put_works {self : BufferingBackend InnerBackend} (closed : self.batching = false)
    (works : self.inner.plan.put.head?.join = none) (dict key : String) (value : Bytes)
    : ∃ next, KvBackend.put dict key value self = (.ok (), next)
        ∧ KvBackend.put dict key value self.kept = (.ok (), next.kept)
        ∧ next.batching = false
        ∧ next.inner.plan = { self.inner.plan with put := self.inner.plan.put.tail } := by
  obtain ⟨done, same⟩ := @InnerBackend.put_works dict key _ works value
  have keptClosed : self.kept.batching = false := closed
  refine ⟨{ self with inner := (KvBackend.put dict key value self.inner).2 },
    by rw [put_closed closed, done], ?_, closed, InnerBackend.put_plan _ _ _ _⟩
  rw [put_closed keptClosed]
  show ((KvBackend.put dict key value self.inner.kept).1, _) = _
  rw [same]
  simp only [kept, same]

/-- A put outside a batch that fails. -/
theorem put_fails {self : BufferingBackend InnerBackend} (closed : self.batching = false)
    {fault : PutFault} (fails : self.inner.plan.put.head?.join = some fault)
    (address : IdentityType × String) (value : Bytes)
    : Follows (some (address, fault))
        (KvBackend.put (dictSession address.1) address.2 value self.kept)
        (KvBackend.put (dictSession address.1) address.2 value self)
      ∧ (KvBackend.put (dictSession address.1) address.2 value self).1 = .error fault.error := by
  obtain ⟨failed, keptFailed, same⟩ :=
    @InnerBackend.put_fails (dictSession address.1) address.2 _ _ fails value
  have keptClosed : self.kept.batching = false := closed
  rw [put_closed closed, put_closed keptClosed]
  refine ⟨⟨keptFailed.trans failed.symm, .inr ⟨⟨_, failed⟩, rfl, rfl, ?_⟩⟩, failed⟩
  refine ⟨address, fault, value, rfl, fun slot => ?_⟩
  show (KvBackend.put _ _ value self.inner).2.map.lookup slot = _
  have unchanged : (KvBackend.put (dictSession address.1) address.2 value self.kept.inner).2.map
      = self.inner.map := same
  rw [InnerBackend.put_lookup, fails]
  simp only [unchanged, putOutcome]

end BufferingBackend

open BufferingBackend (Follows)

/-- Writing the groups of a flush, by induction on them. -/
theorem PddbStore.writeGroups_follows (order : IdentityType × String → HashOrder)
    (groups : List ((IdentityType × String) × List (UInt32 × Bytes))) (written : Nat)
    {self : BufferingBackend InnerBackend} (closed : self.batching = false)
    : Follows
        (failingWrite (groups.map Prod.fst) self.inner.plan.get self.inner.plan.put)
        (writeGroups format order groups written self.kept)
        (writeGroups format order groups written self) := by
  induction groups generalizing written self with
  | nil => exact ⟨rfl, .inl rfl⟩
  | cons group rest ih =>
      obtain ⟨address, entries⟩ := group
      have read := BufferingBackend.putFree_getBundle format (dictSession address.1) address.2 self
      have looked (found : Option SessionBundle) (next : BufferingBackend InnerBackend) :=
        @BufferingBackend.getBundle_closed _ format self next closed (dictSession address.1)
          address.2 found
      unfold writeGroups
      simp only [read]
      generalize backendGetSessionBundle format (dictSession address.1) address.2 self = outcome
        at looked ⊢
      obtain ⟨_ | found, next⟩ := outcome
      · exact ⟨rfl, .inl rfl⟩
      · obtain ⟨works, nextClosed, plan⟩ := looked found next rfl
        have puts : next.inner.plan.put = self.inner.plan.put := by rw [plan]
        have gets : next.inner.plan.get = self.inner.plan.get.tail := by rw [plan]
        dsimp only
        unfold backendPutSessionBundle
        cases planned : self.inner.plan.put.head?.join with
        | none =>
            obtain ⟨last, done, keptDone, lastClosed, later⟩ :=
              BufferingBackend.put_works nextClosed (puts ▸ planned) (dictSession address.1)
                address.2 (serializeSessionBundle (order address)
                  (FiniteMap.insertAll (found.getD ∅) entries))
            have goesOn := ih (written + entries.length) lastClosed
            rw [later] at goesOn
            simp only [gets, puts] at goesOn
            rw [done, keptDone]
            simp only [List.map_cons, failingWrite, works, planned]
            exact goesOn
        | some fault =>
            obtain ⟨⟨same, spoilt⟩, failed⟩ :=
              BufferingBackend.put_fails nextClosed (puts ▸ planned) address
                (serializeSessionBundle (order address)
                  (FiniteMap.insertAll (found.getD ∅) entries))
            simp only [List.map_cons, failingWrite, works, planned]
            generalize KvBackend.put (dictSession address.1) address.2 _ next = outcome
              at same spoilt failed ⊢
            generalize KvBackend.put (dictSession address.1) address.2 _ next.kept = keptOutcome
              at same spoilt ⊢
            obtain ⟨result, last⟩ := outcome
            obtain ⟨keptResult, keptLast⟩ := keptOutcome
            obtain rfl : result = .error fault.error := failed
            obtain rfl : keptResult = .error fault.error := same
            dsimp only
            exact ⟨rfl, spoilt.imp_right (fun both => ⟨⟨_, rfl⟩, both.2⟩)⟩

/-- Dropping a device from its bundle. -/
theorem PddbStore.dropDevice_follows (order : HashOrder) (key : SessionKey)
    {self : BufferingBackend InnerBackend} (closed : self.batching = false)
    : Follows
        ((failingRewrite format key self.inner).map (fun fault => ((key.1, key.2.1), fault)))
        (dropDevice format order key self.kept) (dropDevice format order key self) := by
  have read := BufferingBackend.putFree_getBundleProtocol format (dictSession key.1) key.2.1 self
  have looked (bundle : SessionBundle) (next : BufferingBackend InnerBackend) :=
    @BufferingBackend.getBundleProtocol_closed _ format self next closed key bundle
  unfold dropDevice
  rw [read]
  generalize backendGetSessionBundleProtocol format (dictSession key.1) key.2.1 self = outcome
    at looked ⊢
  obtain ⟨_ | _ | bundle, next⟩ := outcome
  · exact ⟨rfl, .inl rfl⟩
  · exact ⟨rfl, .inl rfl⟩
  · obtain ⟨works, stored, nextClosed, puts⟩ := looked bundle next rfl
    simp only [failingRewrite, works, stored]
    cases absent : (bundle.lookup key.2.2).isNone with
    | true => exact ⟨rfl, .inl rfl⟩
    | false =>
        cases empty : (bundle.erase key.2.2).entries.isEmpty with
        | true =>
            have gone := BufferingBackend.putFree_deleteProtocol (dictSession key.1) key.2.1 next
            simp only [Bool.false_eq_true, if_false, if_true]
            rw [gone]
            exact ⟨rfl, .inl rfl⟩
        | false =>
            simp only [Bool.or_self, Bool.false_eq_true, if_false]
            unfold backendPutSessionBundleProtocol
            cases planned : self.inner.plan.put.head?.join with
            | none =>
                obtain ⟨last, done, keptDone, -⟩ :=
                  BufferingBackend.put_works nextClosed (puts ▸ planned) (dictSession key.1)
                    key.2.1 (serializeSessionBundle order (bundle.erase key.2.2))
                rw [done, keptDone]
                exact ⟨rfl, .inl rfl⟩
            | some fault =>
                obtain ⟨⟨same, spoilt⟩, failed⟩ :=
                  BufferingBackend.put_fails nextClosed (puts ▸ planned) (key.1, key.2.1)
                    (serializeSessionBundle order (bundle.erase key.2.2))
                generalize KvBackend.put (dictSession key.1) key.2.1 _ next = outcome
                  at same spoilt failed ⊢
                generalize KvBackend.put (dictSession key.1) key.2.1 _ next.kept = keptOutcome
                  at same spoilt ⊢
                obtain ⟨result, last⟩ := outcome
                obtain ⟨keptResult, keptLast⟩ := keptOutcome
                obtain rfl : result = .error fault.error := failed
                obtain rfl : keptResult = .error fault.error := same
                dsimp only [Option.map_some] at spoilt ⊢
                exact ⟨rfl, spoilt.imp_right (fun both => ⟨⟨_, rfl⟩, both.2⟩)⟩

-----------------------------------------------------------------------------------------
-- A session call
-----------------------------------------------------------------------------------------

/-- The store over the same map, on which failing puts keep their keys. -/
def PddbStore.kept (store : PddbStore (BufferingBackend InnerBackend) ρ)
    : PddbStore (BufferingBackend InnerBackend) ρ :=
  { store with backend := store.backend.kept }

/-- A session call ends as it does where failing puts keep their keys, but for what a failing put
left at its slot; the call then leaves no key clean that was not, nor one it deletes.
-/
def SessionOp.FollowsKept (format : RecordFormat ρ)
    (store : PddbStore (BufferingBackend InnerBackend) ρ) (op : SessionOp ρ)
    : Prop :=
  let kept := op.perform format store.kept
  let after := op.perform format store
  (kept.sessionCache = after.sessionCache ∧ kept.sessionDirty = after.sessionDirty)
  ∧ (kept.backend = after.backend.kept
    ∨ BufferingBackend.Spoilt (op.failingPut format store) kept.backend after.backend
      ∧ ∀ key, after.Clean key → store.Clean key ∧ op.effect key ≠ some none)

theorem SessionOp.flush_follows {store : PddbStore (BufferingBackend InnerBackend) ρ}
    (closed : store.backend.batching = false) (order : FlushOrder)
    : SessionOp.FollowsKept format store (.flushSessions order) := by
  obtain ⟨backend, cache, dirty⟩ := store
  have same : PddbStore.kept ⟨backend, cache, dirty⟩ = ⟨backend.kept, cache, dirty⟩ := rfl
  simp only [SessionOp.FollowsKept, SessionOp.perform, same]
  simp only [PddbStore.flushSessions, PddbStore.onBackend, SessionOp.failingPut,
    PddbStore.flushGroups]
  by_cases empty : dirty.entries.isEmpty = true
  · rw [if_pos empty, if_pos empty]
    exact ⟨⟨rfl, rfl⟩, .inl rfl⟩
  · rw [if_neg empty, if_neg empty]
    cases grouped : PddbStore.groupDirty format cache (order.dirty.arrange dirty.keys) ∅ with
    | error e => exact ⟨⟨rfl, rfl⟩, .inl rfl⟩
    | ok groups =>
        have wrote := @PddbStore.writeGroups_follows _ format order.bundle
          (order.groups.arrange (FiniteMap.pairs groups)) 0 _ closed
        dsimp only [Option.bind_some]
        generalize PddbStore.writeGroups format order.bundle
          (order.groups.arrange (FiniteMap.pairs groups)) 0 backend = outcome at wrote ⊢
        generalize PddbStore.writeGroups format order.bundle
          (order.groups.arrange (FiniteMap.pairs groups)) 0 backend.kept = keptOutcome at wrote ⊢
        obtain ⟨result, next⟩ := outcome
        obtain ⟨keptResult, keptNext⟩ := keptOutcome
        obtain ⟨same, alike | ⟨⟨e, failed⟩, spoilt⟩⟩ := wrote
        · obtain rfl : keptResult = result := same
          cases keptResult <;> exact ⟨⟨rfl, rfl⟩, .inl alike⟩
        · obtain rfl : keptResult = result := same
          obtain rfl : keptResult = .error e := failed
          refine ⟨⟨rfl, rfl⟩, .inr ⟨spoilt, fun key clean => ⟨clean, ?_⟩⟩⟩
          simp [SessionOp.effect]

theorem SessionOp.delete_follows {store : PddbStore (BufferingBackend InnerBackend) ρ}
    (closed : store.backend.batching = false) (order : HashOrder) (identity : IdentityType)
    (address : ProtocolAddress)
    : SessionOp.FollowsKept format store (.deleteSession order identity address) := by
  have dropped := @PddbStore.dropDevice_follows _ format order (sessionKey identity address)
    _ closed
  simp only [SessionOp.FollowsKept, SessionOp.perform, PddbStore.deleteSession_eq, PddbStore.kept,
    PddbStore.onBackend, SessionOp.failingPut]
  refine ⟨⟨trivial, trivial⟩, dropped.2.imp_right fun both => ⟨both.2, fun key clean => ?_⟩⟩
  obtain ⟨different, cached⟩ := AList.mem_erase.mp clean.1
  refine ⟨⟨cached, fun dirty => clean.2 (AList.mem_erase.mpr ⟨different, dirty⟩)⟩, ?_⟩
  simp [SessionOp.effect, different]

/-- Outside a batch every session call does, most of them without a put. -/
theorem SessionOp.perform_follows {store : PddbStore (BufferingBackend InnerBackend) ρ}
    (closed : store.backend.batching = false) (op : SessionOp ρ)
    : op.FollowsKept format store := by
  cases op with
  | storeSession identity address record => exact ⟨⟨rfl, rfl⟩, .inl rfl⟩
  | loadSession order identity address =>
      have read := BufferingBackend.putFree_getBundleProtocol format (dictSession identity)
        address.name store.backend
      simp only [SessionOp.FollowsKept, SessionOp.perform, PddbStore.loadSession, PddbStore.kept,
        PddbStore.onBackend, read]
      split
      · exact ⟨⟨rfl, rfl⟩, .inl rfl⟩
      · generalize backendGetSessionBundleProtocol format (dictSession identity) address.name
          store.backend = outcome
        obtain ⟨_ | _ | bundle, next⟩ := outcome
        · exact ⟨⟨rfl, rfl⟩, .inl rfl⟩
        · exact ⟨⟨rfl, rfl⟩, .inl rfl⟩
        · dsimp only
          split
          · exact ⟨⟨rfl, rfl⟩, .inl rfl⟩
          · split <;> exact ⟨⟨rfl, rfl⟩, .inl rfl⟩
  | flushSessions order => exact flush_follows closed order
  | deleteSession order identity address => exact delete_follows closed order identity address
  | deleteAllSessions identity aci =>
      have dropped := BufferingBackend.putFree_dropAddress format
        (identity, (ServiceId.aci aci).rawUuid.toString) store.backend
      simp only [SessionOp.FollowsKept, SessionOp.perform, PddbStore.deleteAllSessions_eq,
        PddbStore.kept]
      exact ⟨⟨trivial, trivial⟩, .inl (congrArg Prod.snd dropped)⟩
  | getSubDeviceSessions identity aci =>
      have read := BufferingBackend.putFree_getBundleProtocol format (dictSession identity)
        (ServiceId.rawUuid (.aci aci)).toString store.backend
      simp only [SessionOp.FollowsKept, SessionOp.perform, PddbStore.getSubDeviceSessions,
        PddbStore.kept, PddbStore.onBackend, read]
      generalize backendGetSessionBundleProtocol format (dictSession identity)
        (ServiceId.rawUuid (.aci aci)).toString store.backend = outcome
      obtain ⟨_ | found, next⟩ := outcome <;> exact ⟨⟨rfl, rfl⟩, .inl rfl⟩

end XousAppSignal.Store
