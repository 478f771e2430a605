import XousAppSignal.Store.TraitCalls

/-! Wiping the store, and the probe for leftover account state. A wipe that succeeds leaves
no key the probe looks at, neither in an open batch nor below it; a wipe that fails part
way keeps the sessions in memory. The calls of the worker are collected here too.
-/

namespace XousAppSignal.Store

variable {β ρ : Type}

/-- The dictionary of the registration data and the identity key pairs. -/
def dictState : String := "signal.state"

def contentsDicts : List String :=
  ["signal.contacts", "signal.groups", "signal.group_avatars", "signal.profiles",
    "signal.profile_keys", "signal.profile_avatars"]

/-- The dictionaries of one protocol store, in the order in which they are wiped. -/
def protocolDicts (identity : IdentityType) : List String :=
  [dictSession identity, dictIdentity identity, dictPrekeyBundle identity,
    dictSignedPrekey identity, dictKyberPrekey identity, dictKyberMeta identity,
    dictSenderKey identity]

/-- The dictionaries `hasAccountState` looks into. -/
def probedDicts : List String := dictState :: (protocolDicts .aci ++ protocolDicts .pni)

def clearedDicts : List String :=
  dictState :: (contentsDicts ++ (protocolDicts .aci ++ protocolDicts .pni))

theorem probed_cleared {dict : String} (probed : dict ∈ probedDicts) : dict ∈ clearedDicts := by
  simp only [probedDicts, clearedDicts, List.mem_cons, List.mem_append] at probed ⊢
  tauto

theorem dictSession_probed (identity : IdentityType) : dictSession identity ∈ probedDicts := by
  cases identity <;> simp [probedDicts, protocolDicts]

section Calls

variable [KvBackend β]

/-- Drop dictionaries one after the other, up to the first failure. -/
def deleteDicts : List String → Call β Unit
  | [], backend => (.ok (), backend)
  | dict :: rest, backend =>
      match KvBackend.deleteDict dict backend with
      | (.error e, backend) => (.error e, backend)
      | (.ok (), backend) => deleteDicts rest backend

/-- Some dictionary lists a key. A failing call counts as an empty dictionary. -/
def listsAnyKey : List String → β → Bool × β
  | [], backend => (false, backend)
  | dict :: rest, backend =>
      match KvBackend.listKeys dict backend with
      | (.ok keys, backend) =>
          if keys.isEmpty then listsAnyKey rest backend else (true, backend)
      | (.error _, backend) => listsAnyKey rest backend

namespace PddbStore

def clearRegistration : Call (PddbStore β ρ) Unit :=
  onBackend (KvBackend.deleteDict dictState)

/-- Wipe every dictionary, then forget the sessions in memory. On a failure the earlier
dictionaries are gone and the sessions in memory stay.
-/
def clear : Call (PddbStore β ρ) Unit := fun self =>
  match onBackend (deleteDicts clearedDicts) self with
  | (.error e, self) => (.error e, self)
  | (.ok (), self) => (.ok (), { self with sessionCache := ∅, sessionDirty := ∅ })

def hasAccountState (self : PddbStore β ρ) : Bool × PddbStore β ρ :=
  ((listsAnyKey probedDicts self.backend).1,
    { self with backend := (listsAnyKey probedDicts self.backend).2 })

end PddbStore

end Calls

open StoreOp (Buffered innerView)

/-- A call on the shared store, by the worker itself or by the protocol library. -/
inductive StoreCall (ρ : Type) where
  | trait (call : TraitCall ρ)
  | flushSessions (order : FlushOrder)
  | beginSendBatch
  | commit (order : HashOrder)
  | abort
  | clearRegistration
  | clear
  | hasAccountState

/-- A batch can be ended only through the guard of an open one. -/
def StoreCall.perform (format : RecordFormat ρ) (store : Buffered ρ)
    : StoreCall ρ → Buffered ρ
  | .trait call => call.perform format store
  | .flushSessions order => (store.flushSessions format order).2
  | .beginSendBatch => store.beginSendBatch.2
  | .commit order => if store.backend.isBatching then (store.commitBatch order).2 else store
  | .abort => if store.backend.isBatching then store.abortBatch else store
  | .clearRegistration => store.clearRegistration.2
  | .clear => store.clear.2
  | .hasAccountState => store.hasAccountState.2

namespace BufferingBackend

/-- Dropping a dictionary leaves each slot of the inner map alone or empties it. -/
theorem inner_deleteDict_cases (dict : String) (inner : InnerBackend) (slot : String × String)
    : (KvBackend.deleteDict dict inner).2.map.lookup slot = inner.map.lookup slot
      ∨ (KvBackend.deleteDict dict inner).2.map.lookup slot = none := by
  simp only [KvBackend.deleteDict, InnerBackend.deleteDict]
  split
  · exact .inl rfl
  · rw [FiniteMap.lookup_retain]
    split
    · exact .inl rfl
    · exact .inr rfl

theorem deleteDict_flag (dict : String) (self : BufferingBackend InnerBackend)
    : (KvBackend.deleteDict dict self).2.batching = self.batching := by
  simp only [KvBackend.deleteDict, deleteDict]
  split <;> rfl

theorem deleteDict_inner (dict : String) (self : BufferingBackend InnerBackend)
    : (KvBackend.deleteDict dict self).2.inner = (KvBackend.deleteDict dict self.inner).2 := by
  simp only [KvBackend.deleteDict, deleteDict]
  split <;> rfl

/-- Inside a batch the dictionary's buffered entries are gone, whatever the inner call did. -/
theorem deleteDict_buffer (dict : String) (self : BufferingBackend InnerBackend)
    (slot : String × String)
    : (KvBackend.deleteDict dict self).2.buffer.lookup slot
      = if self.batching ∧ slot.1 = dict then none else self.buffer.lookup slot := by
  cases flag : self.batching with
  | true =>
      simp only [KvBackend.deleteDict, deleteDict, isBatching, flag, forward,
        FiniteMap.lookup_retain]
      by_cases here : slot.1 = dict <;> simp [here]
  | false => simp [KvBackend.deleteDict, deleteDict, isBatching, flag, forward]

/-- Outside a batch the buffer is not touched. -/
theorem deleteDict_idle {self : BufferingBackend InnerBackend} (closed : self.batching = false)
    (dict : String)
    : (KvBackend.deleteDict dict self).2.buffer = self.buffer := by
  simp [KvBackend.deleteDict, deleteDict, isBatching, closed, forward]

theorem deleteDict_drained {self : BufferingBackend InnerBackend}
    (drained : self.batching = false → self.buffer = ∅) (dict : String)
    (closed : (KvBackend.deleteDict dict self).2.batching = false)
    : (KvBackend.deleteDict dict self).2.buffer = ∅ := by
  rw [deleteDict_flag] at closed
  exact (deleteDict_idle closed dict).trans (drained closed)

end BufferingBackend

theorem listsAnyKey_within {mine : String → Prop} (dicts : List String)
    (self : BufferingBackend InnerBackend)
    : BufferingBackend.Within mine self (listsAnyKey dicts self).2 := by
  induction dicts generalizing self with
  | nil => exact .refl mine self
  | cons dict rest ih =>
      have listed := @BufferingBackend.listKeys_within mine dict self
      unfold listsAnyKey
      generalize KvBackend.listKeys dict self = outcome at listed ⊢
      obtain ⟨_ | keys, next⟩ := outcome
      · exact listed.trans (ih next)
      · dsimp only
        split
        · exact listed.trans (ih next)
        · exact listed

end XousAppSignal.Store
