import XousAppSignal.Store.Clear

/-! A wipe is not undone by what was buffered or cached. After a successful `clear` the
dictionaries of the account hold no key in the inner backend and no write in the buffer, so
neither a commit nor a flush nor a deletion can bring one back.
-/

namespace XousAppSignal.Store

variable {ρ : Type} {mine : String → Prop}

open BufferingBackend (Within)
open StoreOp (Buffered)

namespace BufferingBackend

/-- The given slots are empty below the buffer, and the buffer writes none of them; deletions
may be buffered.
-/
structure Absent (slots : String × String → Prop) (backend : BufferingBackend InnerBackend)
    : Prop where
  inner : ∀ slot, slots slot → backend.inner.map.lookup slot = none
  buffer : ∀ slot bytes, slots slot → backend.buffer.lookup slot ≠ some (.put bytes)

namespace Absent

variable {slots : String × String → Prop}

/-- A call that changes other dictionaries only. -/
theorem of_within {other : String → Prop} {before after : BufferingBackend InnerBackend}
    (absent : Absent slots before) (within : Within other before after)
    (apart : ∀ slot, slots slot → ¬other slot.1)
    : Absent slots after := by
  refine ⟨fun slot here => ?_, fun slot bytes here => ?_⟩
  · rw [within.inner slot (apart slot here)]
    exact absent.inner slot here
  · rw [within.buffer slot (apart slot here)]
    exact absent.buffer slot bytes here

theorem put {self : BufferingBackend InnerBackend} (absent : Absent slots self)
    {dict key : String} (other : ¬slots (dict, key)) (value : Bytes)
    : Absent slots (KvBackend.put dict key value self).2 := by
  have elsewhere {slot : String × String} (here : slots slot) : slot ≠ (dict, key) := by
    rintro rfl
    exact other here
  simp only [KvBackend.put, BufferingBackend.put]
  split
  · refine ⟨absent.inner, fun slot bytes here => ?_⟩
    rw [FiniteMap.lookup_insert', if_neg (elsewhere here)]
    exact absent.buffer slot bytes here
  · refine ⟨fun slot here => ?_, absent.buffer⟩
    refine (InnerBackend.put_lookup self.inner dict key value slot).trans ?_
    rw [if_neg (elsewhere here)]
    exact absent.inner slot here

theorem delete {self : BufferingBackend InnerBackend} (absent : Absent slots self)
    (dict key : String)
    : Absent slots (KvBackend.delete dict key self).2 := by
  simp only [KvBackend.delete, BufferingBackend.delete]
  split
  · refine ⟨absent.inner, fun slot bytes here => ?_⟩
    rw [FiniteMap.lookup_insert']
    split
    · simp
    · exact absent.buffer slot bytes here
  · refine ⟨fun slot here => ?_, absent.buffer⟩
    refine (InnerBackend.delete_lookup self.inner dict key slot).trans ?_
    split
    · rfl
    · exact absent.inner slot here

theorem deleteDict {self : BufferingBackend InnerBackend} (absent : Absent slots self)
    (dict : String)
    : Absent slots (KvBackend.deleteDict dict self).2 := by
  refine ⟨fun slot here => ?_, fun slot bytes here => ?_⟩
  · rw [deleteDict_inner]
    rcases inner_deleteDict_cases dict self.inner slot with same | gone
    · exact same.trans (absent.inner slot here)
    · exact gone
  · rw [deleteDict_buffer]
    split
    · simp
    · exact absent.buffer slot bytes here

theorem deleteDicts {self : BufferingBackend InnerBackend} (absent : Absent slots self)
    (dicts : List String)
    : Absent slots (Store.deleteDicts dicts self).2 := by
  induction dicts generalizing self with
  | nil => exact absent
  | cons dict rest ih =>
      have dropped := absent.deleteDict dict
      unfold Store.deleteDicts
      generalize KvBackend.deleteDict dict self = outcome at dropped ⊢
      obtain ⟨_ | _, next⟩ := outcome
      · exact dropped
      · exact ih dropped

/-- A commit has nothing to write to these slots. -/
theorem commit {self : BufferingBackend InnerBackend} (absent : Absent slots self)
    (order : HashOrder)
    : Absent slots (commitInternal order self).2 := by
  have drained : (commitInternal order self).2.buffer = ∅ := by
    simp only [commitInternal]
    split <;> rfl
  refine ⟨fun slot here => ?_, fun slot bytes _ => by simp [drained]⟩
  rw [commitInternal_lookup]
  split
  · simp only [overlay]
    split
    · next entry found =>
        cases entry with
        | put bytes => exact absurd found (absent.buffer slot bytes here)
        | delete => rfl
    · exact absent.inner slot here
  · exact (left_of_no_put order (fun bytes => absent.buffer slot bytes here)).trans
      (absent.inner slot here)

theorem abort {self : BufferingBackend InnerBackend} (absent : Absent slots self)
    : Absent slots self.abortInternal :=
  ⟨absent.inner, fun slot bytes _ => by simp [abortInternal]⟩

theorem begin {self : BufferingBackend InnerBackend} (absent : Absent slots self)
    : Absent slots (beginBatch self).2 := by
  simp only [beginBatch]
  split <;> exact ⟨absent.inner, absent.buffer⟩

end Absent

/-- The named dictionaries are empty below the buffer, and the buffer writes none of their
keys; deletions may be buffered.
-/
structure Vacant (mine : String → Prop) (backend : BufferingBackend InnerBackend) : Prop where
  inner : ∀ slot : String × String, mine slot.1 → backend.inner.map.lookup slot = none
  buffer : ∀ (slot : String × String) bytes, mine slot.1
    → backend.buffer.lookup slot ≠ some (.put bytes)

namespace Vacant

theorem absent {backend : BufferingBackend InnerBackend} (vacant : Vacant mine backend)
    : Absent (fun slot => mine slot.1) backend :=
  ⟨vacant.inner, vacant.buffer⟩

theorem of_absent {backend : BufferingBackend InnerBackend}
    (absent : Absent (fun slot => mine slot.1) backend)
    : Vacant mine backend :=
  ⟨absent.inner, absent.buffer⟩

/-- A call that changes other dictionaries only. -/
theorem of_within {other : String → Prop} {before after : BufferingBackend InnerBackend}
    (vacant : Vacant mine before) (within : Within other before after)
    (apart : ∀ dict, mine dict → ¬other dict)
    : Vacant mine after :=
  .of_absent (vacant.absent.of_within within (fun slot => apart slot.1))

/-- A call that changes nothing stored or buffered. -/
theorem of_read {before after : BufferingBackend InnerBackend} (vacant : Vacant mine before)
    (read : Within (fun _ => False) before after)
    : Vacant mine after :=
  vacant.of_within read (fun _ _ => not_false)

theorem get {self : BufferingBackend InnerBackend} (vacant : Vacant mine self) {dict : String}
    (here : mine dict) (key : String) (bytes : Bytes)
    : (KvBackend.get dict key self).1 ≠ .ok (some bytes) := by
  simp only [KvBackend.get, BufferingBackend.get]
  split
  · next entry _ found =>
      cases entry with
      | put stored => exact absurd found (vacant.buffer (dict, key) stored here)
      | delete => simp [BufferEntry.value]
  · simp only [forward, InnerBackend.get]
    split
    · simp
    · simp [vacant.inner (dict, key) here]

theorem delete {self : BufferingBackend InnerBackend} (vacant : Vacant mine self)
    (dict key : String)
    : Vacant mine (KvBackend.delete dict key self).2 :=
  .of_absent (vacant.absent.delete dict key)

theorem deleteDict {self : BufferingBackend InnerBackend} (vacant : Vacant mine self)
    (dict : String)
    : Vacant mine (KvBackend.deleteDict dict self).2 :=
  .of_absent (vacant.absent.deleteDict dict)

theorem deleteDicts {self : BufferingBackend InnerBackend} (vacant : Vacant mine self)
    (dicts : List String)
    : Vacant mine (Store.deleteDicts dicts self).2 :=
  .of_absent (vacant.absent.deleteDicts dicts)

/-- A commit has nothing to write in these dictionaries. -/
theorem commit {self : BufferingBackend InnerBackend} (vacant : Vacant mine self)
    (order : HashOrder)
    : Vacant mine (commitInternal order self).2 :=
  .of_absent (vacant.absent.commit order)

theorem abort {self : BufferingBackend InnerBackend} (vacant : Vacant mine self)
    : Vacant mine self.abortInternal :=
  .of_absent vacant.absent.abort

theorem begin {self : BufferingBackend InnerBackend} (vacant : Vacant mine self)
    : Vacant mine (beginBatch self).2 :=
  .of_absent vacant.absent.begin

/-- A map without values in a dictionary lists none of its keys. -/
theorem listed_nil {map : FiniteMap (String × String) Bytes}
    (vacant : ∀ slot : String × String, mine slot.1 → map.lookup slot = none)
    {dict : String} (here : mine dict)
    : (map.keys.filter (fun slot => slot.1 = dict)).map Prod.snd = [] := by
  rw [List.map_eq_nil_iff, List.filter_eq_nil_iff]
  intro slot stored
  rw [← AList.mem_keys, FiniteMap.mem_iff_lookup] at stored
  obtain ⟨bytes, found⟩ := stored
  intro same
  rw [decide_eq_true_eq] at same
  rw [vacant slot (same ▸ here)] at found
  cases found

/-- Listing the keys of such a dictionary finds none, inside a batch or outside. -/
theorem listKeys {self : BufferingBackend InnerBackend} (vacant : Vacant mine self)
    {dict : String} (here : mine dict) {keys : List String}
    (listed : (KvBackend.listKeys dict self).1 = .ok keys)
    : keys = [] := by
  have below := listed_nil vacant.inner here
  simp only [KvBackend.listKeys, BufferingBackend.listKeys, forward, InnerBackend.listKeys]
    at listed
  cases fault : self.inner.plan.listKeys.head?.join with
  | some e => simp [fault] at listed
  | none =>
      simp only [fault, below] at listed
      split at listed
      · exact (Except.ok.inj listed).symm
      · rw [← Except.ok.inj listed, List.eq_nil_iff_forall_not_mem]
        intro key member
        rw [Finset.mem_sort, mem_foldl_overlayKey _ _ _ _ (FiniteMap.pairs_keys_nodup _)]
          at member
        rcases member with ⟨bytes, put⟩ | ⟨-, below⟩
        · exact vacant.buffer (dict, key) bytes here (FiniteMap.mem_pairs.mp put)
        · simp at below

/-- The probe finds no key in such dictionaries, whatever inner calls fail. -/
theorem listsAnyKey {self : BufferingBackend InnerBackend} (vacant : Vacant mine self)
    {dicts : List String} (here : ∀ dict ∈ dicts, mine dict)
    : (Store.listsAnyKey dicts self).1 = false := by
  induction dicts generalizing self with
  | nil => rfl
  | cons dict rest ih =>
      have read := vacant.of_read (listKeys_within dict self)
      have none := @vacant.listKeys _ _ dict (here dict (by simp))
      have later := @ih _ read (fun other member => here other (by simp [member]))
      unfold Store.listsAnyKey
      generalize KvBackend.listKeys dict self = outcome at later none ⊢
      obtain ⟨_ | keys, next⟩ := outcome
      · exact later
      · obtain rfl := none rfl
        exact later

theorem of_deleteDict {self : BufferingBackend InnerBackend} {dict : String}
    (drained : self.batching = false → self.buffer = ∅)
    (dropped : (KvBackend.deleteDict dict self).1 = .ok ())
    : Vacant (fun other => other = dict) (KvBackend.deleteDict dict self).2 := by
  refine ⟨fun slot here => ?_, fun slot bytes here => ?_⟩
  · have answer : (KvBackend.deleteDict dict self.inner).1 = .ok () := by
      rw [← dropped]
      simp only [KvBackend.deleteDict, BufferingBackend.deleteDict]
      split <;> rfl
    rw [deleteDict_inner]
    simp only [KvBackend.deleteDict, InnerBackend.deleteDict] at answer ⊢
    split at answer
    · cases answer
    · exact (FiniteMap.lookup_retain _ _ _).trans (if_neg (by simpa using here))
  · rw [deleteDict_buffer]
    cases flag : self.batching with
    | true => simp [here]
    | false => simp [drained flag]

/-- Dropping dictionaries one after the other empties each of them. -/
theorem of_deleteDicts {self : BufferingBackend InnerBackend} {dicts : List String}
    (drained : self.batching = false → self.buffer = ∅)
    (dropped : (Store.deleteDicts dicts self).1 = .ok ())
    : Vacant (fun dict => dict ∈ dicts) (Store.deleteDicts dicts self).2 := by
  induction dicts generalizing self with
  | nil => exact ⟨fun _ absent => (by cases absent), fun _ _ absent => (by cases absent)⟩
  | cons dict rest ih =>
      have first := @of_deleteDict self dict drained
      have still := deleteDict_drained drained dict
      unfold Store.deleteDicts at dropped ⊢
      generalize KvBackend.deleteDict dict self = outcome at first still dropped ⊢
      obtain ⟨_ | _, next⟩ := outcome
      · cases dropped
      · have later := ih still dropped
        have kept := (first rfl).deleteDicts rest
        refine ⟨fun slot here => ?_, fun slot bytes here => ?_⟩
        · rcases List.mem_cons.mp here with same | other
          · exact kept.inner slot same
          · exact later.inner slot other
        · rcases List.mem_cons.mp here with same | other
          · exact kept.buffer slot bytes same
          · exact later.buffer slot bytes other

end Vacant

end BufferingBackend

open BufferingBackend (Vacant)

/-- Nothing is buffered without a batch. -/
def Drained (store : Buffered ρ) : Prop :=
  store.backend.batching = false → store.backend.buffer = ∅

theorem Drained.of_within {store : Buffered ρ} (drained : Drained store)
    {after : Buffered ρ} (within : Within mine store.backend after.backend)
    : Drained after := by
  intro closed
  have wasClosed : store.backend.batching = false := within.flag ▸ closed
  exact (within.idle wasClosed).trans (drained wasClosed)

theorem Drained.deleteDicts {self : BufferingBackend InnerBackend}
    (drained : self.batching = false → self.buffer = ∅) (dicts : List String)
    (closed : (Store.deleteDicts dicts self).2.batching = false)
    : (Store.deleteDicts dicts self).2.buffer = ∅ := by
  induction dicts generalizing self with
  | nil => exact drained closed
  | cons dict rest ih =>
      have dropped := BufferingBackend.deleteDict_drained drained dict
      unfold Store.deleteDicts at closed ⊢
      generalize KvBackend.deleteDict dict self = outcome at dropped closed ⊢
      obtain ⟨_ | _, next⟩ := outcome
      · exact dropped closed
      · exact ih dropped closed

/-- Clearing works on the backend as one run of dictionary deletions. -/
theorem PddbStore.clear_backend (store : Buffered ρ)
    : store.clear.2.backend = (deleteDicts clearedDicts store.backend).2
      ∧ (store.clear.1 = .ok () → (deleteDicts clearedDicts store.backend).1 = .ok ()
          ∧ store.clear.2.sessionCache = ∅ ∧ store.clear.2.sessionDirty = ∅) := by
  simp only [clear, onBackend]
  generalize deleteDicts clearedDicts store.backend = outcome
  obtain ⟨_ | _, next⟩ := outcome
  · exact ⟨rfl, fun cleared => by cases cleared⟩
  · exact ⟨rfl, fun _ => ⟨rfl, rfl, rfl⟩⟩

/-- Every call of the worker keeps the buffer empty outside a batch. -/
theorem Drained.perform {format : RecordFormat ρ} {store : Buffered ρ}
    (drained : Drained store) (call : StoreCall ρ)
    : Drained (call.perform format store) := by
  cases call with
  | trait call =>
      cases call with
      | session op trait => exact drained.of_within (op.perform_within format store)
      | kv op other =>
          exact drained.of_within
            (@BufferingBackend.perform_within (fun _ => True) op trivial store.backend)
  | flushSessions order =>
      exact drained.of_within (SessionOp.perform_within format store (.flushSessions order))
  | beginSendBatch =>
      simp only [StoreCall.perform, PddbStore.beginSendBatch, PddbStore.onBackend,
        BufferingBackend.beginBatch]
      split
      · exact fun closed => by cases closed
      · exact drained
  | commit order =>
      simp only [StoreCall.perform, PddbStore.commitBatch, PddbStore.onBackend,
        BufferingBackend.commitInternal]
      split
      · split <;> exact fun _ => rfl
      · exact drained
  | abort =>
      simp only [StoreCall.perform]
      split
      · exact fun _ => rfl
      · exact drained
  | clearRegistration => exact BufferingBackend.deleteDict_drained drained dictState
  | clear =>
      have wiped := Drained.deleteDicts drained clearedDicts
      rw [← (PddbStore.clear_backend store).1] at wiped
      exact wiped
  | hasAccountState =>
      exact drained.of_within (@listsAnyKey_within (fun _ => True) probedDicts store.backend)

theorem Drained.run (format : RecordFormat ρ) (inner : InnerBackend)
    (history : List (StoreCall ρ))
    : Drained (Runs.run (StoreCall.perform format) (PddbStore.newBuffering inner) history) :=
  Runs.run_invariant (fun _ call drained => drained.perform call) history (fun _ => rfl)

/-- No account state is stored or about to be written by a commit. -/
def Wiped (store : Buffered ρ) : Prop := Vacant (fun dict => dict ∈ probedDicts) store.backend

theorem Wiped.of_clear {store : Buffered ρ} (drained : Drained store)
    (cleared : store.clear.1 = .ok ())
    : Wiped store.clear.2 ∧ store.clear.2.sessionDirty = ∅ := by
  obtain ⟨backend, memory⟩ := PddbStore.clear_backend store
  obtain ⟨dropped, -, dirty⟩ := memory cleared
  have vacant := Vacant.of_deleteDicts drained dropped
  rw [← backend] at vacant
  exact ⟨⟨fun slot probed => vacant.inner slot (probed_cleared probed),
    fun slot bytes probed => vacant.buffer slot bytes (probed_cleared probed)⟩, dirty⟩

theorem Wiped.hasAccountState {store : Buffered ρ} (wiped : Wiped store)
    : store.hasAccountState.1 = false :=
  Vacant.listsAnyKey wiped (fun _ member => member)

/-- A bundle of a wiped store is not there to be read. -/
theorem Wiped.getBundleProtocol {store : Buffered ρ} (wiped : Wiped store)
    (format : RecordFormat ρ) (identity : IdentityType) (name : String) (bundle : SessionBundle)
    : (backendGetSessionBundleProtocol format (dictSession identity) name store.backend).1
      ≠ .ok (some bundle) := by
  have absent := Vacant.get wiped (dictSession_probed identity) name
  unfold backendGetSessionBundleProtocol
  generalize KvBackend.get (dictSession identity) name store.backend = outcome at absent ⊢
  obtain ⟨_ | _ | bytes, next⟩ := outcome
  · simp
  · simp
  · exact absurd rfl (absent bytes)

/-- Session calls of the store traits find nothing to rewrite in a wiped store. -/
theorem Wiped.session {store : Buffered ρ} (wiped : Wiped store) (format : RecordFormat ρ)
    {op : SessionOp ρ} (trait : op.isFlush = false)
    : Wiped (op.perform format store) := by
  have read (identity : IdentityType) (name : String)
      : Wiped
          { store with
            backend :=
              (backendGetSessionBundleProtocol format (dictSession identity) name
                store.backend).2 } :=
    Vacant.of_read wiped
      (BufferingBackend.getBundleProtocol_within format (dictSession identity) name
        store.backend)
  cases op with
  | storeSession identity address record => exact wiped
  | loadSession order identity address =>
      have missing := wiped.getBundleProtocol format identity address.name
      have after := read identity address.name
      simp only [SessionOp.perform, PddbStore.loadSession, PddbStore.onBackend]
      split
      · exact wiped
      · generalize backendGetSessionBundleProtocol format (dictSession identity) address.name
          store.backend = outcome at missing after ⊢
        obtain ⟨_ | _ | bundle, next⟩ := outcome
        · exact after
        · exact after
        · exact absurd rfl (missing bundle)
  | flushSessions order => cases trait
  | deleteSession order identity address =>
      have missing := wiped.getBundleProtocol format identity address.name
      have after := read identity address.name
      simp only [SessionOp.perform, PddbStore.deleteSession, PddbStore.onBackend, sessionKey]
      generalize backendGetSessionBundleProtocol format (dictSession identity) address.name
        store.backend = outcome at missing after ⊢
      obtain ⟨_ | _ | bundle, next⟩ := outcome
      · exact after
      · exact after
      · exact absurd rfl (missing bundle)
  | deleteAllSessions identity aci =>
      have missing := wiped.getBundleProtocol format identity
        (ServiceId.rawUuid (.aci aci)).toString
      have after := read identity (ServiceId.rawUuid (.aci aci)).toString
      simp only [SessionOp.perform, PddbStore.deleteAllSessions, PddbStore.onBackend]
      generalize backendGetSessionBundleProtocol format (dictSession identity)
        (ServiceId.rawUuid (.aci aci)).toString store.backend = outcome at missing after ⊢
      obtain ⟨_ | _ | bundle, next⟩ := outcome
      · exact after
      · exact after
      · exact absurd rfl (missing bundle)
  | getSubDeviceSessions identity aci =>
      have after := read identity (ServiceId.rawUuid (.aci aci)).toString
      simp only [SessionOp.perform, PddbStore.getSubDeviceSessions, PddbStore.onBackend]
      generalize backendGetSessionBundleProtocol format (dictSession identity)
        (ServiceId.rawUuid (.aci aci)).toString store.backend = outcome at after ⊢
      obtain ⟨_ | found, next⟩ := outcome <;> exact after

/-- The call writes no key the probe looks at. -/
def KvOp.spares : KvOp → Prop
  | .put dict _ _ => dict ∉ probedDicts
  | _ => True

theorem Wiped.kv {store : Buffered ρ} (wiped : Wiped store) {op : KvOp} (spares : op.spares)
    : Wiped { store with backend := (op.perform store.backend).2 } := by
  cases op with
  | get dict key => exact Vacant.of_read wiped (BufferingBackend.get_within dict key _)
  | put dict key value =>
      refine Vacant.of_within wiped
        (@BufferingBackend.put_within (fun other => other = dict) dict rfl key value _)
        (fun other probed same => ?_)
      exact spares (same ▸ probed)
  | delete dict key => exact Vacant.delete wiped dict key
  | deleteDict dict => exact Vacant.deleteDict wiped dict
  | listKeys dict => exact Vacant.of_read wiped (BufferingBackend.listKeys_within dict _)

/-- The call puts no account state into the store it is made on: it writes no probed key, and
a flush finds nothing dirty.
-/
def StoreCall.Quiet (store : Buffered ρ) : StoreCall ρ → Prop
  | .trait (.kv op _) => op.spares
  | .flushSessions _ => store.sessionDirty = ∅
  | _ => True

theorem PddbStore.flushSessions_clean {store : Buffered ρ} (clean : store.sessionDirty = ∅)
    (format : RecordFormat ρ) (order : FlushOrder)
    : store.flushSessions format order = (.ok 0, store) := by
  simp [flushSessions, clean]

/-- Quiet calls keep the store wiped. -/
theorem Wiped.perform {store : Buffered ρ} (wiped : Wiped store) (format : RecordFormat ρ)
    {call : StoreCall ρ} (quiet : call.Quiet store)
    : Wiped (call.perform format store) := by
  cases call with
  | trait call =>
      cases call with
      | session op trait => exact wiped.session format trait
      | kv op other => exact wiped.kv quiet
  | flushSessions order =>
      simp only [StoreCall.perform, PddbStore.flushSessions_clean quiet format order]
      exact wiped
  | beginSendBatch => exact Vacant.begin wiped
  | commit order =>
      simp only [StoreCall.perform]
      split
      · exact Vacant.commit wiped order
      · exact wiped
  | abort =>
      simp only [StoreCall.perform]
      split
      · exact Vacant.abort wiped
      · exact wiped
  | clearRegistration => exact Vacant.deleteDict wiped dictState
  | clear =>
      have dropped := Vacant.deleteDicts wiped clearedDicts
      rw [← (PddbStore.clear_backend store).1] at dropped
      exact dropped
  | hasAccountState => exact Vacant.of_read wiped (listsAnyKey_within probedDicts store.backend)

/-- The call stores something new: a session in memory, or a value under a key. -/
def StoreCall.stores : StoreCall ρ → Bool
  | .trait (.session (.storeSession _ _ _) _) => true
  | .trait (.kv (.put _ _ _) _) => true
  | _ => false

/-- A call that stores nothing leaves no session dirty that was not dirty before. -/
theorem StoreCall.perform_clean {store : Buffered ρ} (clean : store.sessionDirty = ∅)
    (format : RecordFormat ρ) {call : StoreCall ρ} (stores : call.stores = false)
    : (call.perform format store).sessionDirty = ∅ := by
  cases call with
  | trait call =>
      cases call with
      | session op trait =>
          cases op with
          | storeSession identity address record => cases stores
          | loadSession order identity address =>
              simp only [StoreCall.perform, TraitCall.perform, SessionOp.perform,
                PddbStore.loadSession, PddbStore.onBackend]
              split
              · exact clean
              · generalize backendGetSessionBundleProtocol format (dictSession identity)
                  address.name store.backend = outcome
                obtain ⟨_ | _ | bundle, next⟩ := outcome
                · exact clean
                · exact clean
                · dsimp only
                  split
                  · exact clean
                  · split <;> exact clean
          | flushSessions order => cases trait
          | deleteSession order identity address =>
              simp only [StoreCall.perform, TraitCall.perform, SessionOp.perform,
                PddbStore.deleteSession_eq, PddbStore.onBackend, clean]
              rfl
          | deleteAllSessions identity aci =>
              simp only [StoreCall.perform, TraitCall.perform, SessionOp.perform,
                PddbStore.deleteAllSessions_eq, clean]
              rfl
          | getSubDeviceSessions identity aci =>
              simp only [StoreCall.perform, TraitCall.perform, SessionOp.perform,
                PddbStore.getSubDeviceSessions, PddbStore.onBackend]
              generalize backendGetSessionBundleProtocol format (dictSession identity)
                (ServiceId.rawUuid (.aci aci)).toString store.backend = outcome
              obtain ⟨_ | found, next⟩ := outcome <;> exact clean
      | kv op other => exact clean
  | flushSessions order =>
      simp only [StoreCall.perform, PddbStore.flushSessions_clean clean]
      exact clean
  | beginSendBatch => exact clean
  | commit order =>
      simp only [StoreCall.perform]
      split <;> exact clean
  | abort =>
      simp only [StoreCall.perform]
      split <;> exact clean
  | clearRegistration => exact clean
  | clear =>
      simp only [StoreCall.perform, PddbStore.clear, PddbStore.onBackend]
      generalize deleteDicts clearedDicts store.backend = outcome
      obtain ⟨_ | _, next⟩ := outcome
      · exact clean
      · rfl
  | hasAccountState => exact clean

/-- Once a wipe succeeded, the probe finds no account state until something is stored: not
after flushes, deletions, batches of any kind, or the end of a batch that was open.
-/
theorem wiped_store_has_no_account_state (format : RecordFormat ρ) (inner : InnerBackend)
    (history later : List (StoreCall ρ))
    (cleared
      : (Runs.run (StoreCall.perform format) (PddbStore.newBuffering inner) history).clear.1
        = .ok ())
    (nothing : ∀ call ∈ later, call.stores = false)
    : (Runs.run (StoreCall.perform format)
        (Runs.run (StoreCall.perform format) (PddbStore.newBuffering inner) history).clear.2
        later).hasAccountState.1 = false := by
  obtain ⟨wiped, clean⟩ := Wiped.of_clear (Drained.run format inner history) cleared
  generalize (Runs.run (StoreCall.perform format) (PddbStore.newBuffering inner)
    history).clear.2 = store at wiped clean
  induction later generalizing store with
  | nil => exact wiped.hasAccountState
  | cons call rest ih =>
      have spared := nothing call (by simp)
      have quiet : call.Quiet store := by
        cases call with
        | trait call =>
            cases call with
            | session op trait => trivial
            | kv op other => cases op <;> trivial
        | flushSessions order => exact clean
        | _ => trivial
      exact ih (fun other member => nothing other (by simp [member])) _
        (wiped.perform format quiet) (StoreCall.perform_clean clean format spared)

/-- A wipe inside an open batch with a buffered identity, a buffered session bundle and a
dirty session: after a deletion, a commit and a flush there is still no account state.
-/
theorem wiped_store_has_no_account_state_open_batch
    : let peer : ProtocolAddress := ⟨"peer", defaultDeviceId⟩
      let history : List (StoreCall UInt8) :=
        [.trait (.kv (.put dictState "registration" [1]) (by decide)), .beginSendBatch,
          .trait (.kv (.put (dictIdentity .aci) "peer" [2]) (by decide)),
          .trait (.session (.storeSession .aci peer 7) rfl), .flushSessions .insertion,
          .trait (.session (.storeSession .aci peer 8) rfl)]
      let later : List (StoreCall UInt8) :=
        [.trait (.kv (.delete (dictIdentity .aci) "peer") (by decide)), .commit .insertion,
          .flushSessions .insertion]
      let store :=
        Runs.run (StoreCall.perform .oneByte) (PddbStore.newBuffering { map := ∅ }) history
      (store.backend.buffer.lookup (dictIdentity .aci, "peer")).isSome = true
      ∧ (Runs.run (StoreCall.perform .oneByte) store.clear.2 later).hasAccountState.1
        = false := by
  intro peer history later store
  exact ⟨by decide, wiped_store_has_no_account_state .oneByte { map := ∅ } history later
    (by decide) (by decide)⟩

end XousAppSignal.Store
