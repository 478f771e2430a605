import XousAppSignal.Store.StoreRuns

/-! What a successful `clear` leaves readable. It empties the dictionaries of the state, of
both protocol stores and of most contents, but not those of sticker packs and messages.
-/

namespace XousAppSignal.Store

open StoreOp (Buffered)
open BufferingBackend (Within Vacant)

variable {ρ : Type} {presage : Presage}

/-- A new store over empty storage; the calls of its backend fail as the plan says. -/
def fresh (plan : FaultPlan) : Buffered ρ := .newBuffering { map := ∅, plan }

/-- The store, with the backend failing from now on as the plan says. -/
def withPlan (plan : FaultPlan) (store : Buffered ρ) : Buffered ρ :=
  { store with
    backend := { store.backend with inner := { store.backend.inner with plan } } }

/-- Every read returns what it returns on a new empty store, over backends that fail alike. -/
def ReadsAsFresh (presage : Presage) (format : RecordFormat ρ) (store : Buffered ρ) : Prop :=
  ∀ (plan : FaultPlan) (read : StoreRead presage),
    (read.perform format (withPlan plan store)).1 = (read.perform format (fresh plan)).1

/-- Two backends without a batch that fail alike and hold nothing in the named dictionaries. -/
structure Blank (mine : String → Prop) (left right : BufferingBackend InnerBackend)
    : Prop where
  closed : left.batching = false ∧ right.batching = false
  plan : left.inner.plan = right.inner.plan
  left : ∀ slot : String × String, mine slot.1 → left.inner.map.lookup slot = none
  right : ∀ slot : String × String, mine slot.1 → right.inner.map.lookup slot = none

theorem Blank.readsAlike (mine : String → Prop) : ReadsAlike mine (Blank mine) where
  get := by
    rintro dict here key ⟨inner, batching, buffer⟩ ⟨inner', batching', buffer'⟩
      ⟨⟨closed, closed'⟩, plan, left, right⟩
    dsimp only at closed closed' plan left right
    subst closed closed'
    simp only [KvBackend.get, BufferingBackend.get, BufferingBackend.isBatching,
      BufferingBackend.forward, InnerBackend.get, plan, left (dict, key) here,
      right (dict, key) here]
    cases inner'.plan.get.head?.join <;> exact ⟨rfl, ⟨rfl, rfl⟩, rfl, left, right⟩
  listKeys := by
    rintro dict here ⟨inner, batching, buffer⟩ ⟨inner', batching', buffer'⟩
      ⟨⟨closed, closed'⟩, plan, left, right⟩
    dsimp only at closed closed' plan left right
    subst closed closed'
    simp only [KvBackend.listKeys, BufferingBackend.listKeys, BufferingBackend.isBatching,
      BufferingBackend.forward, InnerBackend.listKeys, plan, Vacant.listed_nil left here,
      Vacant.listed_nil right here]
    cases inner'.plan.listKeys.head?.join <;> exact ⟨rfl, ⟨rfl, rfl⟩, rfl, left, right⟩

/-- A store that holds nothing in its dictionaries nor in memory reads as a new one. -/
theorem readsAsFresh_of_vacant {format : RecordFormat ρ} {store : Buffered ρ}
    (closed : store.backend.batching = false)
    (vacant : ∀ slot : String × String, ReadDict presage slot.1
      → store.backend.inner.map.lookup slot = none)
    (cache : store.sessionCache = ∅) (dirty : store.sessionDirty = ∅)
    : ReadsAsFresh presage format store := by
  intro plan read
  have blank : Blank (ReadDict presage) (withPlan plan store).backend
      (@fresh ρ plan).backend :=
    ⟨⟨closed, rfl⟩, rfl, vacant, fun _ _ => rfl⟩
  exact (read.perform_alike (Blank.readsAlike _) format ⟨blank, cache, dirty⟩).1

/-- Without a batch and without failures, only an absent value reads as none. -/
theorem backendGetJson_ne_none {τ : Type} (codec : JsonCodec τ) {store : Buffered ρ}
    (closed : store.backend.batching = false) {dict key : String} {bytes : Bytes}
    (stored : store.backend.inner.map.lookup (dict, key) = some bytes)
    : (backendGetJson codec dict key (withPlan {} store).backend).1 ≠ .ok none := by
  have found : (KvBackend.get dict key (withPlan {} store).backend).1 = .ok (some bytes) := by
    simp [KvBackend.get, BufferingBackend.get, BufferingBackend.isBatching, withPlan, closed,
      BufferingBackend.forward, InnerBackend.get, stored]
  simp only [backendGetJson, Attempt.andThen]
  generalize KvBackend.get dict key (withPlan {} store).backend = outcome at found ⊢
  obtain ⟨result, next⟩ := outcome
  obtain rfl : result = .ok (some bytes) := found
  simp only [Attempt.lift]
  cases codec.fromSlice bytes <;> simp [Except.map, Except.mapError]

/-- A message that is stored reads as some content or as an error. -/
theorem message_ne_none {store : Buffered ρ} (closed : store.backend.batching = false)
    {thread : Thread} {timestamp : UInt64} {bytes : Bytes}
    (stored : store.backend.inner.map.lookup
      (Contents.threadDictName presage thread, Contents.messageKey timestamp) = some bytes)
    : (Contents.message presage thread timestamp (withPlan {} store).backend).1
      ≠ .ok none := by
  have present := backendGetJson_ne_none presage.storedMessage closed stored
  simp only [Contents.message, Attempt.andThen]
  generalize backendGetJson presage.storedMessage (Contents.threadDictName presage thread)
    (Contents.messageKey timestamp) (withPlan {} store).backend = outcome at present ⊢
  obtain ⟨_ | _ | envelope, next⟩ := outcome
  · simp
  · exact absurd rfl present
  · simp only [Attempt.lift]
    cases Contents.intoContent presage envelope <;> simp [Except.map]

theorem deleteDicts_within {mine : String → Prop} {dicts : List String}
    (own : ∀ dict ∈ dicts, mine dict) (self : BufferingBackend InnerBackend)
    : Within mine self (deleteDicts dicts self).2 := by
  induction dicts generalizing self with
  | nil => exact .refl mine self
  | cons dict rest ih =>
      have dropped := BufferingBackend.deleteDict_within (own dict (by simp)) self
      have later := ih (fun other member => own other (by simp [member]))
      unfold deleteDicts
      generalize KvBackend.deleteDict dict self = outcome at dropped ⊢
      obtain ⟨_ | _, next⟩ := outcome
      · exact dropped
      · exact dropped.trans (later next)

/-- What `clear` does to a store without a batch. -/
theorem clear_effect {store : Buffered ρ} (drained : Drained store)
    (closed : store.backend.batching = false) (cleared : store.clear.1 = .ok ())
    : store.clear.2.backend.batching = false
      ∧ store.clear.2.sessionCache = ∅
      ∧ store.clear.2.sessionDirty = ∅
      ∧ ∀ slot : String × String,
          store.clear.2.backend.inner.map.lookup slot
          = if slot.1 ∈ clearedDicts then none
            else store.backend.inner.map.lookup slot := by
  obtain ⟨backend, memory⟩ := PddbStore.clear_backend store
  obtain ⟨dropped, cache, dirty⟩ := memory cleared
  have within := @deleteDicts_within (fun dict => dict ∈ clearedDicts) clearedDicts
    (fun _ member => member) store.backend
  have vacant := Vacant.of_deleteDicts drained dropped
  rw [← backend] at within vacant
  refine ⟨within.flag.trans closed, cache, dirty, fun slot => ?_⟩
  split
  · next here => exact vacant.inner slot here
  · next other => exact within.inner slot other

/-- For every run of the store's operations and every failure of its backend: a successful
`clear` outside a batch makes every read return what it returns on a new empty store exactly
when no sticker pack and no message was stored.
-/
theorem clear_yields_fresh_store_iff (presage : Presage) (format : RecordFormat ρ)
    (plan : FaultPlan) (history : List (StoreAction presage ρ))
    : let store := Runs.run (StoreAction.perform format) (fresh plan) history
      store.backend.batching = false → store.clear.1 = .ok ()
      → (ReadsAsFresh presage format store.clear.2
        ↔ (∀ id, store.backend.inner.map.lookup
              (Contents.dictStickerPacks, Contents.stickerPackKey id) = none)
          ∧ ∀ thread timestamp, store.backend.inner.map.lookup
              (Contents.threadDictName presage thread, Contents.messageKey timestamp)
              = none) := by
  intro store closed cleared
  have orderly : Orderly (Recorded presage) store.backend :=
    StoreAction.run_recorded format plan history
  obtain ⟨closed', cache, dirty, effect⟩ := clear_effect orderly.drained closed cleared
  have kept {dict : String} (other : dict ∉ clearedDicts) (key : String)
      : store.clear.2.backend.inner.map.lookup (dict, key)
        = store.backend.inner.map.lookup (dict, key) :=
    (effect (dict, key)).trans (if_neg other)
  have notCleared := threadDictName_not_cleared presage
  constructor
  · intro same
    refine ⟨fun id => ?_, fun thread timestamp => ?_⟩
    · by_contra present
      obtain ⟨bytes, stored⟩ := Option.ne_none_iff_exists'.mp present
      rw [← kept stickerPacks_not_cleared] at stored
      exact backendGetJson_ne_none presage.stickerPack closed' stored
        (same {} (.stickerPack id))
    · by_contra present
      obtain ⟨bytes, stored⟩ := Option.ne_none_iff_exists'.mp present
      rw [← kept (notCleared thread)] at stored
      exact message_ne_none closed' stored (same {} (.message thread timestamp))
  · rintro ⟨packs, messages⟩
    refine readsAsFresh_of_vacant closed' (fun slot here => ?_) cache dirty
    rw [effect]
    split
    · rfl
    · next other =>
        by_contra present
        have filed : Filed presage slot := by
          by_contra astray
          refine present (orderly.absent.inner slot fun recorded => astray ?_)
          exact Recorded.filed presage recorded
        rcases here with wiped | packDict | ⟨thread, threadDict⟩
        · exact other wiped
        · obtain ⟨id, key⟩ := filed.stickerPack packDict
          exact present (by rw [← Prod.eta slot, packDict, key]; exact packs id)
        · obtain ⟨timestamp, key⟩ := filed.message thread threadDict
          exact present (by rw [← Prod.eta slot, threadDict, key]; exact messages thread timestamp)

/-- A sticker pack is still there after `clear`. -/
theorem sticker_pack_survives_clear
    : let history : List (StoreAction .plain UInt8) := [.write (.addStickerPack [1, 2])]
      let store := Runs.run (StoreAction.perform .oneByte) (fresh {}) history
      store.backend.batching = false
      ∧ store.clear.1 = .ok ()
      ∧ (Contents.stickerPacks .plain store.clear.2.backend).1 = .ok [.ok [1, 2]]
      ∧ ¬ReadsAsFresh .plain .oneByte store.clear.2 := by
  refine ⟨rfl, rfl, rfl, fun same => ?_⟩
  have read := same {} .stickerPacks
  cases read

/-- Everything else, and a pack that was removed before, does not survive. -/
theorem clear_yields_fresh_store_contact
    : let history : List (StoreAction .plain UInt8) :=
        [.write (.addStickerPack [1, 2]), .write (.saveContact [3]),
          .write (.storeSession .aci ⟨"alice", defaultDeviceId⟩ 7),
          .write (.removeStickerPack [1, 2])]
      let store := Runs.run (StoreAction.perform .oneByte) (fresh {}) history
      ReadsAsFresh .plain .oneByte store.clear.2 := by
  refine (clear_yields_fresh_store_iff .plain .oneByte {} _ rfl rfl).mpr ⟨?_, ?_⟩
  · intro id
    rfl
  · intro thread timestamp
    rfl

end XousAppSignal.Store
