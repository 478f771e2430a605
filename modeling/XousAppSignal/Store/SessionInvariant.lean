import XousAppSignal.Store.SessionStore

/-! The invariant tying the session cache, the dirty set and the stored bundles together.
Cached sessions that are not dirty are stored as cached, dirty sessions are cached, and
every stored bundle decodes. Each operation keeps it on any backend whose single-key
calls are all-or-nothing, whether or not a call fails.
-/

namespace XousAppSignal.Store

variable {β ρ : Type} {format : RecordFormat ρ}

/-- Every record of the bundle can be written and read back. -/
def SessionBundle.Readable (format : RecordFormat ρ) (bundle : SessionBundle) : Prop :=
  ∀ device bytes, bundle.lookup device = some bytes
    → Bincode.Fits bytes ∧ ∃ record, format.deserialize bytes = .ok record

theorem SessionBundle.Readable.fits {bundle : SessionBundle}
    (readable : SessionBundle.Readable format bundle) {device : UInt32} {bytes : Bytes}
    (found : bundle.lookup device = some bytes)
    : Bincode.Fits bytes :=
  (readable device bytes found).1

/-- The bundle stored for an address. -/
def storedBundle (format : RecordFormat ρ) (view : View) (slot : IdentityType × String)
    : Option SessionBundle :=
  (view (dictSession slot.1, slot.2)).bind
    (fun bytes => (deserializeSessionBundle format bytes).toOption)

/-- The record a bundle holds for a device. -/
def SessionBundle.session (format : RecordFormat ρ) (bundle : SessionBundle)
    (device : UInt32)
    : Option ρ :=
  (bundle.lookup device).bind (fun bytes => (format.deserialize bytes).toOption)

/-- The record stored under a session key. -/
def storedSession (format : RecordFormat ρ) (view : View) (key : SessionKey) : Option ρ :=
  (storedBundle format view (key.1, key.2.1)).bind
    (fun bundle => SessionBundle.session format bundle key.2.2)

/-- Every session slot that is occupied holds a readable bundle. -/
def Sound (format : RecordFormat ρ) (view : View) : Prop :=
  ∀ slot : IdentityType × String, view (dictSession slot.1, slot.2) ≠ none
    → ∃ bundle, storedBundle format view slot = some bundle
        ∧ SessionBundle.Readable format bundle

theorem Sound.readable {view : View} (sound : Sound format view)
    {slot : IdentityType × String} {bundle : SessionBundle}
    (stored : storedBundle format view slot = some bundle)
    : SessionBundle.Readable format bundle := by
  have occupied : view (dictSession slot.1, slot.2) ≠ none := by
    intro empty
    simp [storedBundle, empty] at stored
  obtain ⟨other, storedOther, readable⟩ := sound slot occupied
  rw [stored] at storedOther
  exact Option.some.inj storedOther ▸ readable

/-- Distinct addresses have distinct slots. -/
theorem sessionSlot_ne {left right : IdentityType × String} (different : left ≠ right)
    : (dictSession left.1, left.2) ≠ (dictSession right.1, right.2) := by
  intro same
  obtain ⟨dicts, names⟩ := Prod.mk.inj same
  exact different (Prod.ext (dictSession_injective dicts) names)

/-- Writing a bundle replaces the sessions of its address by the bundle's. -/
theorem storedBundle_put (order : HashOrder) (view : View) (slot : IdentityType × String)
    {bundle : SessionBundle}
    (fits : ∀ {device bytes}, bundle.lookup device = some bytes → Bincode.Fits bytes)
    : let after := Function.update view (dictSession slot.1, slot.2)
        (some (serializeSessionBundle order bundle))
      (∃ decoded, storedBundle format after slot = some decoded
        ∧ ∀ device, decoded.lookup device = bundle.lookup device)
      ∧ ∀ other, other ≠ slot → storedBundle format after other
          = storedBundle format view other := by
  intro after
  constructor
  · obtain ⟨decoded, read, same⟩ := deserialize_serializeSessionBundle format order
      (fun _ _ found => fits found)
    exact ⟨decoded, by simp [storedBundle, after, read, Except.toOption], same⟩
  · intro other different
    simp only [storedBundle, after, Function.update_of_ne (sessionSlot_ne different)]

/-- The sessions stored after a bundle is written. -/
theorem storedSession_put (order : HashOrder) (view : View) (slot : IdentityType × String)
    {bundle : SessionBundle}
    (fits : ∀ {device bytes}, bundle.lookup device = some bytes → Bincode.Fits bytes)
    (key : SessionKey)
    : storedSession format
        (Function.update view (dictSession slot.1, slot.2)
          (some (serializeSessionBundle order bundle))) key
      = if (key.1, key.2.1) = slot then SessionBundle.session format bundle key.2.2
        else storedSession format view key := by
  obtain ⟨⟨decoded, here, same⟩, elsewhere⟩ :=
    @storedBundle_put _ format order view slot _ fits
  by_cases addressed : (key.1, key.2.1) = slot
  · rw [if_pos addressed, storedSession, addressed, here, Option.bind_some,
      SessionBundle.session, same, SessionBundle.session]
  · rw [if_neg addressed, storedSession, elsewhere _ addressed, storedSession]

theorem Sound.put {view : View} (sound : Sound format view) (order : HashOrder)
    (slot : IdentityType × String) {bundle : SessionBundle}
    (readable : SessionBundle.Readable format bundle)
    : Sound format (Function.update view (dictSession slot.1, slot.2)
        (some (serializeSessionBundle order bundle))) := by
  obtain ⟨⟨decoded, here, same⟩, elsewhere⟩ :=
    @storedBundle_put _ format order view slot _ readable.fits
  intro other occupied
  by_cases addressed : other = slot
  · refine ⟨decoded, addressed ▸ here, fun device bytes found => ?_⟩
    exact readable device bytes (same device ▸ found)
  · rw [Function.update_of_ne (sessionSlot_ne addressed)] at occupied
    rw [elsewhere other addressed]
    exact sound other occupied

/-- The bundles stored after a session slot is deleted. -/
theorem storedBundle_delete (view : View) (slot other : IdentityType × String)
    : storedBundle format (Function.update view (dictSession slot.1, slot.2) none) other
      = if other = slot then none else storedBundle format view other := by
  by_cases addressed : other = slot
  · simp [storedBundle, addressed]
  · simp only [storedBundle, Function.update_of_ne (sessionSlot_ne addressed),
      if_neg addressed]

theorem storedSession_delete (view : View) (slot : IdentityType × String)
    (key : SessionKey)
    : storedSession format (Function.update view (dictSession slot.1, slot.2) none) key
      = if (key.1, key.2.1) = slot then none else storedSession format view key := by
  rw [storedSession, storedBundle_delete]
  by_cases addressed : (key.1, key.2.1) = slot
  · simp [addressed]
  · rw [if_neg addressed, if_neg addressed, storedSession]

theorem Sound.delete {view : View} (sound : Sound format view)
    (slot : IdentityType × String)
    : Sound format (Function.update view (dictSession slot.1, slot.2) none) := by
  intro other occupied
  have different : other ≠ slot := by
    rintro rfl
    exact occupied (Function.update_self _ _ _)
  rw [Function.update_of_ne (sessionSlot_ne different)] at occupied
  rw [storedBundle_delete, if_neg different]
  exact sound other occupied

namespace PddbStore

/-- The session a store holds under a key: the cached record, else the stored one. -/
def current (format : RecordFormat ρ) (view : View) (self : PddbStore β ρ)
    (key : SessionKey)
    : Option ρ :=
  (self.sessionCache.lookup key).or (storedSession format view key)

theorem storeSession_current (format : RecordFormat ρ) (view : View) (self : PddbStore β ρ)
    (identity : IdentityType) (address : ProtocolAddress) (record : ρ) (key : SessionKey)
    : current format view (storeSession identity address record self) key
      = if key = sessionKey identity address then some record
        else current format view self key := by
  simp only [current, storeSession, FiniteMap.lookup_insert']
  split <;> rfl

end PddbStore

variable [KvBackend β] (kv : KvAtomic β)

/-- Reading the bundle of an address yields what the view stores there. -/
theorem backendGetSessionBundle_settles {backend : β} (ready : kv.Ready backend)
    (sound : Sound format (kv.view backend)) (slot : IdentityType × String)
    : AllOrNothing kv.Ready kv.view kv.MayFail (kv.view backend)
        (backendGetSessionBundle format (dictSession slot.1) slot.2 backend)
        (storedBundle format (kv.view backend) slot) (kv.view backend) := by
  have call := kv.get ready (dictSession slot.1) slot.2
  cases outcome : KvBackend.get (dictSession slot.1) slot.2 backend with
  | mk result next =>
      rw [outcome] at call
      simp only [backendGetSessionBundle, outcome]
      cases call with
      | failed e may failure kept same =>
          simp only at failure
          exact .failed e may (by simp only [failure]) (by simpa only [failure] using kept)
            (by simpa only [failure] using same)
      | done returns =>
          obtain ⟨value, kept, same⟩ := returns
          simp only at value
          cases stored : kv.view backend (dictSession slot.1, slot.2) with
          | none =>
              simp only [value, stored, storedBundle, Option.bind_none]
              exact .done ⟨rfl, kept, same⟩
          | some bytes =>
              obtain ⟨bundle, decodes, -⟩ := sound slot (by simp [stored])
              simp only [value, stored, decodes]
              refine .done ⟨?_, kept, same⟩
              simp only [storedBundle, stored, Option.bind_some] at decodes
              cases read : deserializeSessionBundle format bytes with
              | error e => simp [read, Except.toOption] at decodes
              | ok other =>
                  simp only [read, Except.toOption, Option.some.injEq] at decodes
                  simp [Except.map, decodes]

/-- The protocol-flavoured read differs in its error only. -/
theorem backendGetSessionBundleProtocol_settles {backend : β} (ready : kv.Ready backend)
    (sound : Sound format (kv.view backend)) (slot : IdentityType × String)
    : AllOrNothing kv.Ready kv.view kv.MayFail (kv.view backend)
        (backendGetSessionBundleProtocol format (dictSession slot.1) slot.2 backend)
        (storedBundle format (kv.view backend) slot) (kv.view backend) := by
  have plain := backendGetSessionBundle_settles kv ready sound slot
  simp only [backendGetSessionBundle, backendGetSessionBundleProtocol] at plain ⊢
  generalize KvBackend.get (dictSession slot.1) slot.2 backend = outcome at plain ⊢
  rcases outcome with ⟨_ | _ | bytes, next⟩
  · exact plain.rename rfl (by simp) (by simp)
  · exact plain.rename rfl (by simp) (by simp)
  · cases read : deserializeSessionBundle format bytes with
    | error e =>
        simp only [read, Except.map] at plain ⊢
        exact plain.rename rfl (by simp) (by simp)
    | ok bundle =>
        simp only [read, Except.map] at plain ⊢
        exact plain.rename rfl (by simp) (by simp)

/-- Writing a bundle back. -/
theorem backendPutSessionBundleProtocol_settles {backend : β} (ready : kv.Ready backend)
    (order : HashOrder) (dict key : String) (bundle : SessionBundle)
    : AllOrNothing kv.Ready kv.view kv.MayFail (kv.view backend)
        (backendPutSessionBundleProtocol order dict key bundle backend) ()
        (Function.update (kv.view backend) (dict, key)
          (some (serializeSessionBundle order bundle))) := by
  refine (kv.put ready dict key (serializeSessionBundle order bundle)).rename ?_ ?_ ?_ <;>
    simp only [backendPutSessionBundleProtocol] <;>
    rcases KvBackend.put dict key (serializeSessionBundle order bundle) backend
      with ⟨_ | _, next⟩ <;>
    simp

theorem backendDeleteProtocol_settles {backend : β} (ready : kv.Ready backend)
    (dict key : String)
    : AllOrNothing kv.Ready kv.view kv.MayFail (kv.view backend)
        (backendDeleteProtocol dict key backend) ()
        (Function.update (kv.view backend) (dict, key) none) := by
  refine (kv.delete ready dict key).rename ?_ ?_ ?_ <;>
    simp only [backendDeleteProtocol] <;>
    rcases KvBackend.delete dict key backend with ⟨_ | _, next⟩ <;>
    simp

namespace PddbStore

/-- Cache, dirty set and bundles fit together. -/
structure SessionInv (format : RecordFormat ρ) (store : PddbStore β ρ) : Prop where
  ready : kv.Ready store.backend
  sound : Sound format (kv.view store.backend)
  cached : ∀ key ∈ store.sessionDirty, key ∈ store.sessionCache
  clean
    : ∀ key record,
        store.sessionCache.lookup key = some record
        → key ∉ store.sessionDirty
        → storedSession format (kv.view store.backend) key = some record

/-- A store just opened on readable bundles satisfies the invariant. -/
theorem sessionInv_new {backend : β} (ready : kv.Ready backend)
    (sound : Sound format (kv.view backend))
    : SessionInv kv format (new backend) :=
  ⟨ready, sound, fun key member => absurd member (AList.notMem_empty key),
    fun _ _ found => by simp [new] at found⟩

/-- The invariant speaks about the backend through its view only. -/
theorem SessionInv.rebase {kv : KvAtomic β} {self : PddbStore β ρ}
    (inv : SessionInv kv format self) {backend : β} (ready : kv.Ready backend)
    (same : kv.view backend = kv.view self.backend)
    : SessionInv kv format { self with backend } :=
  ⟨ready, by rw [same]; exact inv.sound, inv.cached, by rw [same]; exact inv.clean⟩

/-- The invariant survives a change of the stored sessions that leaves the cached ones
alone.
-/
theorem SessionInv.restored {kv : KvAtomic β} {self : PddbStore β ρ}
    (inv : SessionInv kv format self) {backend : β} (ready : kv.Ready backend)
    (sound : Sound format (kv.view backend))
    (kept
      : ∀ key ∈ self.sessionCache, storedSession format (kv.view backend) key
          = storedSession format (kv.view self.backend) key)
    : SessionInv kv format { self with backend } := by
  refine ⟨ready, sound, inv.cached, fun key record found fresh => ?_⟩
  rw [kept key (FiniteMap.mem_iff_lookup.mpr ⟨record, found⟩)]
  exact inv.clean key record found fresh

/-- Storing a session changes the session of its key only. -/
theorem storeSession_inv {self : PddbStore β ρ} (inv : SessionInv kv format self)
    (identity : IdentityType) (address : ProtocolAddress) (record : ρ)
    : SessionInv kv format (storeSession identity address record self) where
  ready := inv.ready
  sound := inv.sound
  cached := by
    intro key member
    simp only [storeSession, AList.mem_insert] at member ⊢
    exact member.imp_right (inv.cached key)
  clean := by
    intro key other found fresh
    simp only [storeSession, AList.mem_insert, not_or] at fresh
    simp only [storeSession, FiniteMap.lookup_insert', if_neg fresh.1] at found
    exact inv.clean key other found fresh.2

omit [KvBackend β] in
/-- Prefilling from readable records succeeds; each entry it adds is one of the records,
and no entry that was there changes. Witness: induction on the records.
-/
theorem prefill_spec {identity : IdentityType} (name : String) {stored : UInt32 → Option ρ}
    {entries : List (UInt32 × Bytes)} (cache : FiniteMap SessionKey ρ)
    (records
      : ∀ entry ∈ entries, ∃ record,
          format.deserialize entry.2 = .ok record ∧ stored entry.1 = some record)
    : (prefill format identity name entries cache).1 = .ok ()
      ∧ ∀ key,
          (prefill format identity name entries cache).2.lookup key = cache.lookup key
          ∨ cache.lookup key = none
            ∧ (key.1, key.2.1) = (identity, name)
            ∧ (stored key.2.2).isSome
            ∧ (prefill format identity name entries cache).2.lookup key
              = stored key.2.2 := by
  induction entries generalizing cache with
  | nil => exact ⟨rfl, fun _ => .inl rfl⟩
  | cons entry rest ih =>
      obtain ⟨device, ser⟩ := entry
      obtain ⟨record, read, storedHere⟩ := records (device, ser) (by simp)
      have later : ∀ entry ∈ rest, ∃ record,
          format.deserialize entry.2 = .ok record ∧ stored entry.1 = some record :=
        fun other member => records other (by simp [member])
      cases found : (cache.lookup (identity, name, device)).isSome with
      | true => simpa only [prefill, found, if_true] using ih cache later
      | false =>
          simp only [prefill, found, Bool.false_eq_true, if_false, read]
          obtain ⟨filled, changes⟩ :=
            ih (cache.insert (identity, name, device) record) later
          refine ⟨filled, fun key => ?_⟩
          have change := changes key
          rw [FiniteMap.lookup_insert'] at change
          by_cases here : key = (identity, name, device)
          · subst here
            have empty : cache.lookup (identity, name, device) = none := by
              simpa using found
            simp only [if_true] at change
            rcases change with same | ⟨absurd', -⟩
            · exact .inr ⟨empty, rfl, by simp [storedHere], by simp [same, storedHere]⟩
            · cases absurd'
          · simpa only [if_neg here] using change

/-- Prefilling from the stored bundle of an address keeps every session. -/
theorem SessionInv.prefilled {kv : KvAtomic β} {self : PddbStore β ρ}
    (inv : SessionInv kv format self) {identity : IdentityType} {name : String}
    {bundle : SessionBundle}
    (stored : storedBundle format (kv.view self.backend) (identity, name) = some bundle)
    (order : HashOrder)
    : let filled := prefill format identity name (order.arrange (FiniteMap.pairs bundle))
        self.sessionCache
      filled.1 = .ok ()
      ∧ SessionInv kv format { self with sessionCache := filled.2 }
      ∧ ∀ key, current format (kv.view self.backend)
          { self with sessionCache := filled.2 } key
        = current format (kv.view self.backend) self key := by
  intro filled
  have session (key : SessionKey) (here : (key.1, key.2.1) = (identity, name))
      : storedSession format (kv.view self.backend) key
        = SessionBundle.session format bundle key.2.2 := by
    rw [storedSession, here, stored, Option.bind_some]
  have records : ∀ entry ∈ order.arrange (FiniteMap.pairs bundle), ∃ record,
      format.deserialize entry.2 = .ok record
      ∧ SessionBundle.session format bundle entry.1 = some record := by
    intro entry member
    rw [order.mem_arrange, FiniteMap.mem_pairs] at member
    obtain ⟨-, record, read⟩ := inv.sound.readable stored entry.1 entry.2 member
    exact ⟨record, read, by simp [SessionBundle.session, member, read, Except.toOption]⟩
  obtain ⟨complete, changes⟩ := prefill_spec name self.sessionCache records
  refine ⟨complete, ⟨inv.ready, inv.sound, ?_, ?_⟩, ?_⟩
  · intro key dirty
    obtain ⟨record, found⟩ := FiniteMap.mem_iff_lookup.mp (inv.cached key dirty)
    rcases changes key with same | ⟨empty, -⟩
    · exact FiniteMap.mem_iff_lookup.mpr ⟨record, same.trans found⟩
    · rw [found] at empty
      cases empty
  · intro key record found fresh
    rcases changes key with same | ⟨-, here, -, added⟩
    · exact inv.clean key record (same.symm.trans found) fresh
    · rw [session key here, ← added]
      exact found
  · intro key
    rcases changes key with same | ⟨empty, here, some', added⟩
    · simp only [current, filled, same]
    · obtain ⟨record, stored⟩ := Option.isSome_iff_exists.mp some'
      simp [current, filled, added, empty, stored, session key here]

/-- Loading answers with the current session and changes none; it may fail only where a
read may fail, and even then leaves the invariant in place.
-/
theorem loadSession_spec {self : PddbStore β ρ} (inv : SessionInv kv format self)
    (order : HashOrder) (identity : IdentityType) (address : ProtocolAddress)
    : let out := loadSession format order identity address self
      SessionInv kv format out.2
      ∧ kv.view out.2.backend = kv.view self.backend
      ∧ out.2.sessionDirty = self.sessionDirty
      ∧ (∀ key, current format (kv.view self.backend) out.2 key
          = current format (kv.view self.backend) self key)
      ∧ ((∃ e, out.1 = .error e ∧ kv.MayFail)
        ∨ out.1 = .ok (current format (kv.view self.backend) self
            (sessionKey identity address))) := by
  intro out
  cases hit : self.sessionCache.lookup (sessionKey identity address) with
  | some record =>
      have answer : out = (.ok (some record), self) := by simp only [out, loadSession, hit]
      rw [answer]
      exact ⟨inv, rfl, rfl, fun _ => rfl, .inr (by simp [current, hit])⟩
  | none =>
      cases backendGetSessionBundleProtocol_settles kv inv.ready inv.sound
        (identity, address.name) with
      | failed e may result ready same =>
          simp only at result ready same
          have answer : out.1 = .error e := by
            simp only [out, loadSession, hit, onBackend, result]
          refine ⟨?_, ?_, ?_, ?_, .inl ⟨e, answer, may⟩⟩ <;>
            simp only [out, loadSession, hit, onBackend, result]
          · exact inv.rebase ready same
          · exact same
          · exact fun _ => rfl
      | done returns =>
          obtain ⟨result, ready, same⟩ := returns
          simp only at result ready same
          have moved := inv.rebase ready same
          have missed : current format (kv.view self.backend) self
                (sessionKey identity address)
              = storedSession format (kv.view self.backend)
                (sessionKey identity address) := by
            simp only [current, hit, Option.none_or]
          cases found : storedBundle format (kv.view self.backend) (identity, address.name) with
          | none =>
              rw [found] at result
              have nothing : storedSession format (kv.view self.backend)
                  (sessionKey identity address) = none := by
                simp [storedSession, sessionKey, found]
              refine ⟨?_, ?_, ?_, ?_, .inr ?_⟩ <;>
                simp only [out, loadSession, hit, onBackend, result]
              · exact moved
              · exact same
              · exact fun _ => rfl
              · rw [missed, nothing]
          | some bundle =>
              rw [found] at result
              obtain ⟨complete, filledInv, filledCurrent⟩ := moved.prefilled
                (by simpa only [same] using found) order
              simp only [same] at complete filledInv filledCurrent
              have session : storedSession format (kv.view self.backend)
                    (sessionKey identity address)
                  = SessionBundle.session format bundle address.deviceId.id := by
                simp only [storedSession, sessionKey, found, Option.bind_some]
              have answer : out.1
                  = .ok (SessionBundle.session format bundle address.deviceId.id) := by
                simp only [out, loadSession, hit, onBackend, result, complete]
                simp only [sessionKey, SessionBundle.session]
                cases stored : bundle.lookup address.deviceId.id with
                | none => rfl
                | some ser =>
                    obtain ⟨-, record, read⟩ :=
                      inv.sound.readable found _ ser stored
                    simp [read, Except.map, Except.toOption]
              have left : out.2 = { self with
                  backend := (backendGetSessionBundleProtocol format (dictSession identity)
                    address.name self.backend).2
                  sessionCache := (prefill format identity address.name
                    (order.arrange (FiniteMap.pairs bundle)) self.sessionCache).2 } := by
                simp only [out, loadSession, hit, onBackend, result, complete]
                split <;> rfl
              rw [left]
              exact ⟨filledInv, same, rfl, filledCurrent, .inr (by rw [answer, missed, session])⟩

end PddbStore

end XousAppSignal.Store
