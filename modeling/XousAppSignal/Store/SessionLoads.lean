import Mathlib.Data.List.Rotate
import XousAppSignal.Store.SessionInvariant

/-! What a load answers when bundles may hold records that do not deserialize. The bundle's
other devices are copied into the cache first, and the first of them that fails is the
answer, so a corrupt sibling can stand in the way of a readable record.
-/

namespace XousAppSignal.Store

variable {β ρ : Type} {format : RecordFormat ρ}

/-- The bundle of a slot; a free slot counts as an empty bundle. -/
def bundleOf (format : RecordFormat ρ) (stored : Option Bytes) : Except Error SessionBundle :=
  match stored with
  | none => .ok ∅
  | some bytes => deserializeSessionBundle format bytes

/-- The record of one device, from its own bytes in the bundle. -/
def SessionBundle.ownRecord (format : RecordFormat ρ) (bundle : SessionBundle) (device : UInt32)
    : Except SignalProtocolError (Option ρ) :=
  match bundle.lookup device with
  | none => .ok none
  | some ser => (format.deserialize ser).map some

namespace PddbStore

-----------------------------------------------------------------------------------------
-- Filling the cache
-----------------------------------------------------------------------------------------

/-- The error with which an entry of a bundle stops the filling of the cache. -/
def stops (format : RecordFormat ρ) (identity : IdentityType) (name : String)
    (cache : FiniteMap SessionKey ρ) (entry : UInt32 × Bytes)
    : Option SignalProtocolError :=
  if (cache.lookup (identity, name, entry.1)).isSome then none
  else
    match format.deserialize entry.2 with
    | .error e => some e
    | .ok _ => none

/-- An entry that stops the filling is uncached and does not deserialize. -/
theorem stops_eq_some {identity : IdentityType} {name : String} {cache : FiniteMap SessionKey ρ}
    {entry : UInt32 × Bytes} {e : SignalProtocolError}
    : stops format identity name cache entry = some e
      ↔ cache.lookup (identity, name, entry.1) = none ∧ format.deserialize entry.2 = .error e := by
  unfold stops
  split
  · next cached => simp [Option.isSome_iff_ne_none.mp cached]
  · next missing =>
      rw [Bool.not_eq_true, Option.isSome_eq_false_iff, Option.isNone_iff_eq_none] at missing
      split <;> simp_all

theorem findSome?_congr {α γ : Type} {f g : α → Option γ} {items : List α}
    (same : ∀ item ∈ items, f item = g item)
    : items.findSome? f = items.findSome? g := by
  induction items with
  | nil => rfl
  | cons item rest ih =>
      rw [List.findSome?_cons, List.findSome?_cons, same item List.mem_cons_self,
        ih fun other listed => same other (List.mem_cons_of_mem item listed)]

/-- The filling fails with the first entry that stops it, by induction on the entries. -/
theorem prefill_result {identity : IdentityType} {name : String}
    {entries : List (UInt32 × Bytes)} (unique : (entries.map Prod.fst).Nodup)
    (cache : FiniteMap SessionKey ρ)
    : (prefill format identity name entries cache).1
      = match entries.findSome? (stops format identity name cache) with
        | none => .ok ()
        | some e => .error e := by
  induction entries generalizing cache with
  | nil => rfl
  | cons entry rest ih =>
      obtain ⟨device, ser⟩ := entry
      simp only [List.map_cons, List.nodup_cons] at unique
      cases found : (cache.lookup (identity, name, device)).isSome with
      | true => simp [prefill, stops, found, ih unique.2]
      | false =>
          cases read : format.deserialize ser with
          | error e => simp [prefill, stops, found, read]
          | ok record =>
              -- the record just cached belongs to none of the remaining devices
              have later : rest.findSome? (stops format identity name
                    (cache.insert (identity, name, device) record))
                  = rest.findSome? (stops format identity name cache) := by
                refine findSome?_congr fun other listed => ?_
                have apart : other.1 ≠ device :=
                  fun same => unique.1 (List.mem_map.mpr ⟨other, listed, same⟩)
                simp [stops, apart]
              simp [prefill, stops, found, read, ih unique.2, ← later]

/-- The filling only adds records of the entries, by induction on them. -/
theorem prefill_added (format : RecordFormat ρ) (identity : IdentityType) (name : String)
    (entries : List (UInt32 × Bytes)) (cache : FiniteMap SessionKey ρ) (key : SessionKey)
    : (prefill format identity name entries cache).2.lookup key = cache.lookup key
      ∨ cache.lookup key = none
        ∧ ∃ device ser record, key = (identity, name, device) ∧ (device, ser) ∈ entries
          ∧ format.deserialize ser = .ok record
          ∧ (prefill format identity name entries cache).2.lookup key = some record := by
  induction entries generalizing cache with
  | nil => exact .inl rfl
  | cons entry rest ih =>
      obtain ⟨device, ser⟩ := entry
      cases found : (cache.lookup (identity, name, device)).isSome with
      | true =>
          simp only [prefill, found, if_true]
          refine (ih cache).imp_right ?_
          rintro ⟨missing, device, ser, record, same, listed, added⟩
          exact ⟨missing, device, ser, record, same, List.mem_cons_of_mem _ listed, added⟩
      | false =>
          simp only [prefill, found, Bool.false_eq_true, if_false]
          cases read : format.deserialize ser with
          | error e => exact .inl rfl
          | ok record =>
              have change := ih (cache.insert (identity, name, device) record)
              rw [FiniteMap.lookup_insert'] at change
              by_cases here : key = (identity, name, device)
              · subst here
                rw [if_pos rfl] at change
                rcases change with same | ⟨missing, -⟩
                · exact .inr ⟨by simpa using found, device, ser, record, rfl,
                    List.mem_cons_self, read, same⟩
                · cases missing
              · rw [if_neg here] at change
                refine change.imp_right ?_
                rintro ⟨missing, device, ser, record, same, listed, added⟩
                exact ⟨missing, device, ser, record, same, List.mem_cons_of_mem _ listed, added⟩

-----------------------------------------------------------------------------------------
-- Loading while the backend responds
-----------------------------------------------------------------------------------------

/-- The answer of a load, and the cache after it, on these stored bytes of the address. -/
def loadFrom (format : RecordFormat ρ) (order : HashOrder) (identity : IdentityType)
    (address : ProtocolAddress) (stored : Option Bytes) (cache : FiniteMap SessionKey ρ)
    : Except SignalProtocolError (Option ρ) × FiniteMap SessionKey ρ :=
  match cache.lookup (sessionKey identity address) with
  | some record => (.ok (some record), cache)
  | none =>
      match bundleOf format stored with
      | .error e => (.error (.invalidState "decode session bundle" e.display), cache)
      | .ok bundle =>
          let filled := prefill format identity address.name
            (order.arrange (FiniteMap.pairs bundle)) cache
          (filled.1.bind (fun _ => bundle.ownRecord format address.deviceId.id), filled.2)

/-- An order that yields this entry first. -/
theorem exists_order_first {α : Type} {items : List α} {item : α} (listed : item ∈ items)
    : ∃ (order : HashOrder) (rest : List α), order.arrange items = item :: rest := by
  obtain ⟨before, after, rfl⟩ := List.append_of_mem listed
  refine ⟨⟨fun list => list.rotate before.length, fun list => list.rotate_perm _⟩,
    after ++ before, ?_⟩
  exact List.rotate_append_length_eq before (item :: after)

/-- The answers of a load, one for each iteration order. -/
def loadAnswers (format : RecordFormat ρ) (identity : IdentityType) (address : ProtocolAddress)
    (stored : Option Bytes) (cache : FiniteMap SessionKey ρ)
    : Set (Except SignalProtocolError (Option ρ)) :=
  Set.range fun order => (loadFrom format order identity address stored cache).1

/-- A load of an uncached device answers with the failure of some uncached record that does
not deserialize, or, if there is none, with the device's own record.
-/
theorem mem_loadAnswers {identity : IdentityType} {address : ProtocolAddress}
    {stored : Option Bytes} {cache : FiniteMap SessionKey ρ} {bundle : SessionBundle}
    (uncached : cache.lookup (sessionKey identity address) = none)
    (decoded : bundleOf format stored = .ok bundle)
    {answer : Except SignalProtocolError (Option ρ)}
    : answer ∈ loadAnswers format identity address stored cache
      ↔ (∃ entry e, bundle.lookup entry.1 = some entry.2
            ∧ stops format identity address.name cache entry = some e ∧ answer = .error e)
        ∨ (∀ entry, bundle.lookup entry.1 = some entry.2
            → stops format identity address.name cache entry = none)
          ∧ answer = bundle.ownRecord format address.deviceId.id := by
  have result (order : HashOrder) : (loadFrom format order identity address stored cache).1
      = match (order.arrange (FiniteMap.pairs bundle)).findSome?
            (stops format identity address.name cache) with
        | none => bundle.ownRecord format address.deviceId.id
        | some e => .error e := by
    have unique := order.nodup_map_arrange Prod.fst (FiniteMap.pairs_keys_nodup bundle)
    simp only [loadFrom, uncached, decoded, prefill_result unique]
    split <;> rfl
  constructor
  · rintro ⟨order, same⟩
    have shown := same.symm.trans (result order)
    cases stopped : (order.arrange (FiniteMap.pairs bundle)).findSome?
        (stops format identity address.name cache) with
    | none =>
        rw [stopped] at shown
        refine .inr ⟨fun entry found => ?_, shown⟩
        refine List.findSome?_eq_none_iff.mp stopped entry ?_
        rw [order.mem_arrange, FiniteMap.mem_pairs]
        exact found
    | some e =>
        obtain ⟨entry, listed, stop⟩ := List.exists_of_findSome?_eq_some stopped
        rw [order.mem_arrange, FiniteMap.mem_pairs] at listed
        rw [stopped] at shown
        exact .inl ⟨entry, e, listed, stop, shown⟩
  · rintro (⟨entry, e, found, stop, rfl⟩ | ⟨none_stops, rfl⟩)
    · obtain ⟨order, rest, first⟩ := exists_order_first (FiniteMap.mem_pairs.mpr found)
      exact ⟨order, by simp only [result, first, List.findSome?_cons, stop]⟩
    · refine ⟨.insertion, ?_⟩
      have stopped : (HashOrder.insertion.arrange (FiniteMap.pairs bundle)).findSome?
          (stops format identity address.name cache) = none := by
        refine List.findSome?_eq_none_iff.mpr fun entry listed => none_stops entry ?_
        rw [HashOrder.mem_arrange] at listed
        exact FiniteMap.mem_pairs.mp listed
      simp only [result, stopped]

variable [KvBackend β] (kv : KvAtomic β)

/-- A load fails with the backend, leaving everything as it was, or answers from the stored
bytes; it writes nothing.
-/
theorem loadSession_settles (format : RecordFormat ρ) {self : PddbStore β ρ}
    (ready : kv.Ready self.backend) (order : HashOrder) (identity : IdentityType)
    (address : ProtocolAddress)
    : let out := loadSession format order identity address self
      kv.Ready out.2.backend ∧ kv.view out.2.backend = kv.view self.backend
      ∧ out.2.sessionDirty = self.sessionDirty
      ∧ ((∃ e, kv.MayFail ∧ out.1 = .error e ∧ out.2.sessionCache = self.sessionCache)
        ∨ (out.1, out.2.sessionCache) = loadFrom format order identity address
            (kv.view self.backend (dictSession identity, address.name)) self.sessionCache) := by
  intro out
  cases hit : self.sessionCache.lookup (sessionKey identity address) with
  | some record =>
      have answer : out = (.ok (some record), self) := by simp only [out, loadSession, hit]
      rw [answer, loadFrom, hit]
      exact ⟨ready, rfl, rfl, .inr rfl⟩
  | none =>
      have read := kv.get ready (dictSession identity) address.name
      simp only [out, loadSession, hit, onBackend, backendGetSessionBundleProtocol, loadFrom]
      generalize KvBackend.get (dictSession identity) address.name self.backend
        = outcome at read ⊢
      obtain ⟨result, next⟩ := outcome
      cases read with
      | failed e may failure kept same =>
          simp only at failure kept same
          simp only [failure, kept, same, true_and]
          exact .inl ⟨_, may, rfl, trivial⟩
      | done returns =>
          obtain ⟨value, kept, same⟩ := returns
          simp only at value kept same
          cases stored : kv.view self.backend (dictSession identity, address.name) with
          | none =>
              have nothing : order.arrange (FiniteMap.pairs (∅ : SessionBundle)) = [] :=
                (order.perm []).eq_nil
              simp only [value, stored, kept, same, bundleOf, nothing, prefill, true_and]
              exact .inr rfl
          | some bytes =>
              simp only [value, stored, bundleOf]
              cases decoded : deserializeSessionBundle format bytes with
              | error e =>
                  simp only [kept, same, true_and]
                  exact .inr trivial
              | ok bundle =>
                  simp only [SessionBundle.ownRecord, sessionKey]
                  cases (prefill format identity address.name
                    (order.arrange (FiniteMap.pairs bundle)) self.sessionCache).1 with
                  | error e =>
                      simp only [kept, same, true_and]
                      exact .inr rfl
                  | ok _ =>
                      cases own : bundle.lookup address.deviceId.id with
                      | none =>
                          simp only [kept, same, true_and]
                          exact .inr rfl
                      | some ser =>
                          simp only [kept, same, true_and]
                          exact .inr rfl

-----------------------------------------------------------------------------------------
-- The plain lookup
-----------------------------------------------------------------------------------------

/-- The cached record of a device, else the one in its own bytes of the bundle. -/
def plainLookup (format : RecordFormat ρ) (cached : Option ρ) (bundle : SessionBundle)
    (device : UInt32)
    : Except SignalProtocolError (Option ρ) :=
  match cached with
  | some record => .ok (some record)
  | none => bundle.ownRecord format device

/-- No other device's bytes can decide a load: the device is cached, or every uncached record
of the bundle that does not deserialize fails as the device's own bytes do.
-/
def Unspoiled (format : RecordFormat ρ) (cache : FiniteMap SessionKey ρ)
    (bundle : SessionBundle) (identity : IdentityType) (address : ProtocolAddress)
    : Prop :=
  (cache.lookup (sessionKey identity address)).isSome
    ∨ ∀ device ser e, bundle.lookup device = some ser
        → cache.lookup (identity, address.name, device) = none
        → format.deserialize ser = .error e
        → bundle.ownRecord format address.deviceId.id = .error e

omit [KvBackend β] in
/-- Where no other record is in the way, a load answers with the plain lookup. -/
theorem Unspoiled.loadFrom_eq {cache : FiniteMap SessionKey ρ} {bundle : SessionBundle}
    {identity : IdentityType} {address : ProtocolAddress}
    (unspoiled : Unspoiled format cache bundle identity address) {stored : Option Bytes}
    (decoded : bundleOf format stored = .ok bundle) (order : HashOrder)
    : (loadFrom format order identity address stored cache).1
      = plainLookup format (cache.lookup (sessionKey identity address)) bundle
          address.deviceId.id := by
  cases hit : cache.lookup (sessionKey identity address) with
  | some record => simp only [loadFrom, hit, plainLookup]
  | none =>
      have answer : (loadFrom format order identity address stored cache).1
          ∈ loadAnswers format identity address stored cache := ⟨order, rfl⟩
      rcases (mem_loadAnswers hit decoded).mp answer
        with ⟨entry, e, found, stop, answer⟩ | ⟨-, answer⟩
      · obtain ⟨missing, fails⟩ := stops_eq_some.mp stop
        rcases unspoiled with cached | others
        · rw [hit] at cached
          cases cached
        · rw [answer, plainLookup, others entry.1 entry.2 e found missing fails]
      · exact answer

omit [KvBackend β] in
/-- A load keeps the plain lookup of the device it is about, and what cannot spoil it. -/
theorem loadFrom_keeps (cache : FiniteMap SessionKey ρ) {bundle : SessionBundle}
    {identity : IdentityType} {address : ProtocolAddress} {stored : Option Bytes}
    (decoded : bundleOf format stored = .ok bundle) (order : HashOrder)
    : let after := (loadFrom format order identity address stored cache).2
      plainLookup format (after.lookup (sessionKey identity address)) bundle address.deviceId.id
          = plainLookup format (cache.lookup (sessionKey identity address)) bundle
            address.deviceId.id
      ∧ (Unspoiled format cache bundle identity address
          → Unspoiled format after bundle identity address) := by
  intro after
  cases hit : cache.lookup (sessionKey identity address) with
  | some record =>
      have same : after = cache := by simp only [after, loadFrom, hit]
      rw [same, hit]
      exact ⟨rfl, id⟩
  | none =>
      have filled : after = (prefill format identity address.name
          (order.arrange (FiniteMap.pairs bundle)) cache).2 := by
        simp only [after, loadFrom, hit, decoded]
      have added := prefill_added format identity address.name
        (order.arrange (FiniteMap.pairs bundle)) cache
      rw [← filled] at added
      constructor
      · rcases added (sessionKey identity address) with same | ⟨-, found⟩
        · rw [same, hit]
        · obtain ⟨device, ser, record, same, listed, read, cached⟩ := found
          obtain rfl : address.deviceId.id = device := (Prod.mk.inj (Prod.mk.inj same).2).2
          rw [order.mem_arrange, FiniteMap.mem_pairs] at listed
          simp only [cached, plainLookup, SessionBundle.ownRecord, listed, read]
          rfl
      · rintro (cached | others)
        · rw [hit] at cached
          cases cached
        · refine .inr fun device ser e stored missing fails => others device ser e stored ?_ fails
          rcases added (identity, address.name, device) with same | ⟨absent, -⟩
          · rw [← same, missing]
          · exact absent

omit [KvBackend β] in
/-- If every order gives the plain lookup, no other record is in the way. -/
theorem unspoiled_of_loadFrom {cache : FiniteMap SessionKey ρ} {bundle : SessionBundle}
    {identity : IdentityType} {address : ProtocolAddress} {stored : Option Bytes}
    (decoded : bundleOf format stored = .ok bundle)
    (plain
      : ∀ order, (loadFrom format order identity address stored cache).1
          = plainLookup format (cache.lookup (sessionKey identity address)) bundle
              address.deviceId.id)
    : Unspoiled format cache bundle identity address := by
  cases hit : cache.lookup (sessionKey identity address) with
  | some record => exact .inl (by rw [hit]; rfl)
  | none =>
      refine .inr fun device ser e found missing fails => ?_
      have answer : .error e ∈ loadAnswers format identity address stored cache :=
        (mem_loadAnswers hit decoded).mpr
          (.inl ⟨(device, ser), e, found, stops_eq_some.mpr ⟨missing, fails⟩, rfl⟩)
      obtain ⟨order, answer⟩ := answer
      have same := plain order
      rw [hit] at same
      exact same.symm.trans answer

/-- Loading a device twice, in any iteration orders, answers with the plain lookup both times
exactly when no other device's bytes can decide it.
-/
theorem loadSession_plain_iff (kv : KvContract β) {self : PddbStore β ρ}
    (ready : kv.Ready self.backend) {identity : IdentityType} {address : ProtocolAddress}
    {bundle : SessionBundle}
    (decoded
      : bundleOf format (kv.view self.backend (dictSession identity, address.name)) = .ok bundle)
    : (∀ order order',
        let plain := plainLookup format (self.sessionCache.lookup (sessionKey identity address))
          bundle address.deviceId.id
        let first := loadSession format order identity address self
        first.1 = plain ∧ (loadSession format order' identity address first.2).1 = plain)
      ↔ Unspoiled format self.sessionCache bundle identity address := by
  have answers (self : PddbStore β ρ) (ready : kv.Ready self.backend) (order : HashOrder) :
      let out := loadSession format order identity address self
      kv.Ready out.2.backend ∧ kv.view out.2.backend = kv.view self.backend
      ∧ (out.1, out.2.sessionCache) = loadFrom format order identity address
          (kv.view self.backend (dictSession identity, address.name)) self.sessionCache := by
    obtain ⟨kept, same, -, ⟨_, never, -⟩ | answer⟩ :=
      loadSession_settles kv.atomic format ready order identity address
    · exact never.elim
    · exact ⟨kept, same, answer⟩
  constructor
  · intro plain
    refine unspoiled_of_loadFrom decoded fun order => ?_
    rw [← (answers self ready order).2.2]
    exact (plain order order).1
  · intro unspoiled order order' plain first
    obtain ⟨kept, same, answer⟩ := answers self ready order
    have again := (answers first.2 kept order').2.2
    obtain ⟨lookup, still⟩ := loadFrom_keeps self.sessionCache decoded order
    rw [← answer] at lookup still
    rw [same] at again
    constructor
    · exact (congrArg Prod.fst answer).trans (unspoiled.loadFrom_eq decoded order)
    · calc _ = _ := congrArg Prod.fst again
        _ = _ := (still unspoiled).loadFrom_eq decoded order'
        _ = plain := lookup

/-- Two devices of an address, of which the second one's bytes are no record. -/
def corruptSibling : SessionBundle := (∅ : SessionBundle).insertAll [(2, []), (1, [7])]

/-- A fresh store on that bundle. -/
def corruptStore : PddbStore InnerBackend UInt8 :=
  .new ⟨(∅ : FiniteMap (String × String) Bytes).insert (dictSession .aci, "alice")
    (serializeSessionBundle .insertion corruptSibling), {}⟩

/-- Witness: the bundle with one corrupt record. -/
theorem loadSession_plain_corrupt
    : ∃ bundle, bundleOf .oneByte (InnerBackend.contract.view corruptStore.backend
        (dictSession .aci, "alice")) = .ok bundle
      ∧ ((∀ order order',
          let plain := plainLookup .oneByte (corruptStore.sessionCache.lookup
            (sessionKey .aci ⟨"alice", defaultDeviceId⟩)) bundle defaultDeviceId.id
          let first := loadSession .oneByte order .aci ⟨"alice", defaultDeviceId⟩ corruptStore
          first.1 = plain
            ∧ (loadSession .oneByte order' .aci ⟨"alice", defaultDeviceId⟩ first.2).1 = plain)
        ↔ Unspoiled .oneByte corruptStore.sessionCache bundle .aci
            ⟨"alice", defaultDeviceId⟩) := by
  have ready : InnerBackend.contract.Ready corruptStore.backend := FaultPlan.onlyBulk_default
  exact ⟨_, rfl, loadSession_plain_iff InnerBackend.contract ready rfl⟩

/-- Counterexample: the first device's own bytes are good, and its load fails. -/
theorem loadSession_spoiled
    : plainLookup .oneByte (corruptStore.sessionCache.lookup
          (sessionKey .aci ⟨"alice", defaultDeviceId⟩)) corruptSibling defaultDeviceId.id
        = .ok (some 7)
      ∧ (loadSession .oneByte .insertion .aci ⟨"alice", defaultDeviceId⟩ corruptStore).1
        = .error (.libsignal "failed to decode protobuf") :=
  ⟨rfl, rfl⟩

end PddbStore

end XousAppSignal.Store
