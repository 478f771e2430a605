import XousAppSignal.Library.Runs
import XousAppSignal.Store.SessionDeletion
import XousAppSignal.Store.SessionFlush

/-! The session store as a finite map: whatever is cached, dirty or bundled, each key holds
what the last store or delete that addressed it left there.
-/

namespace XousAppSignal.Store

/-- One call through any clone of the ACI or the PNI protocol store. Calls by service id
are those for an account's ACI, whose address name is the hyphenated UUID.
-/
inductive SessionOp (ρ : Type) where
  | storeSession (identity : IdentityType) (address : ProtocolAddress) (record : ρ)
  | loadSession (order : HashOrder) (identity : IdentityType) (address : ProtocolAddress)
  | flushSessions (order : FlushOrder)
  | deleteSession (order : HashOrder) (identity : IdentityType) (address : ProtocolAddress)
  | deleteAllSessions (identity : IdentityType) (aci : Uuid)
  | getSubDeviceSessions (identity : IdentityType) (aci : Uuid)

namespace SessionOp

variable {β ρ : Type}

/-- The store after a call. -/
def perform [KvBackend β] (format : RecordFormat ρ) (self : PddbStore β ρ)
    : SessionOp ρ → PddbStore β ρ
  | .storeSession identity address record => self.storeSession identity address record
  | .loadSession order identity address => (self.loadSession format order identity address).2
  | .flushSessions order => (self.flushSessions format order).2
  | .deleteSession order identity address =>
      (self.deleteSession format order identity address).2
  | .deleteAllSessions identity aci => (self.deleteAllSessions format identity (.aci aci)).2
  | .getSubDeviceSessions identity aci =>
      (self.getSubDeviceSessions format identity (.aci aci)).2

/-- The identity a call belongs to; a flush serves both. -/
def identity : SessionOp ρ → Option IdentityType
  | .storeSession identity _ _ => some identity
  | .loadSession _ identity _ => some identity
  | .flushSessions _ => none
  | .deleteSession _ identity _ => some identity
  | .deleteAllSessions identity _ => some identity
  | .getSubDeviceSessions identity _ => some identity

/-- The call is not one of the other identity. -/
def concerns (mine : IdentityType) (op : SessionOp ρ) : Bool :=
  op.identity.all (fun identity => identity = mine)

/-- What a store or delete addressing the key leaves there; `none` for any other call. -/
def effect (op : SessionOp ρ) (key : SessionKey) : Option (Option ρ) :=
  match op with
  | .storeSession identity address record =>
      if key = sessionKey identity address then some (some record) else none
  | .deleteSession _ identity address =>
      if key = sessionKey identity address then some none else none
  | .deleteAllSessions identity aci =>
      if key.1 = identity ∧ key.2.1 = aci.toString then some none else none
  | .loadSession _ _ _ => none
  | .flushSessions _ => none
  | .getSubDeviceSessions _ _ => none

/-- What the last store or delete that addressed the key left there. -/
def lastEffect (history : List (SessionOp ρ)) (key : SessionKey) : Option ρ :=
  (history.reverse.findSome? (fun op => op.effect key)).join

@[simp]
theorem lastEffect_nil (key : SessionKey) : lastEffect ([] : List (SessionOp ρ)) key = none :=
  rfl

theorem lastEffect_append (history : List (SessionOp ρ)) (op : SessionOp ρ)
    (key : SessionKey)
    : lastEffect (history ++ [op]) key = (op.effect key).getD (lastEffect history key) := by
  simp only [lastEffect, List.reverse_append, List.reverse_cons, List.reverse_nil,
    List.nil_append, List.cons_append, List.findSome?_cons]
  cases op.effect key <;> rfl

/-- A call of one identity addresses no key of the other. -/
theorem effect_other {mine : IdentityType} {op : SessionOp ρ} (other : op.concerns mine = false)
    {key : SessionKey} (here : key.1 = mine)
    : op.effect key = none := by
  cases op with
  | storeSession identity address record =>
      simp only [concerns, SessionOp.identity, Option.all_some, decide_eq_false_iff_not] at other
      exact if_neg (fun same => other (by rw [← here, same]; rfl))
  | deleteSession order identity address =>
      simp only [concerns, SessionOp.identity, Option.all_some, decide_eq_false_iff_not] at other
      exact if_neg (fun same => other (by rw [← here, same]; rfl))
  | deleteAllSessions identity aci =>
      simp only [concerns, SessionOp.identity, Option.all_some, decide_eq_false_iff_not] at other
      exact if_neg (fun same => other (same.1.symm.trans here))
  | loadSession order identity address => rfl
  | flushSessions order => rfl
  | getSubDeviceSessions identity aci => rfl

/-- Dropping the calls of the other identity changes nothing under a key, by induction on
the history from its end.
-/
theorem lastEffect_concerns {mine : IdentityType} {key : SessionKey} (here : key.1 = mine)
    (history : List (SessionOp ρ))
    : lastEffect (history.filter (concerns mine)) key = lastEffect history key := by
  induction history using List.reverseRecOn with
  | nil => rfl
  | append_singleton history op ih =>
      rw [List.filter_append, lastEffect_append]
      cases kept : op.concerns mine with
      | true =>
          rw [List.filter_cons_of_pos kept, List.filter_nil, lastEffect_append, ih]
      | false =>
          rw [List.filter_cons_of_neg (by simp [kept]), List.filter_nil, List.append_nil, ih,
            effect_other kept here, Option.getD_none]

-----------------------------------------------------------------------------------------
-- The store follows its history
-----------------------------------------------------------------------------------------

variable [KvBackend β] {format : RecordFormat ρ}

/-- The store satisfies its invariant and holds, under each key, its last effect. -/
structure Follows (kv : KvAtomic β) (format : RecordFormat ρ) (history : List (SessionOp ρ))
    (store : PddbStore β ρ)
    : Prop where
  inv : store.SessionInv kv format
  holds : ∀ key, store.current format (kv.view store.backend) key = lastEffect history key

/-- One call keeps the store following its history, when no backend call fails. -/
theorem Follows.perform {kv : KvAtomic β} (never : ¬kv.MayFail) (roundTrip : format.RoundTrip)
    {history : List (SessionOp ρ)} {store : PddbStore β ρ}
    (follows : Follows kv format history store) (op : SessionOp ρ)
    : Follows kv format (history ++ [op]) (op.perform format store) := by
  obtain ⟨inv, holds⟩ := follows
  cases op with
  | storeSession identity address record =>
      refine ⟨PddbStore.storeSession_inv kv inv identity address record, fun key => ?_⟩
      have stored := PddbStore.storeSession_current format (kv.view store.backend)
        store identity address record key
      rw [lastEffect_append, effect, ← holds]
      refine stored.trans ?_
      split <;> rfl
  | loadSession order identity address =>
      obtain ⟨kept, same, -, unchanged, -⟩ :=
        PddbStore.loadSession_spec kv inv order identity address
      refine ⟨kept, fun key => ?_⟩
      rw [lastEffect_append, effect, Option.getD_none, ← holds, ← unchanged key]
      exact congrArg (fun view => PddbStore.current format view _ key) same
  | flushSessions order =>
      obtain ⟨kept, -, unchanged, -⟩ := PddbStore.flushSessions_spec kv roundTrip inv order
      refine ⟨kept, fun key => ?_⟩
      rw [lastEffect_append, effect, Option.getD_none, ← holds, ← unchanged key]
      rfl
  | deleteSession order identity address =>
      obtain ⟨kept, ⟨e, -, may⟩ | ⟨-, removed⟩⟩ :=
        PddbStore.deleteSession_spec kv inv order identity address
      · exact absurd may never
      · refine ⟨kept, fun key => ?_⟩
        rw [lastEffect_append, effect, ← holds]
        refine (removed key).trans ?_
        split <;> rfl
  | deleteAllSessions identity aci =>
      obtain ⟨kept, ⟨e, -, may⟩ | ⟨-, removed⟩⟩ :=
        PddbStore.deleteAllSessions_spec kv inv identity (.aci aci)
      · exact absurd may never
      · refine ⟨kept, fun key => ?_⟩
        rw [lastEffect_append, effect, ← holds]
        refine (removed key).trans ?_
        rw [show (ServiceId.aci aci).rawUuid = aci from rfl]
        by_cases addressed : key.1 = identity ∧ key.2.1 = aci.toString
        · rw [if_pos addressed, if_pos addressed, Option.getD_some]
        · rw [if_neg addressed, if_neg addressed, Option.getD_none]
  | getSubDeviceSessions identity aci =>
      obtain ⟨kept, same, cache, -, -⟩ :=
        PddbStore.getSubDeviceSessions_spec kv inv identity (.aci aci)
      refine ⟨kept, fun key => ?_⟩
      rw [lastEffect_append, effect, Option.getD_none, ← holds]
      simp only [SessionOp.perform, PddbStore.current, same, cache]

/-- A store opened without sessions follows the empty history. -/
theorem follows_new {kv : KvAtomic β} {backend : β} (ready : kv.Ready backend)
    (fresh : ∀ identity name, kv.view backend (dictSession identity, name) = none)
    : Follows kv format [] (PddbStore.new backend) := by
  have sound : Sound format (kv.view backend) := fun slot occupied =>
    absurd (fresh slot.1 slot.2) occupied
  refine ⟨PddbStore.sessionInv_new kv ready sound, fun key => ?_⟩
  simp [PddbStore.current, PddbStore.new, storedSession, storedBundle, fresh]

/-- After any calls the store follows them, by induction on the calls from the last one. -/
theorem follows_run {kv : KvAtomic β} (never : ¬kv.MayFail) (roundTrip : format.RoundTrip)
    {backend : β} (ready : kv.Ready backend)
    (fresh : ∀ identity name, kv.view backend (dictSession identity, name) = none)
    (history : List (SessionOp ρ))
    : Follows kv format history
        (Runs.run (SessionOp.perform format) (PddbStore.new backend) history) := by
  induction history using List.reverseRecOn with
  | nil => exact follows_new ready fresh
  | append_singleton history op ih =>
      rw [Runs.run_append]
      exact ih.perform never roundTrip op

section Answers

variable {kv : KvAtomic β} (never : ¬kv.MayFail) {history : List (SessionOp ρ)}
  {store : PddbStore β ρ} (follows : Follows kv format history store)

include never follows

theorem Follows.load (order : HashOrder) (identity : IdentityType) (address : ProtocolAddress)
    : (store.loadSession format order identity address).1
      = .ok (lastEffect history (sessionKey identity address)) := by
  obtain ⟨-, -, -, -, ⟨e, -, may⟩ | answer⟩ :=
    PddbStore.loadSession_spec kv follows.inv order identity address
  · exact absurd may never
  · rw [answer, follows.holds]

theorem Follows.subDevices (identity : IdentityType) (aci : Uuid)
    : ∃ devices : List DeviceId,
        (store.getSubDeviceSessions format identity (.aci aci)).1 = .ok devices
        ∧ devices.Pairwise (fun left right => left.id < right.id)
        ∧ ∀ device, device ∈ devices
            ↔ device ≠ defaultDeviceId
              ∧ (lastEffect history (identity, aci.toString, device.id)).isSome := by
  obtain ⟨-, -, -, -, ⟨e, -, may⟩ | ⟨devices, answer, sorted, members⟩⟩ :=
    PddbStore.getSubDeviceSessions_spec kv follows.inv identity (.aci aci)
  · exact absurd may never
  · refine ⟨devices, answer, sorted, fun device => ?_⟩
    rw [members, follows.holds]
    rfl

theorem Follows.deleteAll (identity : IdentityType) (aci : Uuid)
    : ∃ devices : Finset UInt32,
        (store.deleteAllSessions format identity (.aci aci)).1 = .ok devices.card
        ∧ ∀ device, device ∈ devices
            ↔ (lastEffect history (identity, aci.toString, device)).isSome := by
  obtain ⟨-, ⟨e, -, may⟩ | ⟨⟨devices, answer, members⟩, -⟩⟩ :=
    PddbStore.deleteAllSessions_spec kv follows.inv identity (.aci aci)
  · exact absurd may never
  · refine ⟨devices, answer, fun device => ?_⟩
    rw [members, follows.holds]
    rfl

end Answers

/-- Two stores whose histories agree on an identity answer its calls alike. -/
theorem Follows.agree {kv : KvAtomic β} (never : ¬kv.MayFail)
    {left right : List (SessionOp ρ)} {store store' : PddbStore β ρ}
    (followsLeft : Follows kv format left store) (followsRight : Follows kv format right store')
    {identity : IdentityType}
    (same : ∀ key : SessionKey, key.1 = identity → lastEffect left key = lastEffect right key)
    : (∀ order address, (store.loadSession format order identity address).1
          = (store'.loadSession format order identity address).1)
      ∧ (∀ aci, (store.getSubDeviceSessions format identity (.aci aci)).1
          = (store'.getSubDeviceSessions format identity (.aci aci)).1)
      ∧ ∀ aci, (store.deleteAllSessions format identity (.aci aci)).1
          = (store'.deleteAllSessions format identity (.aci aci)).1 := by
  refine ⟨fun order address => ?_, fun aci => ?_, fun aci => ?_⟩
  · rw [followsLeft.load never, followsRight.load never, same _ rfl]
  · obtain ⟨devices, answer, sorted, members⟩ := followsLeft.subDevices never identity aci
    obtain ⟨devices', answer', sorted', members'⟩ := followsRight.subDevices never identity aci
    have ascending : Std.Irrefl (fun left right : DeviceId => left.id < right.id) :=
      ⟨fun device => UInt32.lt_irrefl _⟩
    have oneWay : Std.Antisymm (fun left right : DeviceId => left.id < right.id) :=
      ⟨fun left right less more => absurd less (UInt32.lt_asymm more)⟩
    have equal : devices = devices' := sorted.eq_of_mem_iff sorted' (fun device => by
      rw [members, members', same _ rfl])
    rw [answer, answer', equal]
  · obtain ⟨devices, answer, members⟩ := followsLeft.deleteAll never identity aci
    obtain ⟨devices', answer', members'⟩ := followsRight.deleteAll never identity aci
    have equal : devices = devices' := Finset.ext (fun device => by
      rw [members, members', same _ rfl])
    rw [answer, answer', equal]

/-- The cached session store refines a finite map. After any calls on a working backend
that held no session: loading answers with the last effect on the address; listing the
sub-devices yields, in order, the devices other than the primary one that have a session;
deleting all sessions counts the devices removed; flushing reports the size of the dirty
set and empties it; and the calls of one identity change no answer of the other.
-/
theorem sessions_refine_map (contract : KvContract β) (format : RecordFormat ρ)
    (roundTrip : format.RoundTrip)
    (serializes : ∀ record, ∃ bytes, format.serialize record = .ok bytes)
    (backend : β) (ready : contract.Ready backend)
    (fresh : ∀ identity name, contract.view backend (dictSession identity, name) = none)
    (history : List (SessionOp ρ))
    : let after (calls : List (SessionOp ρ)) : PddbStore β ρ :=
        Runs.run (SessionOp.perform format) (PddbStore.new backend) calls
      let store := after history
      (∀ order identity address,
        (store.loadSession format order identity address).1
          = .ok (lastEffect history (sessionKey identity address)))
      ∧ (∀ identity aci, ∃ devices : List DeviceId,
          (store.getSubDeviceSessions format identity (.aci aci)).1 = .ok devices
          ∧ devices.Pairwise (fun left right => left.id < right.id)
          ∧ ∀ device, device ∈ devices
              ↔ device ≠ defaultDeviceId
                ∧ (lastEffect history (identity, aci.toString, device.id)).isSome)
      ∧ (∀ identity aci, ∃ devices : Finset UInt32,
          (store.deleteAllSessions format identity (.aci aci)).1 = .ok devices.card
          ∧ ∀ device, device ∈ devices
              ↔ (lastEffect history (identity, aci.toString, device)).isSome)
      ∧ (∀ order,
          (store.flushSessions format order).1 = .ok store.sessionDirty.entries.length
          ∧ (store.flushSessions format order).2.sessionDirty = ∅)
      ∧ ∀ identity,
          let own := after (history.filter (concerns identity))
          (∀ order address, (store.loadSession format order identity address).1
            = (own.loadSession format order identity address).1)
          ∧ (∀ aci, (store.getSubDeviceSessions format identity (.aci aci)).1
              = (own.getSubDeviceSessions format identity (.aci aci)).1)
          ∧ ∀ aci, (store.deleteAllSessions format identity (.aci aci)).1
              = (own.deleteAllSessions format identity (.aci aci)).1 := by
  intro after store
  have never : ¬contract.atomic.MayFail := id
  have follows (calls : List (SessionOp ρ))
      : Follows contract.atomic format calls (after calls) :=
    follows_run never roundTrip ready fresh calls
  refine ⟨(follows history).load never, (follows history).subDevices never,
    (follows history).deleteAll never, fun order => ?_, fun identity => ?_⟩
  · obtain ⟨-, -, -, ⟨e, -, -, may | ⟨record, message, unwritten⟩⟩ | flushed⟩ :=
      PddbStore.flushSessions_spec contract.atomic roundTrip (follows history).inv order
    · exact absurd may never
    · obtain ⟨bytes, written⟩ := serializes record
      rw [written] at unwritten
      cases unwritten
    · exact flushed
  · exact Follows.agree never (follows history) (follows _)
      (fun key here => (lastEffect_concerns here history).symm)

/-- Sessions of one peer under both identities: a flush, a delete and a fresh store. -/
theorem sessions_refine_map_two_identities
    : let peer : ProtocolAddress := ⟨"peer", defaultDeviceId⟩
      let backend : InnerBackend := { map := ∅ }
      let history : List (SessionOp UInt8) :=
        [.storeSession .aci peer 7, .storeSession .pni peer 8,
          .flushSessions .insertion, .deleteSession .insertion .pni peer]
      let store := Runs.run (SessionOp.perform .oneByte) (PddbStore.new backend) history
      (store.loadSession .oneByte .insertion .aci peer).1 = .ok (some 7)
      ∧ (store.loadSession .oneByte .insertion .pni peer).1 = .ok none := by
  intro peer backend history store
  have whole := sessions_refine_map InnerBackend.contract .oneByte RecordFormat.oneByte_roundTrip
    (fun record => ⟨[record], rfl⟩) backend FaultPlan.onlyBulk_default (fun _ _ => rfl) history
  exact ⟨whole.1 .insertion .aci peer, whole.1 .insertion .pni peer⟩

end SessionOp

end XousAppSignal.Store
