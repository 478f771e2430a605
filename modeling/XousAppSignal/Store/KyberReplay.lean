import XousAppSignal.Library.DecimalKeys
import XousAppSignal.Library.Runs
import XousAppSignal.Store.KyberPreKeyStore

/-! Replay protection of last-resort Kyber keys. The dedup table keeps the base key of the
most recent call for a (Kyber id, EC id) pair only, so a replay is rejected exactly when
that call used the same base key.
-/

namespace XousAppSignal.Store.Kyber

abbrev envelopeSlot (identity : IdentityType) (id : UInt32) : String × String :=
  (dictKyberPrekey identity, envelopeKey id)

abbrev metaSlot (identity : IdentityType) (kyberId ecId : UInt32) : String × String :=
  (dictKyberMeta identity, metaKey kyberId ecId)

theorem dictKyberPrekey_injective {left right : IdentityType}
    (same : dictKyberPrekey left = dictKyberPrekey right)
    : left = right := by
  revert same
  cases left <;> cases right <;> decide

theorem dictKyberMeta_injective {left right : IdentityType}
    (same : dictKyberMeta left = dictKyberMeta right)
    : left = right := by
  revert same
  cases left <;> cases right <;> decide

theorem dictKyberPrekey_ne_meta (left right : IdentityType)
    : dictKyberPrekey left ≠ dictKyberMeta right := by
  cases left <;> cases right <;> decide

theorem envelopeSlot_injective {left right : IdentityType} {id id' : UInt32}
    (same : envelopeSlot left id = envelopeSlot right id')
    : left = right ∧ id = id' := by
  obtain ⟨dicts, keys⟩ := Prod.mk.inj same
  exact ⟨dictKyberPrekey_injective dicts,
    UInt32.toNat_inj.mp (DecimalKeys.repr_injective keys)⟩

theorem metaSlot_injective {left right : IdentityType} {kyberId kyberId' ecId ecId' : UInt32}
    (same : metaSlot left kyberId ecId = metaSlot right kyberId' ecId')
    : left = right ∧ kyberId = kyberId' ∧ ecId = ecId' := by
  obtain ⟨dicts, keys⟩ := Prod.mk.inj same
  obtain ⟨kyberIds, ecIds⟩ := DecimalKeys.dotted_injective keys
  exact ⟨dictKyberMeta_injective dicts, UInt32.toNat_inj.mp kyberIds,
    UInt32.toNat_inj.mp ecIds⟩

theorem envelopeSlot_ne_metaSlot (left right : IdentityType) (id kyberId ecId : UInt32)
    : envelopeSlot left id ≠ metaSlot right kyberId ecId :=
  fun same => dictKyberPrekey_ne_meta left right (Prod.mk.inj same).1

variable {κ β : Type} {format : KyberFormat κ}

/-- The key is stored as a last-resort key. -/
def LastResort (format : KyberFormat κ) (view : View) (identity : IdentityType) (id : UInt32)
    : Prop :=
  ∃ bytes envelope,
    view (envelopeSlot identity id) = some bytes
    ∧ format.envelope.fromSlice bytes = .ok envelope
    ∧ envelope.isLastResort = true

theorem LastResort.congr {view view' : View} {identity : IdentityType} {id : UInt32}
    (last : LastResort format view identity id)
    (same : view' (envelopeSlot identity id) = view (envelopeSlot identity id))
    : LastResort format view' identity id := by
  obtain ⟨bytes, envelope, stored, rest⟩ := last
  exact ⟨bytes, envelope, same.trans stored, rest⟩

variable [KvBackend β] (contract : KvContract β)

/-- Loading an envelope leaves the map alone. -/
theorem loadEnvelope_spec (format : KyberFormat κ) {backend : β} (ready : contract.Ready backend)
    (identity : IdentityType) (id : UInt32)
    : contract.Ready (loadEnvelope format identity id backend).2
      ∧ contract.view (loadEnvelope format identity id backend).2 = contract.view backend
      ∧ ∀ envelope,
          (loadEnvelope format identity id backend).1 = .ok (some envelope)
          ↔ ∃ bytes, contract.view backend (envelopeSlot identity id) = some bytes
              ∧ format.envelope.fromSlice bytes = .ok envelope := by
  have call := contract.get ready (dictKyberPrekey identity) (envelopeKey id)
  simp only [loadEnvelope, backendGetJsonProtocol]
  generalize KvBackend.get (dictKyberPrekey identity) (envelopeKey id) backend = outcome at call ⊢
  obtain ⟨result, next⟩ := outcome
  obtain ⟨value, kept, same⟩ := call
  simp only at value kept same
  cases stored : contract.view backend (dictKyberPrekey identity, envelopeKey id) with
  | none =>
      simp only [value, stored]
      exact ⟨kept, same, fun envelope => by simp⟩
  | some bytes =>
      simp only [value, stored]
      refine ⟨kept, same, fun envelope => ?_⟩
      cases decoded : format.envelope.fromSlice bytes <;>
        simp [decoded, Except.map, Except.mapError]

/-- Storing an envelope that serializes writes its slot, and reports any other record. -/
theorem storeEnvelope_spec (format : KyberFormat κ) {backend : β} (ready : contract.Ready backend)
    (identity : IdentityType) (id : UInt32) (record : κ) (isLastResort : Bool)
    : let out := storeEnvelope format identity id record isLastResort backend
      contract.Ready out.2
      ∧ ((∃ e, out.1 = .error e) ∧ contract.view out.2 = contract.view backend
        ∨ ∃ bytes ser, out.1 = .ok ()
            ∧ format.envelope.toVec { record := ser, isLastResort } = .ok bytes
            ∧ contract.view out.2
              = Function.update (contract.view backend) (envelopeSlot identity id)
                  (some bytes)) := by
  intro out
  simp only [out, storeEnvelope]
  cases written : format.serialize record with
  | error e => exact ⟨ready, .inl ⟨⟨e, rfl⟩, rfl⟩⟩
  | ok ser =>
      simp only [backendPutJsonProtocol]
      cases encoded : format.envelope.toVec { record := ser, isLastResort } with
      | error message => exact ⟨ready, .inl ⟨⟨_, rfl⟩, rfl⟩⟩
      | ok bytes =>
          have call := contract.put ready (dictKyberPrekey identity) (envelopeKey id) bytes
          simp only
          generalize KvBackend.put (dictKyberPrekey identity) (envelopeKey id) bytes backend
            = outcome at call ⊢
          obtain ⟨result, next⟩ := outcome
          obtain ⟨value, kept, changed⟩ := call
          simp only at value kept changed
          simp only [value]
          exact ⟨kept, .inr ⟨bytes, ser, trivial, encoded, changed⟩⟩

theorem deleteProtocol_spec {backend : β} (ready : contract.Ready backend)
    (dict key : String)
    : contract.Ready (backendDeleteProtocol dict key backend).2
      ∧ contract.view (backendDeleteProtocol dict key backend).2
        = Function.update (contract.view backend) (dict, key) none := by
  have call := contract.delete ready dict key
  simp only [backendDeleteProtocol]
  generalize KvBackend.delete dict key backend = outcome at call ⊢
  obtain ⟨result, next⟩ := outcome
  obtain ⟨value, kept, changed⟩ := call
  simp only at value kept changed
  simp only [value]
  exact ⟨kept, changed⟩

/-- Marking a last-resort key answers from the dedup table and leaves the new base key in
it, whether the call was accepted or rejected.
-/
theorem mark_lastResort {backend : β} (ready : contract.Ready backend)
    {identity : IdentityType} {kyberId : UInt32} (ecId : UInt32) (baseKey : PublicKey)
    (last : LastResort format (contract.view backend) identity kyberId)
    : let out := markKyberPreKeyUsed format identity kyberId ecId baseKey backend
      contract.Ready out.2
      ∧ out.1 = (if contract.view backend (metaSlot identity kyberId ecId)
            = some baseKey.serialize
          then .error reusedBaseKey else .ok ())
      ∧ contract.view out.2
        = Function.update (contract.view backend) (metaSlot identity kyberId ecId)
            (some baseKey.serialize) := by
  intro out
  obtain ⟨bytes, envelope, stored, decoded, flag⟩ := last
  obtain ⟨kept, same, answer⟩ := loadEnvelope_spec contract format ready identity
    kyberId
  have loaded := (answer envelope).mpr ⟨bytes, stored, decoded⟩
  simp only [out, markKyberPreKeyUsed]
  generalize loadEnvelope format identity kyberId backend = outcome at kept same loaded ⊢
  obtain ⟨result, next⟩ := outcome
  simp only at kept same loaded
  simp only [loaded, flag, if_true]
  have read := contract.get kept (dictKyberMeta identity) (metaKey kyberId ecId)
  rw [same] at read
  generalize KvBackend.get (dictKyberMeta identity) (metaKey kyberId ecId) next
    = outcome at read ⊢
  obtain ⟨result, asked⟩ := outcome
  obtain ⟨value, askedReady, unchanged⟩ := read
  simp only at value askedReady unchanged
  simp only [value]
  by_cases replay : contract.view backend (metaSlot identity kyberId ecId)
      = some baseKey.serialize
  · rw [if_pos replay, if_pos replay]
    refine ⟨askedReady, rfl, ?_⟩
    rw [unchanged, ← replay, Function.update_eq_self]
  · rw [if_neg replay, if_neg replay]
    have write := contract.put askedReady (dictKyberMeta identity) (metaKey kyberId ecId)
      baseKey.serialize
    rw [unchanged] at write
    generalize KvBackend.put (dictKyberMeta identity) (metaKey kyberId ecId)
      baseKey.serialize asked = outcome at write ⊢
    obtain ⟨result, wrote⟩ := outcome
    obtain ⟨value, wroteReady, changed⟩ := write
    simp only at value wroteReady changed
    simp only [value]
    exact ⟨wroteReady, trivial, changed⟩

/-- Marking any key touches its own dedup slot, or deletes its envelope when it is not a
last-resort key, or nothing.
-/
theorem mark_spec (format : KyberFormat κ) {backend : β} (ready : contract.Ready backend)
    (identity : IdentityType) (kyberId ecId : UInt32) (baseKey : PublicKey)
    : let out := markKyberPreKeyUsed format identity kyberId ecId baseKey backend
      contract.Ready out.2
      ∧ (contract.view out.2 = contract.view backend
        ∨ contract.view out.2
            = Function.update (contract.view backend) (metaSlot identity kyberId ecId)
                (some baseKey.serialize)
        ∨ ¬LastResort format (contract.view backend) identity kyberId
          ∧ contract.view out.2
            = Function.update (contract.view backend) (envelopeSlot identity kyberId) none) := by
  intro out
  by_cases last : LastResort format (contract.view backend) identity kyberId
  · obtain ⟨kept, -, changed⟩ := mark_lastResort contract ready ecId baseKey last
    exact ⟨kept, .inr (.inl changed)⟩
  · obtain ⟨kept, same, answer⟩ := loadEnvelope_spec contract format ready identity
      kyberId
    simp only [out, markKyberPreKeyUsed]
    generalize loadEnvelope format identity kyberId backend = outcome at kept same answer ⊢
    obtain ⟨result, next⟩ := outcome
    simp only at kept same answer
    rcases result with e | _ | envelope
    · exact ⟨kept, .inl same⟩
    · exact ⟨kept, .inl same⟩
    · obtain ⟨bytes, stored, decoded⟩ := (answer envelope).mp rfl
      have oneTime : envelope.isLastResort = false := by
        by_contra flag
        exact last ⟨bytes, envelope, stored, decoded, by simpa using flag⟩
      obtain ⟨gone, changed⟩ := deleteProtocol_spec contract kept (dictKyberPrekey identity)
        (envelopeKey kyberId)
      simp only [oneTime, Bool.false_eq_true, if_false]
      exact ⟨gone, .inr (.inr ⟨last, by rw [changed, same]⟩)⟩

-----------------------------------------------------------------------------------------
-- Runs
-----------------------------------------------------------------------------------------

end XousAppSignal.Store.Kyber

namespace XousAppSignal.Store

/-- A call on the store: one of the Kyber pre-key methods, or a backend call of any other
part of the store.
-/
inductive KyberOp (κ : Type) where
  | getKyberPreKey (identity : IdentityType) (id : UInt32)
  | saveKyberPreKey (identity : IdentityType) (id : UInt32) (record : κ)
  | storeLastResortKyberPreKey (identity : IdentityType) (id : UInt32) (record : κ)
  | removeKyberPreKey (identity : IdentityType) (id : UInt32)
  | markKyberPreKeyUsed (identity : IdentityType) (kyberId ecId : UInt32)
      (baseKey : PublicKey)
  | other (op : KvOp)

namespace KyberOp

open Kyber

variable {κ β : Type} [KvBackend β] {format : KyberFormat κ}

/-- The backend after a call. -/
def perform (format : KyberFormat κ) (backend : β) : KyberOp κ → β
  | .getKyberPreKey identity id => (Kyber.getKyberPreKey format identity id backend).2
  | .saveKyberPreKey identity id record =>
      (Kyber.saveKyberPreKey format identity id record backend).2
  | .storeLastResortKyberPreKey identity id record =>
      (Kyber.storeLastResortKyberPreKey format identity id record backend).2
  | .removeKyberPreKey identity id => (Kyber.removeKyberPreKey identity id backend).2
  | .markKyberPreKeyUsed identity kyberId ecId baseKey =>
      (Kyber.markKyberPreKeyUsed format identity kyberId ecId baseKey backend).2
  | .other op => (op.perform backend).2

/-- The dictionary a backend call writes. -/
def writes : KvOp → Option String
  | .get _ _ => none
  | .put dict _ _ => some dict
  | .delete dict _ => some dict
  | .deleteDict dict => some dict
  | .listKeys _ => none

/-- The call neither removes, replaces nor clears the key: it does not remove it or save a
one-time key under its id, and the rest of the store stays out of the Kyber dictionaries.
-/
def Spares (identity : IdentityType) (kyberId : UInt32) : KyberOp κ → Prop
  | .saveKyberPreKey identity' id _ => (identity', id) ≠ (identity, kyberId)
  | .removeKyberPreKey identity' id => (identity', id) ≠ (identity, kyberId)
  | .other op =>
      writes op ≠ some (dictKyberPrekey identity) ∧ writes op ≠ some (dictKyberMeta identity)
  | .getKyberPreKey _ _ => True
  | .storeLastResortKyberPreKey _ _ _ => True
  | .markKyberPreKeyUsed _ _ _ _ => True

/-- The base key of a call marking this pair. -/
def marks (identity : IdentityType) (kyberId ecId : UInt32) : KyberOp κ → Option PublicKey
  | .markKyberPreKeyUsed identity' kyberId' ecId' baseKey =>
      if identity' = identity ∧ kyberId' = kyberId ∧ ecId' = ecId then some baseKey else none
  | _ => none

/-- The base key of the most recent call marking this pair. -/
def lastMarked (identity : IdentityType) (kyberId ecId : UInt32) (calls : List (KyberOp κ))
    : Option PublicKey :=
  calls.reverse.findSome? (marks identity kyberId ecId)

theorem lastMarked_append (identity : IdentityType) (kyberId ecId : UInt32)
    (calls : List (KyberOp κ)) (op : KyberOp κ)
    : lastMarked identity kyberId ecId (calls ++ [op])
      = (marks identity kyberId ecId op).or (lastMarked identity kyberId ecId calls) := by
  simp only [lastMarked, List.reverse_append, List.reverse_cons, List.reverse_nil,
    List.nil_append, List.cons_append, List.findSome?_cons]
  cases marks identity kyberId ecId op <;> rfl

section Step

variable {identity : IdentityType} {kyberId : UInt32} (ecId : UInt32)

/-- A change of the map elsewhere keeps the key and its dedup entry. -/
theorem kept_of_same {view view' : View} (last : LastResort format view identity kyberId)
    (atEnvelope
      : view' (envelopeSlot identity kyberId) = view (envelopeSlot identity kyberId))
    (atMeta
      : view' (metaSlot identity kyberId ecId) = view (metaSlot identity kyberId ecId))
    : LastResort format view' identity kyberId
      ∧ view' (metaSlot identity kyberId ecId) = view (metaSlot identity kyberId ecId) :=
  ⟨last.congr atEnvelope, atMeta⟩

/-- Writing another envelope keeps the key and its dedup entry. -/
theorem kept_of_update_envelope {view : View} (last : LastResort format view identity kyberId)
    {identity' : IdentityType} {id : UInt32} (other : (identity', id) ≠ (identity, kyberId))
    (value : Option Bytes)
    : let after := Function.update view (envelopeSlot identity' id) value
      LastResort format after identity kyberId
      ∧ after (metaSlot identity kyberId ecId) = view (metaSlot identity kyberId ecId) := by
  refine kept_of_same ecId last ?_ ?_
  · refine Function.update_of_ne (fun same => other ?_) _ _
    obtain ⟨identities, ids⟩ := envelopeSlot_injective same
    rw [identities, ids]
  · exact Function.update_of_ne (fun same => envelopeSlot_ne_metaSlot _ _ _ _ _ same.symm) _ _

/-- The view after any single backend call that writes other dictionaries only. -/
theorem perform_view_same (contract : KvContract β) {backend : β}
    (ready : contract.Ready backend) (op : KvOp) (slot : String × String)
    (elsewhere : writes op ≠ some slot.1)
    : contract.Ready (op.perform backend).2
      ∧ contract.view (op.perform backend).2 slot = contract.view backend slot := by
  cases op with
  | get dict key =>
      have call := contract.get ready dict key
      exact ⟨call.ready, congrFun call.view slot⟩
  | listKeys dict =>
      obtain ⟨keys, call, -⟩ := contract.listKeys ready dict
      exact ⟨call.ready, congrFun call.view slot⟩
  | put dict key value =>
      have call := contract.put ready dict key value
      refine ⟨call.ready, (congrFun call.view slot).trans (Function.update_of_ne ?_ _ _)⟩
      rintro rfl
      exact elsewhere rfl
  | delete dict key =>
      have call := contract.delete ready dict key
      refine ⟨call.ready, (congrFun call.view slot).trans (Function.update_of_ne ?_ _ _)⟩
      rintro rfl
      exact elsewhere rfl
  | deleteDict dict =>
      have call := contract.deleteDict ready dict
      refine ⟨call.ready, (congrFun call.view slot).trans ?_⟩
      exact if_neg (fun same => elsewhere (by rw [same]; rfl))

/-- One call sparing the key: it stays a last-resort key, and its dedup entry becomes the
base key of the call if that marks the pair.
-/
theorem perform_spec (contract : KvContract β) (roundTrip : format.envelope.RoundTrip)
    {backend : β} (ready : contract.Ready backend)
    (last : LastResort format (contract.view backend) identity kyberId) (op : KyberOp κ)
    (spares : Spares identity kyberId op)
    : let after := op.perform format backend
      contract.Ready after
      ∧ LastResort format (contract.view after) identity kyberId
      ∧ contract.view after (metaSlot identity kyberId ecId)
        = ((marks identity kyberId ecId op).map PublicKey.serialize).or
            (contract.view backend (metaSlot identity kyberId ecId)) := by
  intro after
  cases op with
  | getKyberPreKey identity' id =>
      obtain ⟨kept, same, -⟩ := loadEnvelope_spec contract format ready identity' id
      have left : after = (loadEnvelope format identity' id backend).2 := by
        simp only [after, perform, Kyber.getKyberPreKey]
        rcases loadEnvelope format identity' id backend with ⟨_ | _ | _, next⟩ <;> rfl
      rw [left, same]
      exact ⟨kept, last, rfl⟩
  | saveKyberPreKey identity' id record =>
      obtain ⟨kept, ⟨-, same⟩ | ⟨bytes, ser, -, -, changed⟩⟩ :=
        storeEnvelope_spec contract format ready identity' id record false
      · refine ⟨kept, last.congr (congrFun same _), congrFun same _⟩
      · obtain ⟨stays, meta'⟩ := kept_of_update_envelope ecId last spares (some bytes)
        rw [← changed] at stays meta'
        exact ⟨kept, stays, meta'⟩
  | storeLastResortKyberPreKey identity' id record =>
      obtain ⟨kept, ⟨-, same⟩ | ⟨bytes, ser, -, encoded, changed⟩⟩ :=
        storeEnvelope_spec contract format ready identity' id record true
      · refine ⟨kept, last.congr (congrFun same _), congrFun same _⟩
      · by_cases here : (identity', id) = (identity, kyberId)
        · obtain ⟨rfl, rfl⟩ := Prod.mk.inj here
          refine ⟨kept, ⟨bytes, _, ?_, roundTrip encoded, rfl⟩, ?_⟩
          · exact (congrFun changed _).trans (Function.update_self _ _ _)
          · exact (congrFun changed _).trans (Function.update_of_ne
              (fun same => envelopeSlot_ne_metaSlot _ _ _ _ _ same.symm) _ _)
        · obtain ⟨stays, meta'⟩ := kept_of_update_envelope ecId last here (some bytes)
          rw [← changed] at stays meta'
          exact ⟨kept, stays, meta'⟩
  | removeKyberPreKey identity' id =>
      obtain ⟨kept, changed⟩ := deleteProtocol_spec contract ready (dictKyberPrekey identity')
        (envelopeKey id)
      obtain ⟨stays, meta'⟩ := kept_of_update_envelope ecId last spares none
      rw [← changed] at stays meta'
      exact ⟨kept, stays, meta'⟩
  | other op =>
      obtain ⟨kept, atEnvelope⟩ := perform_view_same contract ready op
        (envelopeSlot identity kyberId) spares.1
      obtain ⟨-, atMeta⟩ := perform_view_same contract ready op
        (metaSlot identity kyberId ecId) spares.2
      exact ⟨kept, last.congr atEnvelope, atMeta⟩
  | markKyberPreKeyUsed identity' kyberId' ecId' baseKey =>
      by_cases here : identity' = identity ∧ kyberId' = kyberId ∧ ecId' = ecId
      · obtain ⟨rfl, rfl, rfl⟩ := here
        obtain ⟨kept, -, changed⟩ := mark_lastResort contract ready ecId' baseKey last
        refine ⟨kept, last.congr ?_, ?_⟩
        · exact (congrFun changed _).trans
            (Function.update_of_ne (envelopeSlot_ne_metaSlot _ _ _ _ _) _ _)
        · refine (congrFun changed _).trans ?_
          simp [marks]
      · have unmarked : marks identity kyberId ecId
            (.markKyberPreKeyUsed identity' kyberId' ecId' baseKey : KyberOp κ) = none :=
          if_neg here
        rw [unmarked, Option.map_none, Option.none_or]
        obtain ⟨kept, same | changed | ⟨oneTime, changed⟩⟩ :=
          mark_spec contract format ready identity' kyberId' ecId' baseKey
        · exact ⟨kept, kept_of_same ecId last (congrFun same _) (congrFun same _)⟩
        · refine ⟨kept, kept_of_same ecId last ?_ ?_⟩
          · exact (congrFun changed _).trans
              (Function.update_of_ne (envelopeSlot_ne_metaSlot _ _ _ _ _) _ _)
          · refine (congrFun changed _).trans (Function.update_of_ne (fun same => ?_) _ _)
            obtain ⟨identities, kyberIds, ecIds⟩ := metaSlot_injective same
            exact here ⟨identities.symm, kyberIds.symm, ecIds.symm⟩
        · have other : (identity', kyberId') ≠ (identity, kyberId) := by
            intro same
            obtain ⟨rfl, rfl⟩ := Prod.mk.inj same
            exact oneTime last
          have stays := kept_of_update_envelope ecId last other none
          rw [← changed] at stays
          exact ⟨kept, stays⟩

/-- A run sparing the key leaves the base key of its most recent mark in the dedup table,
by induction on the run from its last call.
-/
theorem run_spec (contract : KvContract β) (roundTrip : format.envelope.RoundTrip)
    (backend : β) (ready : contract.Ready backend)
    (last : LastResort format (contract.view backend) identity kyberId)
    (calls : List (KyberOp κ)) (spares : ∀ op ∈ calls, Spares identity kyberId op)
    : let after := Runs.run (perform format) backend calls
      contract.Ready after
      ∧ LastResort format (contract.view after) identity kyberId
      ∧ contract.view after (metaSlot identity kyberId ecId)
        = ((lastMarked identity kyberId ecId calls).map PublicKey.serialize).or
            (contract.view backend (metaSlot identity kyberId ecId)) := by
  induction calls using List.reverseRecOn with
  | nil => exact ⟨ready, last, rfl⟩
  | append_singleton calls op ih =>
      obtain ⟨kept, stays, entry⟩ := ih (fun other member => spares other (by simp [member]))
      obtain ⟨kept', stays', entry'⟩ := perform_spec ecId contract roundTrip kept stays op
        (spares op (by simp))
      rw [Runs.run_append]
      refine ⟨kept', stays', entry'.trans ?_⟩
      rw [entry, lastMarked_append]
      cases marks identity kyberId ecId op <;> rfl

end Step

/-- Replay protection of a last-resort key. Once a triple was accepted, a later call with
the same triple is rejected as reused if and only if the most recent call for its
(Kyber id, EC id) pair in between, if any, used the same base key.
-/
theorem replay_rejected_iff (contract : KvContract β) (format : KyberFormat κ)
    (roundTrip : format.envelope.RoundTrip) {backend : β} (ready : contract.Ready backend)
    (identity : IdentityType) (kyberId ecId : UInt32) (baseKey : PublicKey) (record : κ)
    (between later : List (KyberOp κ))
    (sparesBetween : ∀ op ∈ between, Spares identity kyberId op)
    (sparesLater : ∀ op ∈ later, Spares identity kyberId op)
    (stored : (Kyber.storeLastResortKyberPreKey format identity kyberId record backend).1
      = .ok ())
    : let start := (Kyber.storeLastResortKyberPreKey format identity kyberId record backend).2
      let accepted := Kyber.markKyberPreKeyUsed format identity kyberId ecId baseKey
        (Runs.run (perform format) start between)
      accepted.1 = .ok ()
      → ((Kyber.markKyberPreKeyUsed format identity kyberId ecId baseKey
            (Runs.run (perform format) accepted.2 later)).1 = .error reusedBaseKey
        ↔ ∀ other, lastMarked identity kyberId ecId later = some other → other = baseKey) := by
  intro start accepted _
  obtain ⟨startReady, ⟨⟨e, failed⟩, -⟩ | ⟨bytes, ser, -, encoded, changed⟩⟩ :=
    storeEnvelope_spec contract format ready identity kyberId record true
  · rw [Kyber.storeLastResortKyberPreKey, failed] at stored
    cases stored
  have startLast : LastResort format (contract.view start) identity kyberId :=
    ⟨bytes, _, (congrFun changed _).trans (Function.update_self _ _ _), roundTrip encoded, rfl⟩
  obtain ⟨markReady, markLast, -⟩ := run_spec ecId contract roundTrip start
    startReady startLast between sparesBetween
  obtain ⟨acceptedReady, -, acceptedView⟩ :=
    mark_lastResort contract markReady ecId baseKey markLast
  have acceptedLast : LastResort format (contract.view accepted.2) identity kyberId :=
    markLast.congr ((congrFun acceptedView _).trans
      (Function.update_of_ne (envelopeSlot_ne_metaSlot _ _ _ _ _) _ _))
  obtain ⟨endReady, endLast, entry⟩ := run_spec ecId contract roundTrip accepted.2
    acceptedReady acceptedLast later sparesLater
  rw [show contract.view accepted.2 = _ from acceptedView, Function.update_self] at entry
  obtain ⟨-, answer, -⟩ := mark_lastResort contract endReady ecId baseKey endLast
  rw [answer, entry]
  cases recent : lastMarked identity kyberId ecId later with
  | none => simp
  | some other =>
      have bytesEq : other.serialize = baseKey.serialize ↔ other = baseKey :=
        ⟨PublicKey.serialize_injective, fun same => by rw [same]⟩
      simp [bytesEq]

/-- A replay right after the accepted call, with another pair marked in between. -/
theorem replay_rejected_iff_immediate
    : let base : PublicKey := ⟨.replicate 32 1⟩
      let later : List (KyberOp Bytes) := [.markKyberPreKeyUsed .aci 31 14 ⟨.replicate 32 2⟩]
      let start := (Kyber.storeLastResortKyberPreKey .flagged .aci 31 []
        ({ map := ∅ } : InnerBackend)).2
      let accepted := Kyber.markKyberPreKeyUsed .flagged .aci 31 13 base start
      (Kyber.markKyberPreKeyUsed .flagged .aci 31 13 base
        (Runs.run (perform .flagged) accepted.2 later)).1 = .error reusedBaseKey := by
  intro base later start accepted
  have onlyBulk : ({ map := ∅ } : InnerBackend).plan.OnlyBulk := FaultPlan.onlyBulk_default
  have spares : ∀ op ∈ later, Spares .aci 31 op := by
    intro op member
    obtain rfl := List.mem_singleton.mp member
    trivial
  refine (replay_rejected_iff InnerBackend.contract .flagged KyberFormat.flagged_roundTrip
    onlyBulk .aci 31 13 base [] [] later (fun _ member => by cases member) spares rfl rfl).mpr ?_
  intro other marked
  cases marked

/-- A triple is accepted again once the pair was marked with another base key. -/
theorem replay_accepted_after_other_base
    : let first : PublicKey := ⟨.replicate 32 1⟩
      let second : PublicKey := ⟨.replicate 32 2⟩
      let stored := Kyber.storeLastResortKyberPreKey .flagged .aci 31 []
        ({ map := ∅ } : InnerBackend)
      let used := Kyber.markKyberPreKeyUsed .flagged .aci 31 13 first stored.2
      let between := Kyber.markKyberPreKeyUsed .flagged .aci 31 13 second used.2
      let replayed := Kyber.markKyberPreKeyUsed .flagged .aci 31 13 first between.2
      stored.1 = .ok () ∧ used.1 = .ok () ∧ between.1 = .ok () ∧ replayed.1 = .ok ()
      ∧ replayed.1 ≠ .error reusedBaseKey := by
  refine ⟨rfl, rfl, rfl, rfl, ?_⟩
  intro rejected
  cases rejected

end KyberOp

end XousAppSignal.Store
