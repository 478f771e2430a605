import XousAppSignal.Library.Listings
import XousAppSignal.Store.CallReturns
import XousAppSignal.Store.KeyDerivations
import XousAppSignal.Store.KyberReplay

/-! The life cycle of Kyber pre-keys: which ids are held, as which kind of key, after any calls,
and that every query over them reports exactly that.
-/

namespace XousAppSignal.Store

open Listings

variable {κ : Type} {format : KyberFormat κ}

/-- The serializers give Kyber records and envelopes back. -/
structure KyberFormat.Restores (format : KyberFormat κ) : Prop where
  record
    : ∀ record, ∃ bytes, format.serialize record = .ok bytes
        ∧ format.deserialize bytes = .ok record
  envelope
    : ∀ stored, ∃ bytes, format.envelope.toVec stored = .ok bytes
        ∧ format.envelope.fromSlice bytes = .ok stored

/-- A key that is held. -/
structure HeldKey (κ : Type) where
  record : κ
  isLastResort : Bool

/-- What a lookup answers. -/
def HeldKey.answer : Option (HeldKey κ) → Except SignalProtocolError κ
  | some key => .ok key.record
  | none => .error .invalidKyberPreKeyId

/-- The keys that are held, by identity and id. -/
abbrev KyberKeys (κ : Type) := IdentityType × UInt32 → Option (HeldKey κ)

namespace KyberOp

/-- What a call makes of the keys that were held. A mark uses a one-time key up. -/
def leaves (held : KyberKeys κ) : KyberOp κ → KyberKeys κ
  | .saveKyberPreKey identity id record =>
      Function.update held (identity, id) (some ⟨record, false⟩)
  | .storeLastResortKyberPreKey identity id record =>
      Function.update held (identity, id) (some ⟨record, true⟩)
  | .removeKyberPreKey identity id => Function.update held (identity, id) none
  | .markKyberPreKeyUsed identity id _ _ =>
      if (held (identity, id)).any (fun key => !key.isLastResort) then
        Function.update held (identity, id) none
      else held
  | .getKyberPreKey _ _ => held
  | .other _ => held

/-- The keys held after some calls on an empty store. -/
def held (calls : List (KyberOp κ)) : KyberKeys κ := calls.foldl leaves (fun _ => none)

theorem held_append (calls more : List (KyberOp κ))
    : held (calls ++ more) = more.foldl leaves (held calls) :=
  List.foldl_append

/-- A call of another part of the store stays out of the dictionaries of the keys. -/
def Elsewhere : KyberOp κ → Prop
  | .other op => ∀ identity, writes op ≠ some (dictKyberPrekey identity)
  | _ => True

def IsMark : KyberOp κ → Prop
  | .markKyberPreKeyUsed _ _ _ _ => True
  | _ => False

/-- Marks leave last-resort keys alone, by induction on the marks. -/
theorem foldl_leaves_lastResort {marks : List (KyberOp κ)} (onlyMarks : ∀ op ∈ marks, op.IsMark)
    {held : KyberKeys κ} {slot : IdentityType × UInt32} {record : κ}
    (here : held slot = some ⟨record, true⟩)
    : marks.foldl leaves held slot = some ⟨record, true⟩ := by
  induction marks generalizing held with
  | nil => exact here
  | cons op marks ih =>
      refine ih (fun other listed => onlyMarks other (List.mem_cons_of_mem _ listed)) ?_
      have isMark := onlyMarks op List.mem_cons_self
      cases op with
      | markKyberPreKeyUsed identity id ecId baseKey =>
          simp only [leaves]
          split
          · next oneTime =>
              have apart : slot ≠ (identity, id) := by
                rintro rfl
                rw [here] at oneTime
                cases oneTime
              rw [Function.update_of_ne apart, here]
          · exact here
      | _ => cases isMark

end KyberOp

namespace Kyber

-----------------------------------------------------------------------------------------
-- Ids as keys
-----------------------------------------------------------------------------------------

theorem fromStrRadix_envelopeKey (id : UInt32)
    : (fromStrRadix 32 10 (envelopeKey id)).map UInt32.ofNat = some id := by
  rw [envelopeKey, fromStrRadix_repr id.toNat_lt, Option.map_some, UInt32.ofNat_toNat]

/-- Keys derived from ids, listed once each, parse to the ids, once each. -/
theorem enumerates_ids {keys : List String} {members : Set String}
    (lists : Enumerates keys members) (named : ∀ key ∈ members, ∃ id, key = envelopeKey id)
    : Enumerates (keys.filterMap (fun key => (fromStrRadix 32 10 key).map UInt32.ofNat))
        {id | envelopeKey id ∈ members} := by
  have parsed := @DecimalKeys.map_parsed _
    (fun key => (fromStrRadix 32 10 key).map UInt32.ofNat) envelopeKey fromStrRadix_envelopeKey
    keys (fun key there => named key ((lists.listed key).mp there))
  refine ⟨List.Nodup.of_map _ (parsed ▸ lists.once), fun id => ?_⟩
  generalize keys.filterMap (fun key => (fromStrRadix 32 10 key).map UInt32.ofNat) = ids at parsed ⊢
  change id ∈ ids ↔ envelopeKey id ∈ members
  rw [← lists.listed, ← parsed, List.mem_map]
  refine ⟨fun there => ⟨id, there, rfl⟩, ?_⟩
  rintro ⟨other, there, same⟩
  exact UInt32.toNat_inj.mp (DecimalKeys.repr_injective same) ▸ there

-----------------------------------------------------------------------------------------
-- The store
-----------------------------------------------------------------------------------------

/-- A slot holds the envelope of this key, or there is neither. -/
inductive Row (format : KyberFormat κ) : Option Bytes → Option (HeldKey κ) → Prop where
  | absent : Row format none none
  | present {bytes record : Bytes} {key : HeldKey κ}
      (decoded : format.envelope.fromSlice bytes = .ok ⟨record, key.isLastResort⟩)
      (restored : format.deserialize record = .ok key.record)
      : Row format (some bytes) (some key)

theorem Row.isSome_eq {value : Option Bytes} {key : Option (HeldKey κ)}
    (row : Row format value key)
    : value.isSome = key.isSome := by
  cases row <;> rfl

/-- The dictionaries hold exactly these keys. -/
structure HoldsKeys (format : KyberFormat κ) (view : View) (held : KyberKeys κ) : Prop where
  rows : ∀ identity id, Row format (view (envelopeSlot identity id)) (held (identity, id))
  keys
    : ∀ identity key, (view (dictKyberPrekey identity, key)).isSome = true
        → ∃ id, key = envelopeKey id

variable {view view' : View} {held : KyberKeys κ}

/-- Only the dictionaries of the keys matter. -/
theorem HoldsKeys.congr (holds : HoldsKeys format view held)
    (same : ∀ identity key, view' (dictKyberPrekey identity, key)
      = view (dictKyberPrekey identity, key))
    : HoldsKeys format view' held where
  rows identity id := by
    rw [envelopeSlot, same]
    exact holds.rows identity id
  keys identity key present := by
    rw [same] at present
    exact holds.keys identity key present

/-- Writing or deleting one envelope. -/
theorem HoldsKeys.set (holds : HoldsKeys format view held) (identity : IdentityType)
    (id : UInt32) {value : Option Bytes} {key : Option (HeldKey κ)} (row : Row format value key)
    : HoldsKeys format (Function.update view (envelopeSlot identity id) value)
        (Function.update held (identity, id) key) where
  rows other otherId := by
    by_cases here : (other, otherId) = (identity, id)
    · obtain ⟨rfl, rfl⟩ := Prod.mk.inj here
      rw [Function.update_self, Function.update_self]
      exact row
    · have elsewhere : envelopeSlot other otherId ≠ envelopeSlot identity id := by
        intro same
        obtain ⟨identities, ids⟩ := envelopeSlot_injective same
        exact here (by rw [identities, ids])
      rw [Function.update_of_ne here, Function.update_of_ne elsewhere]
      exact holds.rows other otherId
  keys other key present := by
    by_cases here : (dictKyberPrekey other, key) = envelopeSlot identity id
    · exact ⟨id, (Prod.mk.inj here).2⟩
    · rw [Function.update_of_ne here] at present
      exact holds.keys other key present

-----------------------------------------------------------------------------------------
-- The calls
-----------------------------------------------------------------------------------------

variable {β : Type} [KvBackend β] {contract : KvContract β} {backend : β}

/-- A usable backend that holds exactly these keys. -/
structure StoresKeys (format : KyberFormat κ) (contract : KvContract β) (backend : β)
    (held : KyberKeys κ)
    : Prop where
  ready : contract.Ready backend
  holds : HoldsKeys format (contract.view backend) held

/-- An absent envelope. -/
theorem StoresKeys.load_none (stores : StoresKeys format contract backend held)
    {identity : IdentityType} {id : UInt32} (absent : held (identity, id) = none)
    : Returns contract.Ready contract.view (loadEnvelope format identity id backend) none
        (contract.view backend) := by
  have row := stores.holds.rows identity id
  rw [absent] at row
  generalize stored : contract.view backend (envelopeSlot identity id) = value at row
  cases row
  exact backendGetJsonProtocol_none stores.ready format.envelope _ stored

/-- The envelope of a key. -/
theorem StoresKeys.load_some (stores : StoresKeys format contract backend held)
    {identity : IdentityType} {id : UInt32} {key : HeldKey κ}
    (here : held (identity, id) = some key)
    : ∃ record, format.deserialize record = .ok key.record
        ∧ Returns contract.Ready contract.view (loadEnvelope format identity id backend)
          (some ⟨record, key.isLastResort⟩) (contract.view backend) := by
  have row := stores.holds.rows identity id
  rw [here] at row
  generalize stored : contract.view backend (envelopeSlot identity id) = value at row
  cases row with
  | @present bytes record _ decoded restored =>
      exact ⟨record, restored, backendGetJsonProtocol_some stores.ready _ stored decoded⟩

/-- A lookup answers with the record that is held. -/
theorem StoresKeys.get (stores : StoresKeys format contract backend held)
    (identity : IdentityType) (id : UInt32)
    : (getKyberPreKey format identity id backend).1 = HeldKey.answer (held (identity, id))
      ∧ StoresKeys format contract (getKyberPreKey format identity id backend).2 held := by
  rcases load : loadEnvelope format identity id backend with ⟨result, next⟩
  cases here : held (identity, id) with
  | none =>
      have loaded := stores.load_none here
      rw [load] at loaded
      obtain rfl : result = .ok none := loaded.result
      simp only [getKyberPreKey, load]
      exact ⟨rfl, loaded.ready, loaded.view ▸ stores.holds⟩
  | some key =>
      obtain ⟨record, restored, loaded⟩ := stores.load_some here
      rw [load] at loaded
      obtain rfl : result = .ok (some ⟨record, key.isLastResort⟩) := loaded.result
      simp only [getKyberPreKey, load, restored]
      exact ⟨rfl, loaded.ready, loaded.view ▸ stores.holds⟩

/-- Storing either kind of key. -/
theorem StoresKeys.store (stores : StoresKeys format contract backend held)
    (restores : format.Restores) (identity : IdentityType) (id : UInt32) (record : κ)
    (isLastResort : Bool)
    : (storeEnvelope format identity id record isLastResort backend).1 = .ok ()
      ∧ StoresKeys format contract (storeEnvelope format identity id record isLastResort backend).2
        (Function.update held (identity, id) (some ⟨record, isLastResort⟩)) := by
  obtain ⟨inner, serialized, restored⟩ := restores.record record
  obtain ⟨bytes, encoded, decoded⟩ := restores.envelope ⟨inner, isLastResort⟩
  have stored := backendPutJsonProtocol_returns stores.ready (dictKyberPrekey identity)
    (envelopeKey id) "encode kyber envelope" encoded
  simp only [storeEnvelope, serialized]
  refine ⟨stored.result, stored.ready, ?_⟩
  rw [stored.view]
  exact stores.holds.set identity id (.present decoded restored)

theorem StoresKeys.remove (stores : StoresKeys format contract backend held)
    (identity : IdentityType) (id : UInt32)
    : (removeKyberPreKey identity id backend).1 = .ok ()
      ∧ StoresKeys format contract (removeKyberPreKey identity id backend).2
        (Function.update held (identity, id) none) := by
  have gone := backendDeleteProtocol_returns stores.ready (dictKyberPrekey identity)
    (envelopeKey id)
  refine ⟨gone.result, gone.ready, ?_⟩
  rw [removeKyberPreKey, gone.view]
  exact stores.holds.set identity id .absent

/-- A mark on an absent id fails and changes nothing. -/
theorem StoresKeys.mark_absent (stores : StoresKeys format contract backend held)
    {identity : IdentityType} {id : UInt32} (absent : held (identity, id) = none)
    (ecId : UInt32) (baseKey : PublicKey)
    : (markKyberPreKeyUsed format identity id ecId baseKey backend).1
        = .error .invalidKyberPreKeyId
      ∧ contract.Ready (markKyberPreKeyUsed format identity id ecId baseKey backend).2
      ∧ contract.view (markKyberPreKeyUsed format identity id ecId baseKey backend).2
        = contract.view backend := by
  have loaded := stores.load_none absent
  rcases load : loadEnvelope format identity id backend with ⟨result, next⟩
  rw [load] at loaded
  obtain rfl : result = .ok none := loaded.result
  simp only [markKyberPreKeyUsed, load]
  exact ⟨trivial, loaded.ready, loaded.view⟩

/-- A mark uses a one-time key up. -/
theorem StoresKeys.mark_oneTime (stores : StoresKeys format contract backend held)
    {identity : IdentityType} {id : UInt32} {record : κ}
    (here : held (identity, id) = some ⟨record, false⟩) (ecId : UInt32) (baseKey : PublicKey)
    : Returns contract.Ready contract.view
        (markKyberPreKeyUsed format identity id ecId baseKey backend) ()
        (Function.update (contract.view backend) (envelopeSlot identity id) none) := by
  obtain ⟨inner, -, loaded⟩ := stores.load_some here
  rcases load : loadEnvelope format identity id backend with ⟨result, next⟩
  rw [load] at loaded
  obtain rfl : result = .ok (some ⟨inner, false⟩) := loaded.result
  have gone := backendDeleteProtocol_returns loaded.ready (dictKyberPrekey identity)
    (envelopeKey id)
  rw [loaded.view] at gone
  simp only [markKyberPreKeyUsed, load, Bool.false_eq_true, if_false]
  exact gone

/-- A held last-resort key is stored as one. -/
theorem StoresKeys.lastResort (stores : StoresKeys format contract backend held)
    {identity : IdentityType} {id : UInt32} {record : κ}
    (here : held (identity, id) = some ⟨record, true⟩)
    : LastResort format (contract.view backend) identity id := by
  have row := stores.holds.rows identity id
  rw [here] at row
  generalize stored : contract.view backend (envelopeSlot identity id) = value at row
  cases row with
  | @present bytes inner _ decoded restored => exact ⟨bytes, ⟨inner, true⟩, stored, decoded, rfl⟩

/-- A mark of any key. -/
theorem StoresKeys.mark (stores : StoresKeys format contract backend held)
    (identity : IdentityType) (id ecId : UInt32) (baseKey : PublicKey)
    : StoresKeys format contract (markKyberPreKeyUsed format identity id ecId baseKey backend).2
        (KyberOp.leaves held (.markKyberPreKeyUsed identity id ecId baseKey)) := by
  simp only [KyberOp.leaves]
  rcases here : held (identity, id) with _ | ⟨record, _ | _⟩
  · obtain ⟨-, ready, same⟩ := stores.mark_absent here ecId baseKey
    exact ⟨ready, same ▸ stores.holds⟩
  · have gone := stores.mark_oneTime here ecId baseKey
    refine ⟨gone.ready, ?_⟩
    rw [gone.view]
    exact stores.holds.set identity id .absent
  · obtain ⟨ready, -, changed⟩ :=
      mark_lastResort contract stores.ready ecId baseKey (stores.lastResort here)
    refine ⟨ready, stores.holds.congr fun other key => ?_⟩
    rw [changed, Function.update_of_ne fun same =>
      dictKyberPrekey_ne_meta other identity (congrArg Prod.fst same)]

/-- One call. -/
theorem StoresKeys.perform (stores : StoresKeys format contract backend held)
    (restores : format.Restores) {op : KyberOp κ} (elsewhere : op.Elsewhere)
    : StoresKeys format contract (op.perform format backend) (op.leaves held) := by
  cases op with
  | getKyberPreKey identity id => exact (stores.get identity id).2
  | saveKyberPreKey identity id record =>
      exact (stores.store restores identity id record false).2
  | storeLastResortKyberPreKey identity id record =>
      exact (stores.store restores identity id record true).2
  | removeKyberPreKey identity id => exact (stores.remove identity id).2
  | markKyberPreKeyUsed identity id ecId baseKey => exact stores.mark identity id ecId baseKey
  | other op =>
      have same (identity : IdentityType) (key : String) :=
        KyberOp.perform_view_same contract stores.ready op (dictKyberPrekey identity, key)
          (elsewhere identity)
      exact ⟨(same .aci "").1, stores.holds.congr fun identity key => (same identity key).2⟩

/-- A whole run. -/
theorem StoresKeys.run {calls : List (KyberOp κ)}
    (stores : StoresKeys format contract backend (KyberOp.held []))
    (restores : format.Restores) (elsewhere : ∀ op ∈ calls, op.Elsewhere)
    : StoresKeys format contract (Runs.run (KyberOp.perform format) backend calls)
        (KyberOp.held calls) :=
  Runs.run_related (fun op listed _ _ stores => stores.perform restores (elsewhere op listed))
    stores

-----------------------------------------------------------------------------------------
-- The queries
-----------------------------------------------------------------------------------------

/-- The ids under which an identity holds keys. -/
def heldIds (held : KyberKeys κ) (identity : IdentityType) : Set UInt32 :=
  {id | (held (identity, id)).isSome = true}

/-- The ids under which an identity holds last-resort keys. -/
def heldLastResort (held : KyberKeys κ) (identity : IdentityType) : Set UInt32 :=
  {id | (held (identity, id)).any HeldKey.isLastResort = true}

/-- The ids are listed once each, and no others. -/
theorem StoresKeys.listed (stores : StoresKeys format contract backend held)
    (identity : IdentityType)
    : ∃ ids : List UInt32,
        Returns contract.Ready contract.view
          (Records.onProtocol (listKeysAsU32s (dictKyberPrekey identity)) backend) ids
          (contract.view backend)
        ∧ Enumerates ids (heldIds held identity) := by
  obtain ⟨keys, listed, once, members⟩ :=
    contract.listKeys stores.ready (dictKyberPrekey identity)
  have lists := enumerates_ids ⟨once, members⟩
    (fun key present => stores.holds.keys identity key present)
  refine ⟨_, (listed.map _).mapError _, lists.once, fun id => ?_⟩
  rw [lists.listed]
  change (contract.view backend (envelopeSlot identity id)).isSome = true
    ↔ (held (identity, id)).isSome = true
  rw [(stores.holds.rows identity id).isSome_eq]

/-- Among the held ids, those of last-resort keys. -/
theorem heldLastResort_eq (held : KyberKeys κ) (identity : IdentityType)
    : {id ∈ heldIds held identity | (held (identity, id)).any HeldKey.isLastResort = true}
      = heldLastResort held identity := by
  ext id
  change (held (identity, id)).isSome = true ∧ (held (identity, id)).any _ = true
    ↔ (held (identity, id)).any _ = true
  cases held (identity, id) <;> simp

theorem filterMap_ite {α : Type} (p : α → Bool) (items : List α)
    : items.filterMap (id ∘ fun item => if p item then some item else none)
      = items.filter p := by
  rw [← List.filterMap_eq_filter]
  rfl

variable {presage : Presage} {held : KyberKeys presage.KyberPreKeyRecord}

/-- The last-resort ids are listed once each, and no others. -/
theorem StoresKeys.lastResorts (stores : StoresKeys presage.kyber contract backend held)
    (identity : IdentityType)
    : ∃ ids : List UInt32,
        Returns contract.Ready contract.view (Records.lastResortIds presage identity backend) ids
          (contract.view backend)
        ∧ Enumerates ids (heldLastResort held identity) := by
  obtain ⟨ids, listed, lists⟩ := stores.listed identity
  let isLastResort (id : UInt32) : Bool := (held (identity, id)).any HeldKey.isLastResort
  let named (id : UInt32) (envelope : Option KyberStored) :=
    if envelope.any KyberStored.isLastResort then some id else none
  have each : ∀ id ∈ ids, ∀ {next}, contract.Ready next
      → contract.view next = contract.view backend
      → Returns contract.Ready contract.view
        (Attempt.map (named id) (loadEnvelope presage.kyber identity id) next)
        (if isLastResort id then some id else none) (contract.view backend) := by
    intro id _ next ready same
    have there : StoresKeys presage.kyber contract next held := ⟨ready, same ▸ stores.holds⟩
    cases here : held (identity, id) with
    | none =>
        have loaded := (there.load_none here).map (named id)
        simpa only [named, isLastResort, here, Option.any_none, same] using loaded
    | some key =>
        obtain ⟨record, -, found⟩ := there.load_some here
        have loaded := found.map (named id)
        simpa only [named, isLastResort, here, Option.any_some, same] using loaded
  refine ⟨ids.filter isLastResort, listed.andThen fun ready same => ?_,
    heldLastResort_eq held identity ▸ lists.filter isLastResort⟩
  have collected := (Returns.collect each ready same).map (List.filterMap id)
  rwa [List.filterMap_map, filterMap_ite] at collected

/-- The step of the loading loop: the record of an id whose key is a last-resort one. -/
theorem StoresKeys.loadLastResort_step
    (stores : StoresKeys presage.kyber contract backend held) (identity : IdentityType)
    (id : UInt32)
    : Returns contract.Ready contract.view
        (Attempt.andThen (loadEnvelope presage.kyber identity id) (fun
          | some ⟨record, true⟩ =>
              Attempt.lift ((presage.kyber.deserialize record).map some)
          | _ => Attempt.lift (.ok none)) backend)
        (if (held (identity, id)).any HeldKey.isLastResort
          then (held (identity, id)).map HeldKey.record else none)
        (contract.view backend) := by
  rcases here : held (identity, id) with _ | ⟨record, _ | _⟩
  · exact (stores.load_none here).andThen fun ready same => Returns.lift ready same
  · obtain ⟨inner, -, loaded⟩ := stores.load_some here
    exact loaded.andThen fun ready same => Returns.lift ready same
  · obtain ⟨inner, restored, loaded⟩ := stores.load_some here
    refine loaded.andThen fun ready same => ?_
    simp only [restored]
    exact Returns.lift ready same

/-- The last-resort records are loaded, one for each id. -/
theorem StoresKeys.loadLastResort (stores : StoresKeys presage.kyber contract backend held)
    (identity : IdentityType)
    : ∃ ids : List UInt32,
        (Records.loadLastResortKyberPreKeys presage identity backend).1
          = .ok (ids.filterMap (fun id => (held (identity, id)).map HeldKey.record))
        ∧ Enumerates ids (heldLastResort held identity) := by
  obtain ⟨ids, listed, lists⟩ := stores.listed identity
  let isLastResort (id : UInt32) : Bool := (held (identity, id)).any HeldKey.isLastResort
  let found (id : UInt32) :=
    if isLastResort id then (held (identity, id)).map HeldKey.record else none
  refine ⟨ids.filter isLastResort, ?_,
    heldLastResort_eq held identity ▸ lists.filter isLastResort⟩
  have loaded : Returns contract.Ready contract.view
      (Records.loadLastResortKyberPreKeys presage identity backend)
      ((ids.map found).filterMap id) (contract.view backend) := by
    refine listed.andThen fun ready same => (Returns.collect ?_ ready same).map _
    intro id _ next ready shows
    have there : StoresKeys presage.kyber contract next held := ⟨ready, shows ▸ stores.holds⟩
    exact shows ▸ there.loadLastResort_step identity id
  rw [loaded.result, List.filterMap_map, List.filterMap_filter]
  rfl

/-- What the queries over an identity's keys answer: the last-resort records, one for each id;
how many ids there are, in all and for last-resort keys; the greatest last-resort id; and one
above the greatest id, or 1, where that is a `u32`.
-/
structure Reports (presage : Presage) (identity : IdentityType) (backend : β)
    (held : KyberKeys presage.KyberPreKeyRecord)
    : Prop where
  lastResort
    : ∃ ids : List UInt32,
        (Records.loadLastResortKyberPreKeys presage identity backend).1
          = .ok (ids.filterMap (fun id => (held (identity, id)).map HeldKey.record))
        ∧ Enumerates ids (heldLastResort held identity)
  count
    : (Records.countKyberPreKeys presage identity false backend).1
      = .ok (heldIds held identity).ncard
  countLastResort
    : (Records.countKyberPreKeys presage identity true backend).1
      = .ok (heldLastResort held identity).ncard
  lastResortId
    : ∃ top, (Records.maxLastResortKyberPreKeyId presage identity backend).1 = .ok top
        ∧ Greatest (heldLastResort held identity) top
  next
    : (∀ id ∈ heldIds held identity, id.toNat + 1 < 2 ^ 32)
      → ∃ top next, (Records.nextPqPreKeyId identity backend).1 = .ok (some next)
        ∧ Greatest (heldIds held identity) top
        ∧ next.toNat = top.elim 1 (fun id => id.toNat + 1)

theorem nextId_greatest {ids : Set UInt32} {top : Option UInt32} (greatest : Greatest ids top)
    (small : ∀ id ∈ ids, id.toNat + 1 < 2 ^ 32)
    : ∃ next, Records.nextId top = some next
        ∧ next.toNat = top.elim 1 (fun id => id.toNat + 1) := by
  cases greatest with
  | none empty => exact ⟨1, rfl, rfl⟩
  | @some id greatest =>
      have fits := small id greatest.1
      refine ⟨id + 1, if_pos fits, ?_⟩
      rw [UInt32.toNat_add]
      exact Nat.mod_eq_of_lt fits

theorem StoresKeys.reports (stores : StoresKeys presage.kyber contract backend held)
    (identity : IdentityType)
    : Reports presage identity backend held where
  lastResort := stores.loadLastResort identity
  count := by
    obtain ⟨ids, listed, lists⟩ := stores.listed identity
    rw [← lists.length_eq]
    exact (listed.map List.length).result
  countLastResort := by
    obtain ⟨ids, listed, lists⟩ := stores.lastResorts identity
    rw [← lists.length_eq]
    exact (listed.map List.length).result
  lastResortId := by
    obtain ⟨ids, listed, lists⟩ := stores.lastResorts identity
    exact ⟨_, (listed.map List.max?).result, lists.max?⟩
  next small := by
    obtain ⟨ids, listed, lists⟩ := stores.listed identity
    have answered := ((listed.map List.max?).map Records.nextId).result
    obtain ⟨next, above, value⟩ := nextId_greatest lists.max? small
    rw [above] at answered
    exact ⟨_, next, answered, lists.max?, value⟩

/-- A backend that does not fail and holds no Kyber pre-keys yet, and serializers that give
records and envelopes back. After any calls on the Kyber pre-keys, and others that stay out of
their dictionaries, a lookup returns the record last stored under an id, if it was neither
removed nor, as a one-time key, marked since, and else `InvalidKyberPreKeyId`; a mark of a
one-time key succeeds, and one of an absent id fails and changes nothing; a last-resort key
survives any marks; and the queries report exactly what is held.
-/
theorem kyber_life_cycle (ready : contract.Ready backend) (restores : presage.kyber.Restores)
    (empty : ∀ identity key, contract.view backend (dictKyberPrekey identity, key) = none)
    (calls : List (KyberOp presage.KyberPreKeyRecord))
    (elsewhere : ∀ op ∈ calls, op.Elsewhere) (identity : IdentityType)
    : let store := Runs.run (KyberOp.perform presage.kyber) backend calls
      let held := KyberOp.held calls
      (∀ id, (getKyberPreKey presage.kyber identity id store).1
        = HeldKey.answer (held (identity, id)))
      ∧ (∀ id ecId baseKey record, held (identity, id) = some ⟨record, false⟩
          → (markKyberPreKeyUsed presage.kyber identity id ecId baseKey store).1 = .ok ())
      ∧ (∀ id ecId baseKey, held (identity, id) = none
          → (markKyberPreKeyUsed presage.kyber identity id ecId baseKey store).1
              = .error .invalidKyberPreKeyId
            ∧ contract.view (markKyberPreKeyUsed presage.kyber identity id ecId baseKey store).2
              = contract.view store)
      ∧ (∀ id record marks, held (identity, id) = some ⟨record, true⟩
          → (∀ op ∈ marks, op.IsMark)
          → (getKyberPreKey presage.kyber identity id
              (Runs.run (KyberOp.perform presage.kyber) store marks)).1
            = .ok record)
      ∧ Reports presage identity store held := by
  intro store held
  have start : StoresKeys presage.kyber contract backend (KyberOp.held []) := by
    refine ⟨ready, fun identity id => ?_, fun identity key present => ?_⟩
    · rw [envelopeSlot, empty]
      exact .absent
    · rw [empty] at present
      cases present
  have stores : StoresKeys presage.kyber contract store held := start.run restores elsewhere
  refine ⟨fun id => (stores.get identity id).1,
    fun id ecId baseKey record here => (stores.mark_oneTime here ecId baseKey).result,
    fun id ecId baseKey absent => ?_, fun id record marks here onlyMarks => ?_,
    stores.reports identity⟩
  · obtain ⟨failed, -, same⟩ := stores.mark_absent absent ecId baseKey
    exact ⟨failed, same⟩
  · have all : ∀ op ∈ calls ++ marks, op.Elsewhere := by
      intro op listed
      rcases List.mem_append.mp listed with earlier | later
      · exact elsewhere op earlier
      · have isMark := onlyMarks op later
        cases op with
        | markKyberPreKeyUsed identity id ecId baseKey => trivial
        | _ => cases isMark
    have still := ((start.run restores all).get identity id).1
    rw [KyberOp.held_append, KyberOp.foldl_leaves_lastResort onlyMarks here,
      Runs.run_append] at still
    exact still

end Kyber

theorem flagged_restores : KyberFormat.flagged.Restores where
  record record := ⟨record, rfl, rfl⟩
  envelope _ := ⟨_, rfl, KyberFormat.flagged_roundTrip rfl⟩

/-- A one-time key is stored and used up, and a last-resort key is marked twice with the same
base key.
-/
theorem Kyber.kyber_life_cycle_marked
    : let baseKey : PublicKey := ⟨.replicate 32 7⟩
      let calls : List (KyberOp Presage.plain.KyberPreKeyRecord) :=
        [.saveKyberPreKey .aci 11 [1], .storeLastResortKyberPreKey .aci 31 [2],
          .markKyberPreKeyUsed .aci 11 13 baseKey, .markKyberPreKeyUsed .aci 31 13 baseKey,
          .markKyberPreKeyUsed .aci 31 13 baseKey]
      let store : InnerBackend :=
        Runs.run (KyberOp.perform Presage.plain.kyber) { map := ∅ } calls
      (Kyber.getKyberPreKey Presage.plain.kyber .aci 11 store).1 = .error .invalidKyberPreKeyId
      ∧ (Kyber.getKyberPreKey Presage.plain.kyber .aci 31 store).1 = .ok [2]
      ∧ (Records.countKyberPreKeys Presage.plain .aci true store).1
        = .ok (Kyber.heldLastResort (KyberOp.held calls) .aci).ncard := by
  intro baseKey calls store
  have ready : InnerBackend.contract.Ready { map := ∅ } := FaultPlan.onlyBulk_default
  have elsewhere : ∀ op ∈ calls, op.Elsewhere := by
    intro op listed
    simp only [calls, List.mem_cons, List.not_mem_nil, or_false] at listed
    rcases listed with rfl | rfl | rfl | rfl | rfl <;> trivial
  obtain ⟨answers, -, -, -, reports⟩ :=
    Kyber.kyber_life_cycle ready flagged_restores (fun _ _ => rfl) calls elsewhere .aci
  exact ⟨answers 11, answers 31, reports.countLastResort⟩

end XousAppSignal.Store
