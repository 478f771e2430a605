import XousAppSignal.Library.Bincode
import XousAppSignal.Library.PackedRecords
import XousAppSignal.Library.Runs
import XousAppSignal.Store.CallReturns

/-! The packed one-time pre-keys as a finite map. Each call rewrites the whole vector, and
changes one entry of the map at most.
-/

namespace XousAppSignal.Store

/-- The serializers give pre-key records and packed vectors back. -/
structure Presage.RestoresPreKeys (presage : Presage) : Prop where
  bundle
    : ∀ bundle, ∃ bytes, presage.preKeyBundle.toVec bundle = .ok bytes
        ∧ presage.preKeyBundle.fromSlice bytes = .ok bundle
  record
    : ∀ record, ∃ bytes, presage.preKeyRecord.serialize record = .ok bytes
        ∧ presage.preKeyRecord.deserialize bytes = .ok record

/-- The calls on the one-time pre-keys. -/
inductive PreKeyOp (presage : Presage) where
  | save (identity : IdentityType) (id : UInt32) (record : presage.PreKeyRecord)
  | remove (identity : IdentityType) (id : UInt32)
  | get (identity : IdentityType) (id : UInt32)

/-- The records that are held, by identity and id. -/
abbrev PreKeys (presage : Presage) := IdentityType × UInt32 → Option presage.PreKeyRecord

namespace PreKeyOp

variable {presage : Presage} {β : Type} [KvBackend β]

def slot : PreKeyOp presage → IdentityType × UInt32
  | .save identity id _ => (identity, id)
  | .remove identity id => (identity, id)
  | .get identity id => (identity, id)

/-- The store after a call. -/
def perform (backend : β) : PreKeyOp presage → β
  | .save identity id record => (Records.savePreKey presage identity id record backend).2
  | .remove identity id => (Records.removePreKey presage identity id backend).2
  | .get identity id => (Records.getPreKey presage identity id backend).2

/-- What a call makes of the records that were held. -/
def leaves (held : PreKeys presage) : PreKeyOp presage → PreKeys presage
  | .save identity id record => Function.update held (identity, id) (some record)
  | .remove identity id => Function.update held (identity, id) none
  | .get _ _ => held

theorem leaves_other {op : PreKeyOp presage} {slot : IdentityType × UInt32}
    (other : op.slot ≠ slot) (held : PreKeys presage)
    : op.leaves held slot = held slot := by
  cases op with
  | save identity id record => exact Function.update_of_ne other.symm _ _
  | remove identity id => exact Function.update_of_ne other.symm _ _
  | get identity id => rfl

end PreKeyOp

/-- The records last saved and not removed since. -/
def PreKeyOp.held {presage : Presage} (ops : List (PreKeyOp presage)) : PreKeys presage :=
  ops.foldl PreKeyOp.leaves (fun _ => none)

namespace Records

-----------------------------------------------------------------------------------------
-- The packed vector
-----------------------------------------------------------------------------------------

section Entries

variable {bundle : List (UInt32 × Bytes)} {id other : UInt32} {bytes : Bytes}

/-- Setting an entry is an update of the lookup, by induction on the entries. -/
theorem find?_setEntry
    : (setEntry id bytes bundle).find? (fun entry => entry.1 = other)
      = if other = id then some (id, bytes) else bundle.find? (fun entry => entry.1 = other) := by
  induction bundle with
  | nil =>
      rw [setEntry, List.find?_cons, List.find?_nil]
      by_cases same : id = other
      · simp [same]
      · simp [same, Ne.symm same]
  | cons entry rest ih =>
      rw [setEntry]
      by_cases found : entry.1 = id
      · rw [if_pos found, List.find?_cons, List.find?_cons, found]
        by_cases same : id = other
        · simp [same]
        · simp [same, Ne.symm same]
      · rw [if_neg found, List.find?_cons, List.find?_cons, ih]
        by_cases same : entry.1 = other
        · have apart : ¬ other = id := fun h => found (same.trans h)
          simp [same, apart]
        · simp [same]

theorem mem_keys_setEntry
    : other ∈ (setEntry id bytes bundle).map Prod.fst
      ↔ other = id ∨ other ∈ bundle.map Prod.fst := by
  induction bundle with
  | nil => simp [setEntry]
  | cons entry rest ih =>
      rw [setEntry]
      by_cases found : entry.1 = id
      · rw [if_pos found, List.map_cons, List.map_cons, List.mem_cons, List.mem_cons, found]
        tauto
      · rw [if_neg found, List.map_cons, List.map_cons, List.mem_cons, List.mem_cons, ih]
        tauto

/-- Setting an entry keeps the ids apart, by induction on the entries. -/
theorem nodup_setEntry (apart : (bundle.map Prod.fst).Nodup)
    : ((setEntry id bytes bundle).map Prod.fst).Nodup := by
  induction bundle with
  | nil => simp [setEntry]
  | cons entry rest ih =>
      rw [List.map_cons, List.nodup_cons] at apart
      rw [setEntry]
      by_cases found : entry.1 = id
      · rw [if_pos found, List.map_cons, List.nodup_cons, ← found]
        exact apart
      · rw [if_neg found, List.map_cons, List.nodup_cons, mem_keys_setEntry]
        exact ⟨not_or.mpr ⟨found, apart.1⟩, ih apart.2⟩

/-- Dropping an id drops it from the lookup, by induction on the entries. -/
theorem find?_filter_ne
    : (bundle.filter (fun entry => entry.1 ≠ id)).find? (fun entry => entry.1 = other)
      = if other = id then none else bundle.find? (fun entry => entry.1 = other) := by
  induction bundle with
  | nil => simp
  | cons entry rest ih =>
      by_cases dropped : entry.1 = id
      · rw [List.filter_cons_of_neg (by simp [dropped]), ih, List.find?_cons, dropped]
        by_cases same : id = other
        · simp [same]
        · simp [same]
      · rw [List.filter_cons_of_pos (by simp [dropped]), List.find?_cons, List.find?_cons, ih]
        by_cases same : entry.1 = other
        · have apart : ¬ other = id := fun h => dropped (same.trans h)
          simp [same, apart]
        · simp [same]

theorem nodup_filter_ne (apart : (bundle.map Prod.fst).Nodup)
    : ((bundle.filter (fun entry => entry.1 ≠ id)).map Prod.fst).Nodup :=
  (List.filter_sublist.map Prod.fst).nodup apart

end Entries

/-- A packed vector holds exactly these records, one entry for each id. -/
structure Bundled (presage : Presage) (bundle : List (UInt32 × Bytes))
    (held : UInt32 → Option presage.PreKeyRecord)
    : Prop where
  apart : (bundle.map Prod.fst).Nodup
  rows
    : ∀ id,
        (bundle.find? (fun entry => entry.1 = id)).map
            (fun entry => presage.preKeyRecord.deserialize entry.2)
          = (held id).map .ok

variable {presage : Presage}

theorem Bundled.set {bundle : List (UInt32 × Bytes)} {held : UInt32 → Option presage.PreKeyRecord}
    (bundled : Bundled presage bundle held) (id : UInt32) {bytes : Bytes}
    {record : presage.PreKeyRecord}
    (decoded : presage.preKeyRecord.deserialize bytes = .ok record)
    : Bundled presage (setEntry id bytes bundle) (Function.update held id (some record)) where
  apart := nodup_setEntry bundled.apart
  rows other := by
    rw [find?_setEntry]
    by_cases same : other = id
    · rw [if_pos same, same, Function.update_self, Option.map_some, decoded]
      rfl
    · rw [if_neg same, Function.update_of_ne same]
      exact bundled.rows other

theorem Bundled.remove {bundle : List (UInt32 × Bytes)}
    {held : UInt32 → Option presage.PreKeyRecord} (bundled : Bundled presage bundle held)
    (id : UInt32)
    : Bundled presage (bundle.filter (fun entry => entry.1 ≠ id))
        (Function.update held id none) where
  apart := nodup_filter_ne bundled.apart
  rows other := by
    rw [find?_filter_ne]
    by_cases same : other = id
    · rw [if_pos same, same, Function.update_self]
      rfl
    · rw [if_neg same, Function.update_of_ne same]
      exact bundled.rows other

-----------------------------------------------------------------------------------------
-- The store
-----------------------------------------------------------------------------------------

abbrev bundleSlot (identity : IdentityType) : String × String :=
  (dictPrekeyBundle identity, prekeyBundleKey)

theorem bundleSlot_injective {left right : IdentityType}
    (same : bundleSlot left = bundleSlot right)
    : left = right := by
  have dicts := (Prod.mk.inj same).1
  revert dicts
  cases left <;> cases right <;> decide

/-- The slot holds this vector, or is empty and the vector is. -/
def Stores (presage : Presage) (value : Option Bytes) (bundle : List (UInt32 × Bytes)) : Prop :=
  value = none ∧ bundle = []
  ∨ ∃ bytes, value = some bytes ∧ presage.preKeyBundle.fromSlice bytes = .ok bundle

variable {β : Type} [KvBackend β] {contract : KvContract β} {backend : β}
  {held : PreKeys presage}

/-- A usable backend whose two packed vectors hold exactly these records. -/
structure HoldsPreKeys (contract : KvContract β) (backend : β) (held : PreKeys presage) : Prop
    where
  ready : contract.Ready backend
  bundles
    : ∀ identity, ∃ bundle, Stores presage (contract.view backend (bundleSlot identity)) bundle
        ∧ Bundled presage bundle (fun id => held (identity, id))

/-- Loading returns the vector and leaves the map alone. -/
theorem loadBundle_returns (ready : contract.Ready backend) {identity : IdentityType}
    {bundle : List (UInt32 × Bytes)}
    (stores : Stores presage (contract.view backend (bundleSlot identity)) bundle)
    : Returns contract.Ready contract.view (loadBundle presage identity backend) bundle
        (contract.view backend) := by
  rcases stores with ⟨absent, rfl⟩ | ⟨bytes, stored, decoded⟩
  · exact (backendGetJsonProtocol_none ready presage.preKeyBundle _ absent).map _
  · exact (backendGetJsonProtocol_some ready _ stored decoded).map _

/-- Rewriting one vector leaves the other identity's records alone. -/
theorem HoldsPreKeys.rewrite (holds : HoldsPreKeys contract backend held)
    (restores : presage.RestoresPreKeys) {identity : IdentityType}
    {bundle : List (UInt32 × Bytes)} {held' : PreKeys presage}
    (bundled : Bundled presage bundle (fun id => held' (identity, id)))
    (others : ∀ slot, slot.1 ≠ identity → held' slot = held slot)
    {next : β} (ready : contract.Ready next) (shows : contract.view next = contract.view backend)
    : (saveBundle presage identity bundle next).1 = .ok ()
      ∧ HoldsPreKeys contract (saveBundle presage identity bundle next).2 held' := by
  obtain ⟨bytes, encoded, decoded⟩ := restores.bundle bundle
  have saved := backendPutJsonProtocol_returns ready (dictPrekeyBundle identity)
    prekeyBundleKey "encode prekey bundle" encoded
  refine ⟨saved.result, saved.ready, fun other => ?_⟩
  rw [saveBundle, saved.view]
  by_cases same : other = identity
  · subst same
    rw [Function.update_self]
    exact ⟨bundle, .inr ⟨bytes, rfl, decoded⟩, bundled⟩
  · rw [Function.update_of_ne fun slots => same (bundleSlot_injective slots), shows]
    obtain ⟨kept, stores, rows⟩ := holds.bundles other
    refine ⟨kept, stores, ?_⟩
    rwa [show (fun id => held' (other, id)) = fun id => held (other, id) from
      funext fun id => others (other, id) same]

/-- Updating one id of one identity. -/
theorem update_slot (held : PreKeys presage) (identity : IdentityType) (id : UInt32)
    (value : Option presage.PreKeyRecord)
    : (fun other => Function.update held (identity, id) value (identity, other))
      = Function.update (fun other => held (identity, other)) id value := by
  funext other
  by_cases same : other = id
  · rw [same, Function.update_self, Function.update_self]
  · rw [Function.update_of_ne same, Function.update_of_ne fun slots => same (Prod.mk.inj slots).2]

theorem update_elsewhere (held : PreKeys presage) {identity : IdentityType} (id : UInt32)
    (value : Option presage.PreKeyRecord)
    : ∀ slot : IdentityType × UInt32, slot.1 ≠ identity
        → Function.update held (identity, id) value slot = held slot :=
  fun _ other => Function.update_of_ne (fun same => other (congrArg Prod.fst same)) _ _

theorem savePreKey_holds (holds : HoldsPreKeys contract backend held)
    (restores : presage.RestoresPreKeys) (identity : IdentityType) (id : UInt32)
    (record : presage.PreKeyRecord)
    : (savePreKey presage identity id record backend).1 = .ok ()
      ∧ HoldsPreKeys contract (savePreKey presage identity id record backend).2
        (Function.update held (identity, id) (some record)) := by
  obtain ⟨bytes, serialized, decoded⟩ := restores.record record
  obtain ⟨bundle, stores, bundled⟩ := holds.bundles identity
  have loaded := loadBundle_returns holds.ready stores
  rcases load : loadBundle presage identity backend with ⟨result, next⟩
  rw [load] at loaded
  obtain rfl : result = .ok bundle := loaded.result
  simp only [savePreKey, Attempt.andThen, Attempt.lift, serialized, load]
  exact holds.rewrite restores (by rw [update_slot]; exact bundled.set id decoded)
    (update_elsewhere held id _) loaded.ready loaded.view

theorem removePreKey_holds (holds : HoldsPreKeys contract backend held)
    (restores : presage.RestoresPreKeys) (identity : IdentityType) (id : UInt32)
    : (removePreKey presage identity id backend).1 = .ok ()
      ∧ HoldsPreKeys contract (removePreKey presage identity id backend).2
        (Function.update held (identity, id) none) := by
  obtain ⟨bundle, stores, bundled⟩ := holds.bundles identity
  have loaded := loadBundle_returns holds.ready stores
  rcases load : loadBundle presage identity backend with ⟨result, next⟩
  rw [load] at loaded
  obtain rfl : result = .ok bundle := loaded.result
  simp only [removePreKey, Attempt.andThen, load]
  exact holds.rewrite restores (by rw [update_slot]; exact bundled.remove id)
    (update_elsewhere held id _) loaded.ready loaded.view

/-- A lookup answers with the record that is held. -/
theorem getPreKey_answers (holds : HoldsPreKeys contract backend held)
    (identity : IdentityType) (id : UInt32)
    : (getPreKey presage identity id backend).1
        = (match held (identity, id) with
          | some record => .ok record
          | none => .error .invalidPreKeyId)
      ∧ HoldsPreKeys contract (getPreKey presage identity id backend).2 held := by
  obtain ⟨bundle, stores, bundled⟩ := holds.bundles identity
  have loaded := loadBundle_returns holds.ready stores
  rcases load : loadBundle presage identity backend with ⟨result, next⟩
  rw [load] at loaded
  obtain rfl : result = .ok bundle := loaded.result
  have kept : HoldsPreKeys contract next held := by
    refine ⟨loaded.ready, ?_⟩
    rw [loaded.view]
    exact holds.bundles
  have row := bundled.rows id
  simp only [getPreKey, Attempt.andThen, load]
  cases found : bundle.find? (fun entry => entry.1 = id) with
  | none =>
      rw [found] at row
      rw [Option.map_eq_none_iff.mp row.symm]
      exact ⟨rfl, kept⟩
  | some entry =>
      rw [found, Option.map_some] at row
      obtain ⟨record, here, decoded⟩ := Option.map_eq_some_iff.mp row.symm
      rw [here]
      exact ⟨decoded.symm, kept⟩

/-- One call. -/
theorem HoldsPreKeys.perform (holds : HoldsPreKeys contract backend held)
    (restores : presage.RestoresPreKeys) (op : PreKeyOp presage)
    : HoldsPreKeys contract (op.perform backend) (op.leaves held) := by
  cases op with
  | save identity id record => exact (savePreKey_holds holds restores identity id record).2
  | remove identity id => exact (removePreKey_holds holds restores identity id).2
  | get identity id => exact (getPreKey_answers holds identity id).2

/-- A whole run. -/
theorem HoldsPreKeys.run
    (holds : HoldsPreKeys contract backend (PreKeyOp.held ([] : List (PreKeyOp presage))))
    (restores : presage.RestoresPreKeys) (ops : List (PreKeyOp presage))
    : HoldsPreKeys contract (Runs.run PreKeyOp.perform backend ops) (PreKeyOp.held ops) :=
  Runs.run_related (fun op _ _ _ holds => holds.perform restores op) holds

/-- A backend that does not fail and holds no packed pre-keys yet, and serializers that give
records and vectors back. After any calls on the pre-keys of both identities, every further
save and remove succeeds; a lookup returns the record last saved for that id and identity, if
it was not removed since, and else `InvalidPreKeyId`; the stored vectors hold no id twice; and
no call changes what is looked up under another id or identity.
-/
theorem preKey_bundle_refines (ready : contract.Ready backend)
    (restores : presage.RestoresPreKeys)
    (empty : ∀ identity, contract.view backend (bundleSlot identity) = none)
    (ops : List (PreKeyOp presage))
    : let store := Runs.run PreKeyOp.perform backend ops
      (∀ identity id,
        (getPreKey presage identity id store).1
        = (match PreKeyOp.held ops (identity, id) with
          | some record => .ok record
          | none => .error .invalidPreKeyId))
      ∧ (∀ identity, ∃ bundle, (loadBundle presage identity store).1 = .ok bundle
          ∧ (bundle.map Prod.fst).Nodup)
      ∧ (∀ identity id record, (savePreKey presage identity id record store).1 = .ok ()
          ∧ (removePreKey presage identity id store).1 = .ok ())
      ∧ ∀ (op : PreKeyOp presage) identity id, op.slot ≠ (identity, id)
          → (getPreKey presage identity id (op.perform store)).1
            = (getPreKey presage identity id store).1 := by
  intro store
  have start : HoldsPreKeys contract backend (PreKeyOp.held ([] : List (PreKeyOp presage))) :=
    ⟨ready, fun identity => ⟨[], .inl ⟨empty identity, rfl⟩, List.nodup_nil, fun id => rfl⟩⟩
  have holds : HoldsPreKeys contract store (PreKeyOp.held ops) := start.run restores ops
  refine ⟨fun identity id => (getPreKey_answers holds identity id).1, fun identity => ?_,
    fun identity id record => ⟨(savePreKey_holds holds restores identity id record).1,
      (removePreKey_holds holds restores identity id).1⟩, fun op identity id other => ?_⟩
  · obtain ⟨bundle, stores, bundled⟩ := holds.bundles identity
    exact ⟨bundle, (loadBundle_returns holds.ready stores).result, bundled.apart⟩
  · rw [(getPreKey_answers (holds.perform restores op) identity id).1,
      (getPreKey_answers holds identity id).1, PreKeyOp.leaves_other other]

end Records

-----------------------------------------------------------------------------------------
-- A serializer to run the store on
-----------------------------------------------------------------------------------------

/-- Bytes, each behind a one, up to a zero. -/
def markedBytes : PackedRecords.Grammar UInt8 UInt8 where
  read
    | 0 :: rest => some (none, rest)
    | 1 :: byte :: rest => some (some byte, rest)
    | _ => none
  shrinks := by
    intro input record rest read
    split at read
    · cases read
      simp
    · cases read
      simp only [List.length_cons]
      omega
    · cases read

/-- Entries, each behind a one, up to a zero. -/
def markedEntries : PackedRecords.Grammar (UInt32 × Bytes) UInt8 where
  read
    | 0 :: rest => some (none, rest)
    | 1 :: rest =>
        (Bincode.readNat 4 rest).bind (fun (id, rest) =>
          (markedBytes.decode rest).map (fun (bytes, rest) =>
            (some (UInt32.ofNat id, bytes), rest)))
    | _ => none
  shrinks := by
    intro input record rest read
    split at read
    · cases read
      simp
    · next entry =>
        obtain ⟨⟨id, left⟩, first, read⟩ := Option.bind_eq_some_iff.mp read
        obtain ⟨⟨bytes, last⟩, second, same⟩ := Option.map_eq_some_iff.mp read
        have shorter : last.length < left.length := markedBytes.decode_shrinks second
        have used : left.length + 4 = entry.length := Bincode.readNat_shrinks first
        cases same
        rw [List.length_cons]
        omega
    · cases read

def writeMarked (bytes : Bytes) : Bytes := bytes.flatMap (fun byte => [1, byte]) ++ [0]

def writeMarkedEntry (entry : UInt32 × Bytes) : Bytes :=
  1 :: (Bincode.encodeNat 4 entry.1.toNat ++ writeMarked entry.2)

theorem markedBytes_writeMarked (bytes rest : Bytes)
    : markedBytes.decode (writeMarked bytes ++ rest) = some (bytes, rest) := by
  rw [writeMarked, List.append_assoc]
  exact markedBytes.decode_flatMap (fun _ _ _ => rfl) rfl

theorem markedEntries_read (entry : UInt32 × Bytes) (rest : Bytes)
    : markedEntries.read (writeMarkedEntry entry ++ rest) = some (some entry, rest) := by
  obtain ⟨id, bytes⟩ := entry
  have marked (input : Bytes) : markedEntries.read (1 :: input)
      = (Bincode.readNat 4 input).bind (fun (id, rest) =>
          (markedBytes.decode rest).map (fun (bytes, rest) =>
            (some (UInt32.ofNat id, bytes), rest))) :=
    rfl
  rw [writeMarkedEntry, List.cons_append, marked, List.append_assoc,
    Bincode.readNat_encodeNat id.toNat_lt, Option.bind_some]
  simp only [markedBytes_writeMarked, Option.map_some, UInt32.ofNat_toNat]

/-- Packed vectors as marked entries. -/
def Presage.packed : Presage where
  __ := Presage.plain
  preKeyBundle :=
    { toVec := fun bundle => .ok (bundle.flatMap writeMarkedEntry ++ [0])
      fromSlice := fun bytes =>
        match markedEntries.decode bytes with
        | some (bundle, _) => .ok bundle
        | none => .error "EOF while parsing a list" }

theorem packed_restores : Presage.packed.RestoresPreKeys where
  bundle bundle := by
    refine ⟨bundle.flatMap writeMarkedEntry ++ [0], rfl, ?_⟩
    have decoded := markedEntries.decode_flatMap
      (fun entry (_ : entry ∈ bundle) input => markedEntries_read entry input)
      (rfl : markedEntries.read ([0] ++ []) = some (none, []))
    rw [List.append_nil] at decoded
    simp only [Presage.packed, decoded]
  record record := ⟨record, rfl, rfl⟩

/-- Two keys of one identity and one of the other are saved, the first is saved again, and the
second is removed.
-/
theorem Records.preKey_bundle_refines_removed
    : let ops : List (PreKeyOp Presage.packed) :=
        [.save .aci 1 [1], .save .aci 2 [2], .save .pni 2 [3], .save .aci 1 [4], .remove .aci 2]
      let store : InnerBackend := Runs.run PreKeyOp.perform { map := ∅ } ops
      (Records.getPreKey Presage.packed .aci 1 store).1 = .ok [4]
      ∧ (Records.getPreKey Presage.packed .aci 2 store).1 = .error .invalidPreKeyId
      ∧ (Records.getPreKey Presage.packed .pni 2 store).1 = .ok [3] := by
  intro ops store
  have ready : InnerBackend.contract.Ready { map := ∅ } := FaultPlan.onlyBulk_default
  obtain ⟨answers, -⟩ := Records.preKey_bundle_refines ready packed_restores (fun _ => rfl) ops
  exact ⟨answers .aci 1, answers .aci 2, answers .pni 2⟩

end XousAppSignal.Store
