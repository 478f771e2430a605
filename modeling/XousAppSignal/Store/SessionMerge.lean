import XousAppSignal.Store.SessionFlush
import XousAppSignal.Store.SessionLoads

/-! What a flush does to the stored bundles, whatever they hold: it rewrites the slots of the
dirty records one after the other, each as its old bundle under these records, and touches
nothing else. A failed flush has done so for some of the slots.
-/

namespace XousAppSignal.Store

variable {β ρ : Type} {format : RecordFormat ρ}

/-- Where the bundle of an address is stored. -/
def sessionSlot (slot : IdentityType × String) : String × String := (dictSession slot.1, slot.2)

theorem sessionSlot_inj {left right : IdentityType × String}
    (same : sessionSlot left = sessionSlot right)
    : left = right :=
  Decidable.byContradiction fun different => sessionSlot_ne different same

namespace PddbStore

/-- A dirty session whose record a flush finds in the cache. -/
def DirtyCached (self : PddbStore β ρ) (key : SessionKey) : Prop :=
  key ∈ self.sessionDirty ∧ key ∈ self.sessionCache

/-- The bytes a flush has for a session: those of its record, if that is dirty and cached. -/
def pendingBytes (format : RecordFormat ρ) (self : PddbStore β ρ) (key : SessionKey)
    : Option Bytes :=
  if key ∈ self.sessionDirty then
    (self.sessionCache.lookup key).bind (fun record => (format.serialize record).toOption)
  else none

theorem pendingBytes_eq_some {self : PddbStore β ρ} {key : SessionKey} {bytes : Bytes}
    : pendingBytes format self key = some bytes
      ↔ key ∈ self.sessionDirty ∧ ∃ record, self.sessionCache.lookup key = some record
          ∧ format.serialize record = .ok bytes := by
  have written (record : ρ) : (format.serialize record).toOption = some bytes
      ↔ format.serialize record = .ok bytes := by
    cases format.serialize record <;> simp [Except.toOption]
  unfold pendingBytes
  split
  · next dirty => simp only [Option.bind_eq_some_iff, written, dirty, true_and]
  · next clean => simp [clean]

theorem pendingBytes_of_not {self : PddbStore β ρ} {key : SessionKey}
    (clean : ¬ self.DirtyCached key)
    : pendingBytes format self key = none := by
  cases pending : pendingBytes format self key with
  | none => rfl
  | some bytes =>
      obtain ⟨dirty, record, cached, -⟩ := pendingBytes_eq_some.mp pending
      exact absurd ⟨dirty, FiniteMap.mem_iff_lookup.mpr ⟨record, cached⟩⟩ clean

/-- The slot holds its old bundle under the dirty records, of which there is one. -/
structure Rewritten (format : RecordFormat ρ) (store : PddbStore β ρ)
    (slot : IdentityType × String) (before after : Option Bytes)
    : Prop where
  dirty : ∃ device, store.DirtyCached (slot.1, slot.2, device)
  bundle
    : ∃ old new order, bundleOf format before = .ok old
        ∧ after = some (serializeSessionBundle order new)
        ∧ ∀ device, new.lookup device
            = (pendingBytes format store (slot.1, slot.2, device)).or (old.lookup device)

-----------------------------------------------------------------------------------------
-- The groups
-----------------------------------------------------------------------------------------

/-- Every group has an entry, by induction on the keys. -/
theorem groupDirty_nonempty {cache : FiniteMap SessionKey ρ} {keys : List SessionKey}
    {groups result : SessionGroups} (grouped : groupDirty format cache keys groups = .ok result)
    (filled : ∀ slot entries, groups.lookup slot = some entries → entries ≠ [])
    : ∀ slot entries, result.lookup slot = some entries → entries ≠ [] := by
  induction keys generalizing groups with
  | nil =>
      cases grouped
      exact filled
  | cons key rest ih =>
      unfold groupDirty at grouped
      split at grouped
      · exact ih grouped filled
      · split at grouped
        · cases grouped
        · refine ih grouped fun slot entries found => ?_
          rw [FiniteMap.lookup_insert'] at found
          split at found
          · cases found
            exact List.append_ne_nil_of_right_ne_nil _ (List.cons_ne_nil _ _)
          · exact filled slot entries found

/-- Grouping fails with a record that does not serialize, by induction on the keys. -/
theorem groupDirty_error {cache : FiniteMap SessionKey ρ} {keys : List SessionKey}
    {groups : SessionGroups} {e : Error} (failed : groupDirty format cache keys groups = .error e)
    : ∃ key ∈ keys, ∃ record message, cache.lookup key = some record
        ∧ format.serialize record = .error message := by
  induction keys generalizing groups with
  | nil => cases failed
  | cons key rest ih =>
      unfold groupDirty at failed
      split at failed
      · exact (ih failed).imp fun _ found => found.imp_left (List.mem_cons_of_mem key)
      · next record cached =>
          split at failed
          · next message unwritten =>
              exact ⟨key, List.mem_cons_self, record, message, cached, unwritten⟩
          · exact (ih failed).imp fun _ found => found.imp_left (List.mem_cons_of_mem key)

/-- The slots of these groups hold their old bundles extended by the groups' entries. -/
structure Merged (format : RecordFormat ρ) (order : IdentityType × String → HashOrder)
    (groups : List ((IdentityType × String) × List (UInt32 × Bytes))) (before after : View)
    : Prop where
  merged
    : ∀ group ∈ groups, ∃ old, bundleOf format (before (sessionSlot group.1)) = .ok old
        ∧ after (sessionSlot group.1)
          = some (serializeSessionBundle (order group.1) (FiniteMap.insertAll old group.2))
  others
    : ∀ location, (∀ group ∈ groups, location ≠ sessionSlot group.1)
        → after location = before location

theorem Merged.nil (format : RecordFormat ρ) (order : IdentityType × String → HashOrder)
    (view : View)
    : Merged format order [] view view :=
  ⟨fun _ listed => (List.not_mem_nil listed).elim, fun _ _ => rfl⟩

/-- One more slot is rewritten before those of the other groups. -/
theorem Merged.cons {order : IdentityType × String → HashOrder}
    {slot : IdentityType × String} {entries : List (UInt32 × Bytes)}
    {groups : List ((IdentityType × String) × List (UInt32 × Bytes))} {before after : View}
    (fresh : slot ∉ groups.map Prod.fst) {old : SessionBundle}
    (decoded : bundleOf format (before (sessionSlot slot)) = .ok old)
    (rest
      : Merged format order groups
          (Function.update before (sessionSlot slot)
            (some (serializeSessionBundle (order slot) (FiniteMap.insertAll old entries)))) after)
    : Merged format order ((slot, entries) :: groups) before after := by
  have apart (group) (listed : group ∈ groups) : sessionSlot slot ≠ sessionSlot group.1 :=
    fun same => fresh (sessionSlot_inj same ▸ List.mem_map_of_mem listed)
  constructor
  · intro group listed
    rcases List.mem_cons.mp listed with rfl | later
    · refine ⟨old, decoded, ?_⟩
      rw [rest.others _ apart, Function.update_self]
    · obtain ⟨old', decoded', stored⟩ := rest.merged group later
      rw [Function.update_of_ne (apart group later).symm] at decoded'
      exact ⟨old', decoded', stored⟩
  · intro location elsewhere
    rw [rest.others location fun group listed => elsewhere group (List.mem_cons_of_mem _ listed),
      Function.update_of_ne (elsewhere _ List.mem_cons_self)]

variable [KvBackend β] (kv : KvAtomic β)

/-- Reading a bundle changes nothing, and what it finds is the bundle of the slot; it fails with
the backend or with the bundle.
-/
theorem backendGetSessionBundle_reads (format : RecordFormat ρ) {backend : β}
    (ready : kv.Ready backend) (slot : IdentityType × String)
    : let out := backendGetSessionBundle format (dictSession slot.1) slot.2 backend
      kv.Ready out.2 ∧ kv.view out.2 = kv.view backend
      ∧ ((∃ e, out.1 = .error e
          ∧ (kv.MayFail ∨ bundleOf format (kv.view backend (sessionSlot slot)) = .error e))
        ∨ ∃ found, out.1 = .ok found
          ∧ bundleOf format (kv.view backend (sessionSlot slot)) = .ok (found.getD ∅)) := by
  intro out
  have read := kv.get ready (dictSession slot.1) slot.2
  simp only [out, backendGetSessionBundle, sessionSlot]
  generalize KvBackend.get (dictSession slot.1) slot.2 backend = outcome at read ⊢
  obtain ⟨result, next⟩ := outcome
  cases read with
  | failed e may failure kept same =>
      simp only at failure kept same
      simp only [failure]
      exact ⟨kept, same, .inl ⟨e, rfl, .inl may⟩⟩
  | done returns =>
      obtain ⟨value, kept, same⟩ := returns
      simp only at value kept same
      simp only [value]
      cases stored : kv.view backend (dictSession slot.1, slot.2) with
      | none => exact ⟨kept, same, .inr ⟨none, rfl, rfl⟩⟩
      | some bytes =>
          cases decoded : deserializeSessionBundle format bytes with
          | error e =>
              exact ⟨kept, same, .inl ⟨e, by simp [decoded, Except.map], .inr decoded⟩⟩
          | ok bundle =>
              exact ⟨kept, same, .inr ⟨some bundle, by simp [decoded, Except.map], decoded⟩⟩

/-- The groups are merged into their slots up to the first failing call, by induction on the
groups.
-/
theorem writeGroups_merges (format : RecordFormat ρ) (order : IdentityType × String → HashOrder)
    {groups : List ((IdentityType × String) × List (UInt32 × Bytes))}
    (distinct : (groups.map Prod.fst).Nodup) (written : Nat) {backend : β}
    (ready : kv.Ready backend)
    : let out := writeGroups format order groups written backend
      kv.Ready out.2
      ∧ ∃ done rest, groups = done ++ rest
        ∧ Merged format order done (kv.view backend) (kv.view out.2)
        ∧ ((∃ e, out.1 = .error e
            ∧ (kv.MayFail ∨ ∃ group ∈ groups, ∃ e,
                bundleOf format (kv.view backend (sessionSlot group.1)) = .error e))
          ∨ (∃ n, out.1 = .ok n) ∧ rest = []) := by
  induction groups generalizing written backend with
  | nil =>
      exact ⟨ready, [], [], rfl, .nil format order _, .inr ⟨⟨written, rfl⟩, rfl⟩⟩
  | cons group rest ih =>
      obtain ⟨slot, entries⟩ := group
      intro out
      simp only [List.map_cons, List.nodup_cons] at distinct
      obtain ⟨kept, same, read⟩ := backendGetSessionBundle_reads kv format ready slot
      simp only [out, writeGroups]
      generalize backendGetSessionBundle format (dictSession slot.1) slot.2 backend
        = outcome at kept same read ⊢
      obtain ⟨result, next⟩ := outcome
      simp only at kept same read
      rcases read with ⟨e, rfl, cause⟩ | ⟨found, rfl, decoded⟩
      · simp only [kept, same, true_and]
        exact ⟨[], _, rfl, .nil format order _, .inl ⟨e, rfl,
          cause.imp_right fun undecoded => ⟨(slot, entries), List.mem_cons_self, e, undecoded⟩⟩⟩
      · have put := kv.put kept (dictSession slot.1) slot.2
          (serializeSessionBundle (order slot) (FiniteMap.insertAll (found.getD ∅) entries))
        rw [same] at put
        simp only [backendPutSessionBundle]
        generalize KvBackend.put (dictSession slot.1) slot.2
          (serializeSessionBundle (order slot) (FiniteMap.insertAll (found.getD ∅) entries)) next
          = wrote at put ⊢
        obtain ⟨result, last⟩ := wrote
        cases put with
        | failed e may failure lastReady unchanged =>
            simp only at failure lastReady unchanged
            simp only [failure, lastReady, unchanged, true_and]
            exact ⟨[], _, rfl, .nil format order _, .inl ⟨e, rfl, .inl may⟩⟩
        | done wrote =>
            obtain ⟨done, lastReady, changed⟩ := wrote
            simp only at done lastReady changed
            simp only [done]
            obtain ⟨endReady, done, later, rfl, merged, outcome⟩ :=
              ih distinct.2 (written + entries.length) lastReady
            rw [changed] at merged outcome
            refine ⟨endReady, (slot, entries) :: done, later, rfl, ?_, outcome.imp_left ?_⟩
            · refine merged.cons (fun listed => distinct.1 ?_) decoded
              rw [List.map_append]
              exact List.mem_append_left _ listed
            · rintro ⟨e, failed, cause⟩
              refine ⟨e, failed, cause.imp_right ?_⟩
              rintro ⟨group, listed, e', undecoded⟩
              have apart : sessionSlot group.1 ≠ (dictSession slot.1, slot.2) := fun same =>
                distinct.1 (sessionSlot_inj same ▸ List.mem_map_of_mem listed)
              rw [Function.update_of_ne apart] at undecoded
              exact ⟨group, List.mem_cons_of_mem _ listed, e', undecoded⟩

-----------------------------------------------------------------------------------------
-- A whole flush
-----------------------------------------------------------------------------------------

omit [KvBackend β] in
/-- A bundle extended by its group is the bundle under the pending bytes. -/
theorem Grouped.lookup_insertAll {self : PddbStore β ρ} {keys : List SessionKey}
    {groups : SessionGroups} (grouped : Grouped format self.sessionCache keys groups)
    (members : ∀ key, key ∈ keys ↔ key ∈ self.sessionDirty) {slot : IdentityType × String}
    {entries : List (UInt32 × Bytes)} (found : groups.lookup slot = some entries)
    (old : SessionBundle) (device : UInt32)
    : (FiniteMap.insertAll old entries).lookup device
      = (pendingBytes format self (slot.1, slot.2, device)).or (old.lookup device) := by
  by_cases listed : device ∈ entries.map Prod.fst
  · obtain ⟨⟨device, bytes⟩, entry, rfl⟩ := List.mem_map.mp listed
    obtain ⟨dirty, record, cached, written⟩ := grouped.listed _ _ _ _ found entry
    rw [FiniteMap.lookup_insertAll_of_mem (grouped.unique slot entries found) entry,
      pendingBytes_eq_some.mpr ⟨(members _).mp dirty, record, cached, written⟩, Option.some_or]
  · rw [FiniteMap.lookup_insertAll_of_notMem listed]
    cases pending : pendingBytes format self (slot.1, slot.2, device) with
    | none => rw [Option.none_or]
    | some bytes =>
        obtain ⟨dirty, record, cached, -⟩ := pendingBytes_eq_some.mp pending
        obtain ⟨entries', bytes', found', entry⟩ := grouped.complete _ ((members _).mpr dirty)
          (FiniteMap.mem_iff_lookup.mpr ⟨record, cached⟩)
        obtain rfl := Option.some.inj (found.symm.trans found')
        exact absurd (List.mem_map_of_mem entry) listed

/-- Why a flush fails: the backend, a dirty record that does not serialize, or the bundle of a
dirty record that does not decode.
-/
def FlushFails (format : RecordFormat ρ) (mayFail : Prop) (store : PddbStore β ρ) (view : View)
    : Prop :=
  mayFail
    ∨ (∃ key, store.DirtyCached key ∧ pendingBytes format store key = none)
    ∨ ∃ slot device, store.DirtyCached (slot.1, slot.2, device)
      ∧ ∃ e, bundleOf format (view (sessionSlot slot)) = .error e

/-- What a flush, failed or not, has done to the stored bundles. -/
structure FlushOutcome (format : RecordFormat ρ) (mayFail : Prop) (store : PddbStore β ρ)
    (out : Except Error Nat × PddbStore β ρ) (before after : View)
    : Prop where
  cache : out.2.sessionCache = store.sessionCache
  others
    : ∀ location,
        (∀ slot device, store.DirtyCached (slot.1, slot.2, device) → location ≠ sessionSlot slot)
        → after location = before location
  outcome
    : (∃ e, out.1 = .error e ∧ FlushFails format mayFail store before
        ∧ out.2.sessionDirty = store.sessionDirty
        ∧ ∀ slot, after (sessionSlot slot) = before (sessionSlot slot)
          ∨ Rewritten format store slot (before (sessionSlot slot)) (after (sessionSlot slot)))
      ∨ ∃ n, out.1 = .ok n ∧ out.2.sessionDirty = ∅
        ∧ (∀ key, store.DirtyCached key → (pendingBytes format store key).isSome)
        ∧ ∀ slot, (∃ device, store.DirtyCached (slot.1, slot.2, device))
          → Rewritten format store slot (before (sessionSlot slot)) (after (sessionSlot slot))

omit [KvBackend β] in
/-- Merging groups of dirty records rewrites their slots. -/
theorem Merged.rewritten {self : PddbStore β ρ} {keys : List SessionKey}
    {groups : SessionGroups} (grouped : Grouped format self.sessionCache keys groups)
    (members : ∀ key, key ∈ keys ↔ key ∈ self.sessionDirty)
    (filled : ∀ slot entries, groups.lookup slot = some entries → entries ≠ [])
    {order : IdentityType × String → HashOrder}
    {done : List ((IdentityType × String) × List (UInt32 × Bytes))} {before after : View}
    (merged : Merged format order done before after)
    {group : (IdentityType × String) × List (UInt32 × Bytes)} (listed : group ∈ done)
    (found : groups.lookup group.1 = some group.2)
    : Rewritten format self group.1 (before (sessionSlot group.1))
        (after (sessionSlot group.1)) := by
  obtain ⟨old, decoded, stored⟩ := merged.merged group listed
  obtain ⟨⟨device, bytes⟩, entry⟩ := List.exists_mem_of_ne_nil _ (filled _ _ found)
  obtain ⟨dirty, record, cached, -⟩ := grouped.listed _ _ _ _ found entry
  exact ⟨⟨device, (members _).mp dirty, FiniteMap.mem_iff_lookup.mpr ⟨record, cached⟩⟩,
    old, _, _, decoded, stored, grouped.lookup_insertAll members found old⟩

/-- A flush that succeeds has rewritten every slot with a dirty record, one that fails only
some of them, and neither touches anything else.
-/
theorem flushSessions_outcome (format : RecordFormat ρ) {self : PddbStore β ρ}
    (ready : kv.Ready self.backend) (order : FlushOrder)
    : let out := flushSessions format order self
      kv.Ready out.2.backend
      ∧ FlushOutcome format kv.MayFail self out (kv.view self.backend)
          (kv.view out.2.backend) := by
  intro out
  simp only [out, flushSessions]
  split
  · next empty =>
    have none_dirty : self.sessionDirty.entries = [] := List.isEmpty_iff.mp empty
    have clean (key : SessionKey) : ¬ self.DirtyCached key := by
      rintro ⟨dirty, -⟩
      have listed : key ∈ self.sessionDirty.keys := AList.mem_keys.mpr dirty
      rw [AList.keys, none_dirty] at listed
      cases listed
    refine ⟨ready, rfl, fun _ _ => rfl, .inr ⟨0, rfl, AList.ext none_dirty, ?_, ?_⟩⟩
    · exact fun key dirty => absurd dirty (clean key)
    · rintro slot ⟨device, dirty⟩
      exact absurd dirty (clean _)
  let keys := order.dirty.arrange self.sessionDirty.keys
  have members (key : SessionKey) : key ∈ keys ↔ key ∈ self.sessionDirty := by
    rw [order.dirty.mem_arrange, AList.mem_keys]
  have unique : keys.Nodup :=
    (order.dirty.perm self.sessionDirty.keys).nodup_iff.mpr self.sessionDirty.keys_nodup
  rcases groupDirty_spec keys (grouped_nil format self.sessionCache) unique with
    ⟨e, -, -, failed, -⟩ | ⟨groups, collected, grouped⟩
  · obtain ⟨key, listed, record, message, cached, unwritten⟩ := groupDirty_error failed
    have dirty := (members key).mp listed
    have cause : FlushFails format kv.MayFail self (kv.view self.backend) := by
      refine .inr (.inl ⟨key, ⟨dirty, FiniteMap.mem_iff_lookup.mpr ⟨record, cached⟩⟩, ?_⟩)
      simp [pendingBytes, dirty, cached, unwritten, Except.toOption]
    simp only [keys] at failed
    simp only [failed]
    exact ⟨ready, rfl, fun _ _ => rfl, .inl ⟨e, rfl, cause, rfl, fun _ => .inl rfl⟩⟩
  have filled := groupDirty_nonempty collected fun slot entries found => by simp at found
  simp only [keys] at collected
  simp only [collected, onBackend]
  rw [List.nil_append] at grouped
  have listed (group : (IdentityType × String) × List (UInt32 × Bytes))
      : group ∈ order.groups.arrange (FiniteMap.pairs groups)
        ↔ groups.lookup group.1 = some group.2 := by
    rw [order.groups.mem_arrange, ← FiniteMap.mem_pairs]
  obtain ⟨kept, done, rest, split, merged, outcome⟩ := writeGroups_merges kv format order.bundle
    (order.groups.nodup_map_arrange _ (FiniteMap.pairs_keys_nodup groups)) 0 ready
  have found {group} (member : group ∈ done) : groups.lookup group.1 = some group.2 :=
    (listed group).mp (split ▸ List.mem_append_left _ member)
  have rewritten {group} (member : group ∈ done) :=
    merged.rewritten grouped members filled member (found member)
  have others (location : String × String)
      (elsewhere : ∀ slot device, self.DirtyCached (slot.1, slot.2, device)
        → location ≠ sessionSlot slot) := by
    refine merged.others location fun group member => ?_
    obtain ⟨⟨device, dirty⟩, -⟩ := rewritten member
    exact elsewhere group.1 device dirty
  rcases outcome with ⟨e, failed, cause⟩ | ⟨⟨n, succeeded⟩, rfl⟩
  · have fails : FlushFails format kv.MayFail self (kv.view self.backend) := by
      refine cause.imp_right ?_
      rintro ⟨group, member, e, undecoded⟩
      right
      have stored := (listed group).mp member
      obtain ⟨⟨device, bytes⟩, entry⟩ := List.exists_mem_of_ne_nil _ (filled _ _ stored)
      obtain ⟨dirty, record, cached, -⟩ := grouped.listed _ _ _ _ stored entry
      exact ⟨group.1, device, ⟨(members _).mp dirty, FiniteMap.mem_iff_lookup.mpr
        ⟨record, cached⟩⟩, e, undecoded⟩
    simp only [failed]
    refine ⟨kept, rfl, others, .inl ⟨e, rfl, fails, rfl, fun slot => ?_⟩⟩
    by_cases member : slot ∈ done.map Prod.fst
    · obtain ⟨group, inDone, rfl⟩ := List.mem_map.mp member
      exact .inr (rewritten inDone)
    · refine .inl (merged.others _ fun group inDone same => member ?_)
      exact sessionSlot_inj same ▸ List.mem_map_of_mem inDone
  · simp only [succeeded]
    rw [List.append_nil] at split
    refine ⟨kept, rfl, others, .inr ⟨n, rfl, rfl, fun key dirty => ?_, fun slot dirty => ?_⟩⟩
    · obtain ⟨entries, bytes, stored, entry⟩ :=
        grouped.complete key ((members key).mpr dirty.1) dirty.2
      obtain ⟨known, record, cached, written⟩ := grouped.listed _ _ _ _ stored entry
      rw [pendingBytes_eq_some.mpr ⟨dirty.1, record, cached, written⟩]
      rfl
    · obtain ⟨device, dirty⟩ := dirty
      obtain ⟨entries, bytes, stored, -⟩ :=
        grouped.complete _ ((members _).mpr dirty.1) dirty.2
      exact rewritten (split ▸ (listed (slot, entries)).mpr stored)

end PddbStore

end XousAppSignal.Store
