import XousAppSignal.Store.SessionInvariant

/-! Flushing: the dirty records are grouped by address and merged into the stored bundles.
A flush that succeeds stores every dirty record; one that fails leaves the dirty set alone
and changes no session a load would return.
-/

namespace XousAppSignal.Store

variable {β ρ : Type} {format : RecordFormat ρ}

namespace PddbStore

/-- The groups hold exactly the cached records of `keys`, each serialized, one per device. -/
structure Grouped (format : RecordFormat ρ) (cache : FiniteMap SessionKey ρ)
    (keys : List SessionKey) (groups : SessionGroups)
    : Prop where
  listed
    : ∀ slot entries device bytes,
        groups.lookup slot = some entries
        → (device, bytes) ∈ entries
        → (slot.1, slot.2, device) ∈ keys
          ∧ ∃ record, cache.lookup (slot.1, slot.2, device) = some record
              ∧ format.serialize record = .ok bytes
  complete
    : ∀ key ∈ keys, key ∈ cache
        → ∃ entries bytes, groups.lookup (key.1, key.2.1) = some entries
            ∧ (key.2.2, bytes) ∈ entries
  unique
    : ∀ slot entries, groups.lookup slot = some entries → (entries.map Prod.fst).Nodup

theorem grouped_nil (format : RecordFormat ρ) (cache : FiniteMap SessionKey ρ)
    : Grouped format cache [] ∅ :=
  ⟨fun _ _ _ _ found => by simp at found, fun _ member => by simp at member,
    fun _ _ found => by simp at found⟩

/-- Adding the serialized record of one more key to its group. -/
theorem Grouped.add {cache : FiniteMap SessionKey ρ} {keys : List SessionKey}
    {groups : SessionGroups} (grouped : Grouped format cache keys groups) {key : SessionKey}
    (fresh : key ∉ keys) {record : ρ} (found : cache.lookup key = some record)
    {bytes : Bytes} (written : format.serialize record = .ok bytes)
    : Grouped format cache (keys ++ [key])
        (groups.insert (key.1, key.2.1)
          ((groups.lookup (key.1, key.2.1)).getD [] ++ [(key.2.2, bytes)])) := by
  let old := (groups.lookup (key.1, key.2.1)).getD []
  have oldEntry {device : UInt32} {ser : Bytes} (member : (device, ser) ∈ old)
      : ∃ entries, groups.lookup (key.1, key.2.1) = some entries ∧ (device, ser) ∈ entries := by
    cases stored : groups.lookup (key.1, key.2.1) with
    | none => simp [old, stored] at member
    | some entries => exact ⟨entries, rfl, by simpa [old, stored] using member⟩
  refine ⟨?_, ?_, ?_⟩
  · intro slot entries device ser stored member
    rw [FiniteMap.lookup_insert'] at stored
    split at stored
    · next here =>
      obtain rfl := Option.some.inj stored
      subst here
      rcases List.mem_append.mp member with earlier | last
      · obtain ⟨entries, storedOld, listed⟩ := oldEntry earlier
        obtain ⟨known, record, cached⟩ := grouped.listed _ _ _ _ storedOld listed
        exact ⟨List.mem_append_left _ known, record, cached⟩
      · obtain ⟨rfl, rfl⟩ := Prod.mk.inj (List.mem_singleton.mp last)
        exact ⟨List.mem_append_right _ (List.mem_singleton.mpr rfl), record, found, written⟩
    · obtain ⟨known, record, cached⟩ := grouped.listed _ _ _ _ stored member
      exact ⟨List.mem_append_left _ known, record, cached⟩
  · intro other member cached
    rw [FiniteMap.lookup_insert']
    rcases List.mem_append.mp member with earlier | last
    · obtain ⟨entries, ser, stored, listed⟩ := grouped.complete other earlier cached
      by_cases here : (other.1, other.2.1) = (key.1, key.2.1)
      · rw [here] at stored
        exact ⟨_, ser, if_pos here, by simp [stored, listed]⟩
      · exact ⟨entries, ser, by rw [if_neg here, stored], listed⟩
    · obtain rfl := List.mem_singleton.mp last
      exact ⟨_, bytes, if_pos rfl, by simp⟩
  · intro slot entries stored
    rw [FiniteMap.lookup_insert'] at stored
    split at stored
    · obtain rfl := Option.some.inj stored
      have oldUnique : (old.map Prod.fst).Nodup := by
        cases storedOld : groups.lookup (key.1, key.2.1) with
        | none => simp [old, storedOld]
        | some entries => simpa [old, storedOld] using grouped.unique _ entries storedOld
      rw [List.map_append, List.nodup_append]
      refine ⟨oldUnique, by simp, ?_⟩
      rintro device earlier _ last rfl
      obtain ⟨⟨device', ser⟩, member, rfl⟩ := List.mem_map.mp earlier
      obtain ⟨entries, storedOld, listed⟩ := oldEntry member
      obtain ⟨known, -⟩ := grouped.listed _ _ _ _ storedOld listed
      simp only [List.map_cons, List.map_nil, List.mem_singleton] at last
      exact fresh (by simpa [last] using known)
    · exact grouped.unique slot entries stored

/-- Skipping a key that is not cached. -/
theorem Grouped.skip {cache : FiniteMap SessionKey ρ} {keys : List SessionKey}
    {groups : SessionGroups} (grouped : Grouped format cache keys groups) {key : SessionKey}
    (missing : cache.lookup key = none)
    : Grouped format cache (keys ++ [key]) groups := by
  refine ⟨fun slot entries device bytes stored member => ?_, fun other member cached => ?_,
    grouped.unique⟩
  · obtain ⟨known, rest⟩ := grouped.listed _ _ _ _ stored member
    exact ⟨List.mem_append_left _ known, rest⟩
  · rcases List.mem_append.mp member with earlier | last
    · exact grouped.complete other earlier cached
    · obtain rfl := List.mem_singleton.mp last
      exact absurd cached (AList.lookup_eq_none.mp missing)

/-- Grouping either meets a record that does not serialize or groups every key, by
induction on the keys still to come.
-/
theorem groupDirty_spec {cache : FiniteMap SessionKey ρ} {done : List SessionKey}
    (keys : List SessionKey) {groups : SessionGroups} (grouped : Grouped format cache done groups)
    (unique : (done ++ keys).Nodup)
    : (∃ e record message, groupDirty format cache keys groups = .error e
        ∧ format.serialize record = .error message)
      ∨ ∃ result, groupDirty format cache keys groups = .ok result
          ∧ Grouped format cache (done ++ keys) result := by
  induction keys generalizing done groups with
  | nil => exact .inr ⟨groups, rfl, by simpa using grouped⟩
  | cons key rest ih =>
      have regroup : done ++ key :: rest = (done ++ [key]) ++ rest := by simp
      rw [regroup] at unique ⊢
      have fresh : key ∉ done := by
        intro member
        have := (List.nodup_append.mp (List.nodup_append.mp unique).1).2.2
        exact this key member key (by simp) rfl
      cases found : cache.lookup key with
      | none => simpa only [groupDirty, found] using ih (grouped.skip found) unique
      | some record =>
          cases written : format.serialize record with
          | error message =>
              exact .inl ⟨.encode message, record, message,
                by simp only [groupDirty, found, written], written⟩
          | ok bytes =>
              simpa only [groupDirty, found, written] using
                ih (grouped.add fresh found written) unique

/-- Each record of the group can be written and read back. -/
def ReadableGroup (format : RecordFormat ρ) (entries : List (UInt32 × Bytes)) : Prop :=
  ∀ entry ∈ entries, Bincode.Fits entry.2 ∧ ∃ record, format.deserialize entry.2 = .ok record

/-- A bundle extended by readable records is readable. -/
theorem readable_insertAll {bundle : SessionBundle}
    (readable : SessionBundle.Readable format bundle) {entries : List (UInt32 × Bytes)}
    (unique : (entries.map Prod.fst).Nodup) (group : ReadableGroup format entries)
    : SessionBundle.Readable format (FiniteMap.insertAll bundle entries) := by
  intro device bytes found
  by_cases member : device ∈ entries.map Prod.fst
  · obtain ⟨entry, listed, rfl⟩ := List.mem_map.mp member
    rw [FiniteMap.lookup_insertAll_of_mem unique listed] at found
    obtain rfl := Option.some.inj found
    exact group entry listed
  · rw [FiniteMap.lookup_insertAll_of_notMem member] at found
    exact readable device bytes found

/-- A stored session is the one its address's bundle holds, no bundle being an empty one. -/
theorem storedSession_getD (format : RecordFormat ρ) (view : View) (key : SessionKey)
    : storedSession format view key
      = SessionBundle.session format ((storedBundle format view (key.1, key.2.1)).getD ∅)
          key.2.2 := by
  rw [storedSession]
  cases storedBundle format view (key.1, key.2.1) <;> simp [SessionBundle.session]

variable [KvBackend β] (kv : KvAtomic β)

/-- The key is in none of the groups. -/
def Ungrouped (groups : List ((IdentityType × String) × List (UInt32 × Bytes)))
    (key : SessionKey)
    : Prop :=
  ∀ group ∈ groups, group.1 = (key.1, key.2.1) → key.2.2 ∉ group.2.map Prod.fst

/-- Writing the groups stores each of their records, up to the first failing call, and
leaves every other session alone. Witness: induction on the groups, each of which reads,
extends and writes back its own slot.
-/
theorem writeGroups_spec (order : IdentityType × String → HashOrder)
    {groups : List ((IdentityType × String) × List (UInt32 × Bytes))}
    (distinct : (groups.map Prod.fst).Nodup)
    (unique : ∀ group ∈ groups, (group.2.map Prod.fst).Nodup)
    (readable : ∀ group ∈ groups, ReadableGroup format group.2)
    (written : Nat) {backend : β} (ready : kv.Ready backend)
    (sound : Sound format (kv.view backend))
    : let out := writeGroups format order groups written backend
      kv.Ready out.2
      ∧ Sound format (kv.view out.2)
      ∧ (∀ key, Ungrouped groups key
          → storedSession format (kv.view out.2) key
            = storedSession format (kv.view backend) key)
      ∧ ((∃ e, out.1 = .error e ∧ kv.MayFail)
        ∨ out.1 = .ok (written + (groups.map (fun group => group.2.length)).sum)
          ∧ ∀ group ∈ groups, ∀ entry ∈ group.2,
              storedSession format (kv.view out.2) (group.1.1, group.1.2, entry.1)
                = (format.deserialize entry.2).toOption) := by
  induction groups generalizing written backend with
  | nil => exact ⟨ready, sound, fun _ _ => rfl, .inr ⟨rfl, fun _ member => by cases member⟩⟩
  | cons group rest ih =>
      obtain ⟨slot, entries⟩ := group
      intro out
      simp only [List.map_cons, List.nodup_cons] at distinct
      have read := backendGetSessionBundle_settles kv ready sound slot
      simp only [out, writeGroups]
      generalize backendGetSessionBundle format (dictSession slot.1) slot.2 backend
        = outcome at read ⊢
      obtain ⟨result, next⟩ := outcome
      cases read with
      | failed e may failure kept same =>
          simp only at failure kept same
          simp only [failure, same]
          exact ⟨kept, sound, fun _ _ => trivial, .inl ⟨e, rfl, may⟩⟩
      | done returns =>
          obtain ⟨value, kept, same⟩ := returns
          simp only at value kept same
          simp only [value]
          let old := (storedBundle format (kv.view backend) slot).getD ∅
          let bundle := FiniteMap.insertAll old entries
          have oldReadable : SessionBundle.Readable format old := by
            cases found : storedBundle format (kv.view backend) slot with
            | none => exact fun _ _ absent => by simp [old, found] at absent
            | some stored => simpa [old, found] using sound.readable found
          have bundleReadable : SessionBundle.Readable format bundle :=
            readable_insertAll oldReadable (unique (slot, entries) (by simp))
              (readable (slot, entries) (by simp))
          have nextSound : Sound format (kv.view next) := by rw [same]; exact sound
          have put := kv.put kept (dictSession slot.1) slot.2
            (serializeSessionBundle (order slot) bundle)
          change AllOrNothing _ _ _ _
            (backendPutSessionBundle (order slot) (dictSession slot.1) slot.2 bundle next) _ _
            at put
          generalize backendPutSessionBundle (order slot) (dictSession slot.1) slot.2 bundle next
            = wrote at put ⊢
          obtain ⟨result, last⟩ := wrote
          cases put with
          | failed e may failure lastReady unchanged =>
              simp only at failure lastReady unchanged
              simp only [failure, unchanged, same]
              exact ⟨lastReady, sound, fun _ _ => trivial, .inl ⟨e, rfl, may⟩⟩
          | done wrote =>
              obtain ⟨done, lastReady, changed⟩ := wrote
              simp only at done lastReady changed
              simp only [done]
              have lastSound : Sound format (kv.view last) := by
                rw [changed]
                exact nextSound.put (order slot) slot bundleReadable
              have stored (key : SessionKey)
                  : storedSession format (kv.view last) key
                    = if (key.1, key.2.1) = slot then SessionBundle.session format bundle key.2.2
                      else storedSession format (kv.view backend) key := by
                rw [changed, storedSession_put (order slot) _ slot bundleReadable.fits, same]
              obtain ⟨endReady, endSound, others, outcome⟩ := ih distinct.2
                (fun group member => unique group (by simp [member]))
                (fun group member => readable group (by simp [member]))
                (written + entries.length) lastReady lastSound
              refine ⟨endReady, endSound, fun key absent => ?_, ?_⟩
              · have here := absent (slot, entries) (by simp)
                rw [others key (fun group member => absent group (by simp [member])), stored]
                split
                · next same =>
                  rw [SessionBundle.session,
                    FiniteMap.lookup_insertAll_of_notMem (here same.symm), storedSession_getD,
                    same, SessionBundle.session]
                · rfl
              · rcases outcome with failed | ⟨count, all⟩
                · exact .inl failed
                · refine .inr ⟨?_, ?_⟩
                  · rw [count, List.map_cons, List.sum_cons, Nat.add_assoc]
                  · intro group member entry listed
                    rcases List.mem_cons.mp member with rfl | later
                    · have elsewhere : Ungrouped rest (slot.1, slot.2, entry.1) := by
                        intro other inRest same
                        exact absurd (List.mem_map.mpr ⟨other, inRest, same⟩) distinct.1
                      rw [others _ elsewhere, stored, if_pos rfl, SessionBundle.session,
                        FiniteMap.lookup_insertAll_of_mem (unique (slot, entries) (by simp))
                          listed, Option.bind_some]
                    · exact all group later entry listed

-----------------------------------------------------------------------------------------
-- A whole flush
-----------------------------------------------------------------------------------------

omit [KvBackend β] in
/-- The groups hold one record per key. Witness: listing the keys of all groups is a
rearrangement of the grouped keys.
-/
theorem Grouped.count {cache : FiniteMap SessionKey ρ} {keys : List SessionKey}
    {groups : SessionGroups} (grouped : Grouped format cache keys groups)
    (unique : keys.Nodup) (cached : ∀ key ∈ keys, key ∈ cache) (order : HashOrder)
    : ((order.arrange (FiniteMap.pairs groups)).map (fun group => group.2.length)).sum
      = keys.length := by
  let listing := order.arrange (FiniteMap.pairs groups)
  let keyed (group : (IdentityType × String) × List (UInt32 × Bytes)) : List SessionKey :=
    group.2.map (fun entry => (group.1.1, group.1.2, entry.1))
  have stored (slot : IdentityType × String) (entries : List (UInt32 × Bytes))
      : (slot, entries) ∈ listing ↔ groups.lookup slot = some entries := by
    rw [order.mem_arrange, FiniteMap.mem_pairs]
  have members (key : SessionKey) : key ∈ listing.flatMap keyed ↔ key ∈ keys := by
    rw [List.mem_flatMap]
    constructor
    · rintro ⟨⟨slot, entries⟩, member, listed⟩
      obtain ⟨⟨device, bytes⟩, inGroup, rfl⟩ := List.mem_map.mp listed
      exact (grouped.listed _ _ _ _ ((stored slot entries).mp member) inGroup).1
    · intro member
      obtain ⟨entries, bytes, found, listed⟩ := grouped.complete key member (cached key member)
      exact ⟨_, (stored _ _).mpr found, List.mem_map.mpr ⟨_, listed, rfl⟩⟩
  have distinct : (listing.flatMap keyed).Nodup := by
    rw [List.nodup_flatMap]
    constructor
    · rintro ⟨slot, entries⟩ member
      have devices := grouped.unique _ _ ((stored slot entries).mp member)
      refine List.Nodup.of_map (fun key : SessionKey => key.2.2) ?_
      simpa [keyed, Function.comp_def] using devices
    · have slots : (listing.map Prod.fst).Nodup :=
        order.nodup_map_arrange _ (FiniteMap.pairs_keys_nodup groups)
      refine (List.pairwise_map.mp slots).imp ?_
      rintro left right different key inLeft inRight
      obtain ⟨_, -, rfl⟩ := List.mem_map.mp inLeft
      obtain ⟨_, -, same⟩ := List.mem_map.mp inRight
      obtain ⟨identities, rest⟩ := Prod.mk.inj same
      exact different (Prod.ext identities.symm (Prod.mk.inj rest).1.symm)
  have permuted := (List.perm_ext_iff_of_nodup distinct unique).mpr members
  rw [← permuted.length_eq, List.length_flatMap]
  simp [listing, keyed]

omit [KvBackend β] in
/-- The records of the groups read back as the cached ones. -/
theorem Grouped.readable {cache : FiniteMap SessionKey ρ} {keys : List SessionKey}
    {groups : SessionGroups} (roundTrip : format.RoundTrip)
    (grouped : Grouped format cache keys groups) {slot : IdentityType × String}
    {entries : List (UInt32 × Bytes)} (found : groups.lookup slot = some entries)
    : ReadableGroup format entries := by
  rintro ⟨device, bytes⟩ member
  obtain ⟨-, record, -, written⟩ := grouped.listed _ _ _ _ found member
  exact ⟨roundTrip.fits written, record, roundTrip.undo written⟩

/-- Flushing changes no session. On success it stores every dirty record, clears the dirty
set and reports its size; on failure the dirty set stays.
-/
theorem flushSessions_spec (roundTrip : format.RoundTrip) {self : PddbStore β ρ}
    (inv : SessionInv kv format self) (order : FlushOrder)
    : let out := flushSessions format order self
      SessionInv kv format out.2
      ∧ out.2.sessionCache = self.sessionCache
      ∧ (∀ key, current format (kv.view out.2.backend) out.2 key
          = current format (kv.view self.backend) self key)
      ∧ ((∃ e, out.1 = .error e ∧ out.2.sessionDirty = self.sessionDirty
            ∧ (kv.MayFail ∨ ∃ record message, format.serialize record = .error message))
        ∨ out.1 = .ok self.sessionDirty.entries.length ∧ out.2.sessionDirty = ∅) := by
  intro out
  simp only [out, flushSessions]
  split
  · next empty =>
    have none' : self.sessionDirty.entries = [] := List.isEmpty_iff.mp empty
    exact ⟨inv, rfl, fun _ => rfl, .inr ⟨by rw [none']; rfl, AList.ext none'⟩⟩
  let keys := order.dirty.arrange self.sessionDirty.keys
  have members (key : SessionKey) : key ∈ keys ↔ key ∈ self.sessionDirty := by
    rw [order.dirty.mem_arrange, AList.mem_keys]
  have unique : keys.Nodup :=
    (order.dirty.perm self.sessionDirty.keys).nodup_iff.mpr self.sessionDirty.keys_nodup
  rcases groupDirty_spec keys (grouped_nil format self.sessionCache) unique with
    ⟨e, record, message, failed, unwritten⟩ | ⟨groups, collected, grouped⟩
  · simp only [keys] at failed
    simp only [failed]
    exact ⟨inv, trivial, fun _ => trivial,
      .inl ⟨e, rfl, trivial, .inr ⟨record, message, unwritten⟩⟩⟩
  simp only [keys] at collected
  simp only [collected, onBackend]
  rw [List.nil_append] at grouped
  let listing := order.groups.arrange (FiniteMap.pairs groups)
  have listed (group : (IdentityType × String) × List (UInt32 × Bytes))
      : group ∈ listing ↔ groups.lookup group.1 = some group.2 := by
    rw [order.groups.mem_arrange, ← FiniteMap.mem_pairs]
  obtain ⟨ready, sound, others, outcome⟩ := writeGroups_spec kv order.bundle
    (order.groups.nodup_map_arrange _ (FiniteMap.pairs_keys_nodup groups))
    (fun group member => grouped.unique _ _ ((listed group).mp member))
    (fun group member => grouped.readable roundTrip ((listed group).mp member))
    0 inv.ready inv.sound
  have count := grouped.count unique
    (fun key member => inv.cached key ((members key).mp member)) order.groups
  -- only dirty sessions are written
  have untouched (key : SessionKey) (fresh : key ∉ self.sessionDirty) :=
    others key (fun group member same inGroup => by
      obtain ⟨⟨device, bytes⟩, entry, rfl⟩ := List.mem_map.mp inGroup
      obtain ⟨known, -⟩ := grouped.listed _ _ _ _ ((listed group).mp member) entry
      rw [same] at known
      exact fresh ((members _).mp known))
  have same (key : SessionKey)
      : (self.sessionCache.lookup key).or (storedSession format (kv.view
          (writeGroups format order.bundle listing 0 self.backend).2) key)
        = current format (kv.view self.backend) self key := by
    rw [current]
    cases found : self.sessionCache.lookup key with
    | some record => rfl
    | none =>
        rw [untouched key (fun dirty =>
          absurd (inv.cached key dirty) (AList.lookup_eq_none.mp found))]
  rcases outcome with ⟨e, failed, may⟩ | ⟨done, all⟩
  · simp only [failed]
    refine ⟨⟨ready, sound, inv.cached, fun key record found fresh => ?_⟩, trivial, same,
      .inl ⟨e, rfl, trivial, .inl may⟩⟩
    rw [untouched key fresh]
    exact inv.clean key record found fresh
  · simp only [done]
    refine ⟨⟨ready, sound, fun key absent => absurd absent (AList.notMem_empty key),
      fun key record found _ => ?_⟩, trivial, same, .inr ⟨?_, trivial⟩⟩
    · by_cases dirty : key ∈ self.sessionDirty
      · obtain ⟨entries, bytes, group, entry⟩ := grouped.complete key ((members key).mpr dirty)
          (inv.cached key dirty)
        obtain ⟨-, record', found', written⟩ := grouped.listed _ _ _ _ group entry
        obtain rfl := Option.some.inj (found.symm.trans found')
        have stored := all _ ((listed ((key.1, key.2.1), entries)).mpr group) _ entry
        rw [roundTrip.undo written] at stored
        exact stored
      · rw [untouched key dirty]
        exact inv.clean key record found dirty
    · rw [count, Nat.zero_add, (order.dirty.perm _).length_eq, AList.keys, List.keys,
        List.length_map]

end PddbStore

end XousAppSignal.Store
