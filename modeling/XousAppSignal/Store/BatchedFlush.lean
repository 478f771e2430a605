import XousAppSignal.Store.FlushRetry
import XousAppSignal.Store.TraitCalls

/-! A flush inside an open batch, under any pattern of inner failures. Its writes go to the
batch's buffer and cannot fail, so how far it gets is decided by the reads: it stops at the
first bundle that cannot be read or does not decode, and everything it wrote before stays
buffered.
-/

namespace XousAppSignal.Store

variable {ρ : Type} {format : RecordFormat ρ}

open StoreOp (Buffered innerView)

/-- Reading the bundles one after another gets to this address. A buffered bundle needs no
inner read; the inner reads meet the planned failures in order; and each bundle must decode.
-/
def readsReach (buffer : FiniteMap (String × String) BufferEntry)
    (decodes : IdentityType × String → Bool)
    : List (IdentityType × String) → List (Option Error) → IdentityType × String → Bool
  | [], _, _ => false
  | first :: rest, faults, address =>
      if (buffer.lookup (bundleSlot first)).isSome then
        decodes first
          && (address = first || readsReach buffer decodes rest faults address)
      else
        faults.head?.join.isNone && decodes first
          && (address = first || readsReach buffer decodes rest faults.tail address)

theorem readsReach_of_notMem {buffer : FiniteMap (String × String) BufferEntry}
    {decodes : IdentityType × String → Bool} {addresses : List (IdentityType × String)}
    {address : IdentityType × String} (absent : address ∉ addresses)
    (faults : List (Option Error))
    : readsReach buffer decodes addresses faults address = false := by
  induction addresses generalizing faults with
  | nil => rfl
  | cons first rest ih =>
      simp only [List.mem_cons, not_or] at absent
      simp [readsReach, absent.1, ih absent.2]

/-- Only what is buffered and shown under the listed addresses matters, by induction on them. -/
theorem readsReach_congr {left right : FiniteMap (String × String) BufferEntry}
    {decodesLeft decodesRight : IdentityType × String → Bool}
    {addresses : List (IdentityType × String)}
    (buffered : ∀ address ∈ addresses,
      left.lookup (bundleSlot address) = right.lookup (bundleSlot address))
    (decoded : ∀ address ∈ addresses, decodesLeft address = decodesRight address)
    (faults : List (Option Error)) (address : IdentityType × String)
    : readsReach left decodesLeft addresses faults address
      = readsReach right decodesRight addresses faults address := by
  induction addresses generalizing faults with
  | nil => rfl
  | cons first rest ih =>
      have later := ih (fun other member => buffered other (by simp [member]))
        (fun other member => decoded other (by simp [member]))
      simp only [readsReach, buffered first (by simp), decoded first (by simp), later]

namespace BufferingBackend

/-- The bundle the wrapper shows for an address, if there is one, decodes. -/
def decodes (format : RecordFormat ρ) (self : BufferingBackend InnerBackend)
    (address : IdentityType × String)
    : Bool :=
  (bundleOf format (self.shown (bundleSlot address))).isOk

/-- Reading these bundles gets to the address. -/
def reaches (format : RecordFormat ρ) (self : BufferingBackend InnerBackend)
    (addresses : List (IdentityType × String)) (address : IdentityType × String)
    : Bool :=
  readsReach self.buffer (self.decodes format) addresses self.inner.plan.get address

end BufferingBackend

/-- A flush writes this address's bundle: every dirty record serializes, and each bundle up to
and including this one can be read and decodes.
-/
def PddbStore.flushWrites (format : RecordFormat ρ) (order : FlushOrder) (store : Buffered ρ)
    (address : IdentityType × String)
    : Bool :=
  match store.flushGroups format order with
  | none => false
  | some groups => store.backend.reaches format (groups.map Prod.fst) address

namespace BufferingBackend

/-- The backend after one inner read: one planned outcome is used up. -/
def readOnce (self : BufferingBackend InnerBackend) : BufferingBackend InnerBackend :=
  { self with
    inner :=
      { self.inner with plan := { self.inner.plan with get := self.inner.plan.get.tail } } }

theorem shown_eq {self : BufferingBackend InnerBackend} (opened : self.batching = true)
    : self.shown = overlay self.buffer (fun slot => self.inner.map.lookup slot) := by
  simp [shown, atomic, view, InnerBackend.atomic, opened]

/-- The backend after a bundle was put into the buffer of the open batch. -/
def bufferBundle (order : HashOrder) (address : IdentityType × String)
    (bundle : SessionBundle) (self : BufferingBackend InnerBackend)
    : BufferingBackend InnerBackend :=
  { self with
    buffer :=
      self.buffer.insert (bundleSlot address) (.put (serializeSessionBundle order bundle)) }

/-- A read of an address's bundle that leaves the wrapper as `next`: the bundle to extend, or
the error of one that does not decode.
-/
def BundleRead (format : RecordFormat ρ) (address : IdentityType × String)
    (self next : BufferingBackend InnerBackend)
    : Prop :=
  (∃ found,
    backendGetSessionBundle format (dictSession address.1) address.2 self = (.ok found, next)
    ∧ bundleOf format (self.shown (bundleSlot address)) = .ok (found.getD ∅))
  ∨ ∃ e, backendGetSessionBundle format (dictSession address.1) address.2 self = (.error e, next)
      ∧ self.decodes format address = false

/-- Once the bytes are read, the bundle is what they decode to. -/
theorem bundleRead_of_get {self next : BufferingBackend InnerBackend}
    (address : IdentityType × String)
    (read : KvBackend.get (dictSession address.1) address.2 self
      = (.ok (self.shown (bundleSlot address)), next))
    : BundleRead format address self next := by
  unfold BundleRead backendGetSessionBundle decodes
  rw [read]
  generalize self.shown (bundleSlot address) = stored
  cases stored with
  | none => exact .inl ⟨none, rfl, rfl⟩
  | some bytes =>
      cases decoded : deserializeSessionBundle format bytes with
      | ok bundle =>
          exact .inl ⟨some bundle, by simp [Except.map, decoded], by simp [bundleOf, decoded]⟩
      | error e =>
          exact .inr ⟨e, by simp [Except.map, decoded], by simp [bundleOf, decoded, Except.isOk,
            Except.toBool]⟩

/-- A buffered bundle is read without an inner call. -/
theorem getBundle_buffered {self : BufferingBackend InnerBackend}
    (opened : self.batching = true) (address : IdentityType × String)
    (found : (self.buffer.lookup (bundleSlot address)).isSome = true)
    : BundleRead format address self self := by
  obtain ⟨entry, here⟩ := Option.isSome_iff_exists.mp found
  apply bundleRead_of_get address
  rw [shown_eq opened]
  simp [KvBackend.get, get, isBatching, opened, here, overlay]

/-- A bundle that is not buffered is read from below, when that read succeeds. -/
theorem getBundle_below {self : BufferingBackend InnerBackend}
    (opened : self.batching = true) (address : IdentityType × String)
    (missing : (self.buffer.lookup (bundleSlot address)).isSome = false)
    (works : self.inner.plan.get.head?.join.isNone = true)
    : BundleRead format address self self.readOnce := by
  rw [Option.isSome_eq_false_iff, Option.isNone_iff_eq_none] at missing
  rw [Option.isNone_iff_eq_none] at works
  apply bundleRead_of_get address
  rw [shown_eq opened]
  simp [KvBackend.get, get, isBatching, opened, missing, overlay, forward, InnerBackend.get,
    works, readOnce]

/-- The failing read. -/
theorem getBundle_failed {self : BufferingBackend InnerBackend}
    (opened : self.batching = true) (address : IdentityType × String)
    (missing : (self.buffer.lookup (bundleSlot address)).isSome = false)
    (fails : self.inner.plan.get.head?.join.isNone = false)
    : ∃ e, backendGetSessionBundle format (dictSession address.1) address.2 self
        = (.error e, self.readOnce) := by
  rw [Option.isSome_eq_false_iff, Option.isNone_iff_eq_none] at missing
  obtain ⟨e, fault⟩ := Option.isNone_eq_false_iff.mp fails |> Option.isSome_iff_exists.mp
  refine ⟨e, ?_⟩
  simp [backendGetSessionBundle, KvBackend.get, get, isBatching, opened, missing, forward,
    InnerBackend.get, fault, readOnce]

/-- Writing a bundle inside a batch puts it into the buffer. -/
theorem putBundle_batched {self : BufferingBackend InnerBackend}
    (opened : self.batching = true) (order : HashOrder) (address : IdentityType × String)
    (bundle : SessionBundle)
    : backendPutSessionBundle order (dictSession address.1) address.2 bundle self
      = (.ok (), self.bufferBundle order address bundle) := by
  simp [backendPutSessionBundle, KvBackend.put, put, isBatching, opened, bufferBundle]

/-- The effect of the groups of a flush inside a batch: a group that is reached is buffered
and shows its records, and the buffer is left alone everywhere else.
-/
structure GroupsWritten (format : RecordFormat ρ)
    (groups : List ((IdentityType × String) × List (UInt32 × Bytes)))
    (before after : BufferingBackend InnerBackend)
    : Prop where
  flag : after.batching = true
  below : after.inner.map = before.inner.map
  unreached
    : ∀ address, before.reaches format (groups.map Prod.fst) address = false
        → after.buffer.lookup (bundleSlot address) = before.buffer.lookup (bundleSlot address)
  reached
    : ∀ group ∈ groups, before.reaches format (groups.map Prod.fst) group.1 = true
        → ∀ entry ∈ group.2,
            storedSession format after.shown (group.1.1, group.1.2, entry.1)
              = (format.deserialize entry.2).toOption

theorem readOnce_shown (self : BufferingBackend InnerBackend) : self.readOnce.shown = self.shown :=
  rfl

/-- The view after buffering a bundle of an address. -/
theorem shown_bufferBundle {self : BufferingBackend InnerBackend}
    (opened : self.batching = true) (order : HashOrder) (address : IdentityType × String)
    (bundle : SessionBundle)
    : (self.bufferBundle order address bundle).shown
      = Function.update self.shown (bundleSlot address)
          (some (serializeSessionBundle order bundle)) := by
  have still : (self.bufferBundle order address bundle).batching = true := opened
  rw [shown_eq opened, shown_eq still, bufferBundle, overlay_insert]
  rfl

/-- Two batches that buffer the same under a slot, over the same map, show the same. -/
theorem shown_congr {left right : BufferingBackend InnerBackend}
    (leftOpen : left.batching = true) (rightOpen : right.batching = true)
    {slot : String × String} (buffer : left.buffer.lookup slot = right.buffer.lookup slot)
    (below : left.inner.map = right.inner.map)
    : left.shown slot = right.shown slot := by
  rw [shown_eq leftOpen, shown_eq rightOpen]
  simp only [overlay, buffer, below]

/-- The first group of a flush was read: it is written, and the rest goes on from there. -/
theorem GroupsWritten.cons {address : IdentityType × String} {entries : List (UInt32 × Bytes)}
    {rest : List ((IdentityType × String) × List (UInt32 × Bytes))}
    {before read after : BufferingBackend InnerBackend} (order : HashOrder)
    (opened : read.batching = true) (buffer : read.buffer = before.buffer)
    (shows : read.shown = before.shown) (below : read.inner.map = before.inner.map)
    (distinct : address ∉ rest.map Prod.fst) (unique : (entries.map Prod.fst).Nodup)
    {bundle : SessionBundle}
    (fits : ∀ {device bytes}, (FiniteMap.insertAll bundle entries).lookup device = some bytes
      → Bincode.Fits bytes)
    (reads : ∀ other,
      before.reaches format (address :: rest.map Prod.fst) other
        = (decide (other = address)
          || readsReach before.buffer (before.decodes format) (rest.map Prod.fst)
            read.inner.plan.get other))
    (later
      : GroupsWritten format rest
          (read.bufferBundle order address (FiniteMap.insertAll bundle entries)) after)
    : GroupsWritten format ((address, entries) :: rest) before after := by
  let wrote := read.bufferBundle order address (FiniteMap.insertAll bundle entries)
  have elsewhere {other : IdentityType × String} (different : other ≠ address)
      : wrote.buffer.lookup (bundleSlot other) = before.buffer.lookup (bundleSlot other) := by
    rw [← buffer]
    exact AList.lookup_insert_ne (sessionSlot_ne different)
  have shown {other : IdentityType × String} (different : other ≠ address)
      : wrote.decodes format other = before.decodes format other := by
    unfold decodes
    rw [shown_bufferBundle opened, shows, Function.update_of_ne (sessionSlot_ne different)]
  have restReads (other : IdentityType × String)
      : wrote.reaches format (rest.map Prod.fst) other
        = readsReach before.buffer (before.decodes format) (rest.map Prod.fst)
          read.inner.plan.get other := by
    apply readsReach_congr
    · intro listed member
      exact elsewhere (fun same => distinct (same ▸ member))
    · intro listed member
      exact shown (fun same => distinct (same ▸ member))
  refine ⟨later.flag, later.below.trans below, ?_, ?_⟩
  · intro other unread
    rw [List.map_cons, reads, Bool.or_eq_false_iff, decide_eq_false_iff_not] at unread
    rw [later.unreached other ((restReads other).trans unread.2)]
    exact elsewhere unread.1
  · intro group member reached entry listed
    rcases List.mem_cons.mp member with rfl | inRest
    · have kept := later.unreached address (readsReach_of_notMem distinct _)
      have wroteOpen : wrote.batching = true := opened
      have same : after.shown (bundleSlot address) = wrote.shown (bundleSlot address) :=
        shown_congr later.flag wroteOpen kept later.below
      rw [@storedSession_congr _ format _ wrote.shown (address.1, address.2, entry.1) same,
        shown_bufferBundle opened, storedSession_put order _ address fits, if_pos rfl,
        SessionBundle.session, FiniteMap.lookup_insertAll_of_mem unique listed,
        Option.bind_some]
    · have different : group.1 ≠ address := by
        intro same
        exact distinct (same ▸ List.mem_map_of_mem inRest)
      rw [List.map_cons, reads, decide_eq_false different, Bool.false_or] at reached
      exact later.reached group inRest ((restReads group.1).trans reached) entry listed

/-- A flush that stops at its first group leaves everything alone. -/
theorem GroupsWritten.stopped {groups : List ((IdentityType × String) × List (UInt32 × Bytes))}
    {before after : BufferingBackend InnerBackend} (flag : after.batching = true)
    (below : after.inner.map = before.inner.map) (buffer : after.buffer = before.buffer)
    (stops : ∀ address, before.reaches format (groups.map Prod.fst) address = false)
    : GroupsWritten format groups before after :=
  ⟨flag, below, fun _ _ => by rw [buffer],
    fun group _ reached => by rw [stops] at reached; cases reached⟩

/-- Writing the groups of a flush inside a batch, by induction on the groups: each reads
its own bundle, extends it and puts it back into the buffer.
-/
theorem writeGroups_batched (addressable : format.Addressable)
    (order : IdentityType × String → HashOrder)
    {groups : List ((IdentityType × String) × List (UInt32 × Bytes))}
    (distinct : (groups.map Prod.fst).Nodup)
    (unique : ∀ group ∈ groups, (group.2.map Prod.fst).Nodup)
    (fits : ∀ group ∈ groups, ∀ entry ∈ group.2, Bincode.Fits entry.2)
    (written : Nat) {self : BufferingBackend InnerBackend} (opened : self.batching = true)
    : GroupsWritten format groups self
        (PddbStore.writeGroups format order groups written self).2 := by
  induction groups generalizing written self with
  | nil => exact ⟨opened, rfl, fun _ _ => rfl, fun _ member => by cases member⟩
  | cons group rest ih =>
      obtain ⟨address, entries⟩ := group
      simp only [List.map_cons, List.nodup_cons] at distinct
      have single : (entries.map Prod.fst).Nodup := unique (address, entries) (by simp)
      -- the groups from the backend a read leaves, whether the bundle decodes or not
      have goOn {read : BufferingBackend InnerBackend} (readOpen : read.batching = true)
          (buffer : read.buffer = self.buffer) (shows : read.shown = self.shown)
          (below : read.inner.map = self.inner.map)
          (reads : ∀ other,
            self.reaches format (address :: rest.map Prod.fst) other
              = (self.decodes format address
                && (decide (other = address)
                  || readsReach self.buffer (self.decodes format) (rest.map Prod.fst)
                    read.inner.plan.get other)))
          (outcome : BundleRead format address self read)
          : GroupsWritten format ((address, entries) :: rest) self
              (PddbStore.writeGroups format order ((address, entries) :: rest) written self).2
          := by
        unfold PddbStore.writeGroups
        rcases outcome with ⟨found, answer, decoded⟩ | ⟨e, answer, undecoded⟩
        · simp only [answer, putBundle_batched readOpen]
          have bundleFits {device : UInt32} {bytes : Bytes}
              (here : (FiniteMap.insertAll (found.getD ∅) entries).lookup device = some bytes)
              : Bincode.Fits bytes := by
            by_cases member : device ∈ entries.map Prod.fst
            · obtain ⟨entry, listed, rfl⟩ := List.mem_map.mp member
              rw [FiniteMap.lookup_insertAll_of_mem single listed] at here
              exact Option.some.inj here ▸ fits (address, entries) (by simp) entry listed
            · rw [FiniteMap.lookup_insertAll_of_notMem member] at here
              exact bundleOf_fits addressable decoded here
          have decodes : self.decodes format address = true := by
            simp [BufferingBackend.decodes, decoded, Except.isOk, Except.toBool]
          refine GroupsWritten.cons (order address) readOpen buffer shows below distinct.1 single
            bundleFits (fun other => by rw [reads, decodes, Bool.true_and]) ?_
          exact ih distinct.2 (fun group member => unique group (by simp [member]))
            (fun group member => fits group (by simp [member])) _ readOpen
        · simp only [answer]
          refine .stopped readOpen below buffer (fun other => ?_)
          rw [List.map_cons, reads, undecoded, Bool.false_and]
      cases found : (self.buffer.lookup (bundleSlot address)).isSome with
      | true =>
          refine goOn opened rfl rfl rfl (fun other => ?_) (getBundle_buffered opened address found)
          rw [reaches, readsReach, if_pos found]
      | false =>
          cases works : self.inner.plan.get.head?.join.isNone with
          | true =>
              refine @goOn self.readOnce opened rfl self.readOnce_shown rfl (fun other => ?_)
                (getBundle_below opened address found works)
              rw [reaches, readsReach, if_neg (by simp [found]), works, Bool.true_and]
              rfl
          | false =>
              obtain ⟨e, failed⟩ := @getBundle_failed _ format _ opened address found works
              unfold PddbStore.writeGroups
              simp only [failed]
              refine .stopped opened rfl rfl (fun other => ?_)
              rw [List.map_cons, reaches, readsReach, if_neg (by simp [found]), works]
              rfl

end BufferingBackend

/-- A whole flush inside a batch: the bundles it gets to are buffered with their dirty
records, and everything else stays as it was.
-/
structure PddbStore.FlushBatched (format : RecordFormat ρ) (order : FlushOrder)
    (before after : Buffered ρ)
    : Prop where
  flag : after.backend.batching = true
  below : after.backend.inner.map = before.backend.inner.map
  unreached
    : ∀ address, before.flushWrites format order address = false
        → after.backend.buffer.lookup (bundleSlot address)
          = before.backend.buffer.lookup (bundleSlot address)
  reached
    : ∀ key record,
        key ∈ before.sessionDirty
        → before.sessionCache.lookup key = some record
        → before.flushWrites format order (key.1, key.2.1) = true
        → storedSession format after.backend.shown key = some record

/-- Witness: group the dirty records, then write the groups one by one. -/
theorem PddbStore.flushSessions_batched (roundTrip : format.RoundTrip)
    (addressable : format.Addressable) {store : Buffered ρ}
    (opened : store.backend.batching = true) (order : FlushOrder)
    : FlushBatched format order store (store.flushSessions format order).2 := by
  have unchanged (nothing : ∀ address, store.flushWrites format order address = false)
      : FlushBatched format order store store :=
    ⟨opened, rfl, fun _ _ => rfl,
      fun key _ _ _ written => by rw [nothing] at written; cases written⟩
  have unique : (order.dirty.arrange store.sessionDirty.keys).Nodup :=
    (order.dirty.perm store.sessionDirty.keys).nodup_iff.mpr store.sessionDirty.keys_nodup
  rcases groupDirty_spec (order.dirty.arrange store.sessionDirty.keys)
      (grouped_nil format store.sessionCache) unique with
    ⟨e, record, message, failed, -⟩ | ⟨groups, collected, grouped⟩
  · have same : (store.flushSessions format order).2 = store := by
      simp only [flushSessions, failed]
      split <;> rfl
    rw [same]
    exact unchanged (fun address => by simp [flushWrites, flushGroups, failed])
  · have visited : store.flushGroups format order
        = some (order.groups.arrange (FiniteMap.pairs groups)) := by
      simp [flushGroups, collected]
    have listed {group : (IdentityType × String) × List (UInt32 × Bytes)}
        : group ∈ order.groups.arrange (FiniteMap.pairs groups)
          ↔ groups.lookup group.1 = some group.2 := by
      rw [order.groups.mem_arrange, ← FiniteMap.mem_pairs]
    have wrote := BufferingBackend.writeGroups_batched addressable order.bundle
      (order.groups.nodup_map_arrange _ (FiniteMap.pairs_keys_nodup groups))
      (fun group member => grouped.unique _ _ (listed.mp member))
      (fun group member entry inGroup =>
        (grouped.readable roundTrip (listed.mp member) entry inGroup).1)
      0 opened
    have backend : (store.flushSessions format order).2.backend
          = (writeGroups format order.bundle
              (order.groups.arrange (FiniteMap.pairs groups)) 0 store.backend).2
        ∨ store.sessionDirty = ∅ ∧ (store.flushSessions format order).2 = store := by
      simp only [flushSessions, collected, onBackend]
      split
      · next empty => exact .inr ⟨AList.ext (List.isEmpty_iff.mp empty), rfl⟩
      · left
        generalize writeGroups format order.bundle
          (order.groups.arrange (FiniteMap.pairs groups)) 0 store.backend = outcome
        obtain ⟨_ | written, next⟩ := outcome <;> rfl
    rcases backend with backend | ⟨empty, same⟩
    · rw [← backend] at wrote
      refine ⟨wrote.flag, wrote.below, ?_, ?_⟩
      · intro address unwritten
        rw [flushWrites, visited] at unwritten
        exact wrote.unreached address unwritten
      · intro key record dirty cached written
        rw [flushWrites, visited] at written
        obtain ⟨entries, bytes, found, entry⟩ := grouped.complete key
          (by rw [List.nil_append, order.dirty.mem_arrange]; exact AList.mem_keys.mp dirty)
          (FiniteMap.mem_iff_lookup.mpr ⟨record, cached⟩)
        obtain ⟨-, record', cached', serialized⟩ := grouped.listed _ _ _ _ found entry
        obtain rfl := Option.some.inj (cached.symm.trans cached')
        have stored := wrote.reached _
          ((@listed ((key.1, key.2.1), entries)).mpr found) written _ entry
        rw [roundTrip.undo serialized] at stored
        exact stored
    · rw [same]
      exact ⟨opened, rfl, fun _ _ => rfl,
        fun key _ dirty => by rw [empty] at dirty; cases AList.notMem_empty key dirty⟩

end XousAppSignal.Store
