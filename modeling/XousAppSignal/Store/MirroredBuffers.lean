import XousAppSignal.Store.LimitedContract

/-! Two write buffers in step: one over a backend that serves limited names, one over a backend
that serves all. As long as the names stay within the limits, the buffers are the same, the
maps below show the same, and whole batches, committed or aborted, keep it so.
-/

namespace XousAppSignal.Store

namespace BufferingBackend

-----------------------------------------------------------------------------------------
-- Replaying a buffer within the limits
-----------------------------------------------------------------------------------------

section Replay

variable {α : Type} [KvBackend α] {limits : NameLimits} (left : KvContractOn limits α)

/-- The fallback writes every entry and remembers no error, by induction on the entries. -/
theorem fallbackPuts_within {puts : List (String × String × Bytes)}
    (within : ∀ entry ∈ puts, limits.Allows (entry.1, entry.2.1)) (firstErr : Option Error)
    {backend : α} (ready : left.Ready backend)
    : (fallbackPuts puts firstErr backend).1 = firstErr
      ∧ left.Ready (fallbackPuts puts firstErr backend).2
      ∧ left.view (fallbackPuts puts firstErr backend).2
        = (left.view backend).putAll puts := by
  induction puts generalizing backend with
  | nil => exact ⟨rfl, ready, rfl⟩
  | cons entry rest ih =>
      obtain ⟨dict, key, value⟩ := entry
      obtain ⟨first, later⟩ := List.forall_mem_cons.mp within
      have call := left.put ready first value
      have tail := ih later call.ready
      rw [View.putAll_cons, ← call.view]
      simpa only [fallbackPuts, call.result, firstError] using tail

/-- Every put is written, by the bulk write or after it. -/
theorem replayPuts_within {puts : List (String × String × Bytes)}
    (unique : (View.slots puts).Nodup)
    (within : ∀ entry ∈ puts, limits.Allows (entry.1, entry.2.1)) {backend : α}
    (ready : left.Ready backend)
    : (replayPuts puts backend).1 = none
      ∧ left.Ready (replayPuts puts backend).2
      ∧ left.view (replayPuts puts backend).2 = (left.view backend).putAll puts := by
  unfold replayPuts
  split
  · next empty =>
    rw [List.isEmpty_iff.mp empty]
    exact ⟨rfl, ready, rfl⟩
  · obtain ⟨bulkReady, landed, sub, full, shown⟩ := left.putBatch ready within
    generalize KvBackend.putBatch puts backend = outcome at bulkReady full shown ⊢
    obtain ⟨e | done, next⟩ := outcome
    · obtain ⟨noErr, endReady, endView⟩ := fallbackPuts_within left within none bulkReady
      exact ⟨noErr, endReady, endView.trans (shown ▸ View.putAll_putAll_sublist unique sub)⟩
    · rw [full rfl] at shown
      exact ⟨rfl, bulkReady, shown⟩

theorem replayDeletes_within {deletes : List (String × String)}
    (within : ∀ slot ∈ deletes, limits.Allows slot) (firstErr : Option Error) {backend : α}
    (ready : left.Ready backend)
    : (replayDeletes deletes firstErr backend).1 = firstErr
      ∧ left.Ready (replayDeletes deletes firstErr backend).2
      ∧ left.view (replayDeletes deletes firstErr backend).2
        = (left.view backend).dropAll deletes := by
  induction deletes generalizing backend with
  | nil =>
      refine ⟨rfl, ready, ?_⟩
      funext slot
      simp [replayDeletes, View.dropAll]
  | cons slot rest ih =>
      obtain ⟨dict, key⟩ := slot
      obtain ⟨first, later⟩ := List.forall_mem_cons.mp within
      have call := left.delete ready first
      have tail := ih later call.ready
      rw [← View.dropAll_cons, ← call.view]
      simpa only [replayDeletes, call.result, firstError] using tail

/-- A commit succeeds and leaves the inner backend showing what the batch showed. -/
theorem commitInternal_within (order : HashOrder) {self : BufferingBackend α}
    (within : ∀ slot ∈ self.buffer, limits.Allows slot) (ready : left.Ready self.inner)
    : (commitInternal order self).1 = .ok self.bufferedLen
      ∧ left.Ready (commitInternal order self).2.inner
      ∧ left.view (commitInternal order self).2.inner
        = overlay self.buffer (left.view self.inner)
      ∧ (commitInternal order self).2.batching = false
      ∧ (commitInternal order self).2.buffer = ∅ := by
  let entries := order.arrange (FiniteMap.pairs self.buffer)
  have drained : entries.Perm (FiniteMap.pairs self.buffer) := order.perm _
  have unique : (entries.map Prod.fst).Nodup :=
    order.nodup_map_arrange _ (FiniteMap.pairs_keys_nodup _)
  have listed {slot : String × String} {entry : BufferEntry} (member : (slot, entry) ∈ entries)
      : limits.Allows slot :=
    within slot (FiniteMap.mem_iff_lookup.mpr
      ⟨entry, FiniteMap.mem_pairs.mp (drained.mem_iff.mp member)⟩)
  obtain ⟨noPutErr, putReady, putView⟩ := replayPuts_within left
    ((slots_putsOf_sublist entries).nodup unique) (fun _ put => listed (mem_putsOf.mp put)) ready
  have gone (slot : String × String) (member : slot ∈ deletesOf entries) : limits.Allows slot :=
    listed (mem_deletesOf.mp member)
  obtain ⟨noErr, endReady, endView⟩ := replayDeletes_within left gone none putReady
  have size : entries.length = self.bufferedLen := by
    simp [entries, bufferedLen, FiniteMap.pairs]
  have outcome : commitInternal order self
      = (.ok self.bufferedLen,
          { inner :=
              (replayDeletes (deletesOf entries) none
                (replayPuts (putsOf entries) self.inner).2).2 }) := by
    simp only [commitInternal, ← size]
    rw [noPutErr, noErr]
  rw [outcome]
  exact ⟨rfl, endReady, endView.trans (putView ▸ replay_overlay _ _ drained), rfl, rfl⟩

end Replay

-----------------------------------------------------------------------------------------
-- Buffers in step
-----------------------------------------------------------------------------------------

variable {α β : Type} [KvBackend α] [KvBackend β] {limits : NameLimits}

/-- The same batch over backends that show the same map, with names within the limits. -/
structure Mirrors (left : KvContractOn limits α) (right : KvContract β)
    (a : BufferingBackend α) (b : BufferingBackend β) : Prop where
  flag : a.batching = b.batching
  buffer : a.buffer = b.buffer
  within : ∀ slot ∈ a.buffer, limits.Allows slot
  ready : left.Ready a.inner
  ready' : right.Ready b.inner
  same : left.view a.inner = right.view b.inner

namespace Mirrors

variable {left : KvContractOn limits α} {right : KvContract β} {dict key : String}

theorem start {inner : α} {inner' : β} (ready : left.Ready inner) (ready' : right.Ready inner')
    (same : left.view inner = right.view inner')
    : Mirrors left right (.new inner) (.new inner') :=
  ⟨rfl, rfl, fun _ member => absurd member (AList.notMem_empty _), ready, ready', same⟩

/-- Wrappers in step are the same but for their inner backends. -/
theorem alike {γ : Type} {call : BufferingBackend α → γ × BufferingBackend α}
    {call' : BufferingBackend β → γ × BufferingBackend β}
    (each : ∀ inner inner' flag buffer,
      Mirrors left right ⟨inner, flag, buffer⟩ ⟨inner', flag, buffer⟩
      → (call ⟨inner, flag, buffer⟩).1 = (call' ⟨inner', flag, buffer⟩).1
        ∧ Mirrors left right (call ⟨inner, flag, buffer⟩).2 (call' ⟨inner', flag, buffer⟩).2)
    : Alike (Mirrors left right) call call' := by
  rintro ⟨inner, flag, buffer⟩ ⟨inner', flag', buffer'⟩ mirrors
  obtain rfl : flag = flag' := mirrors.flag
  obtain rfl : buffer = buffer' := mirrors.buffer
  exact each inner inner' flag buffer mirrors

/-- Calls of the inner backends that answer alike, through both wrappers. -/
theorem forward {γ : Type} {call : Call α γ} {call' : Call β γ}
    (answers : ∀ {inner inner'}, left.Ready inner → right.Ready inner'
      → left.view inner = right.view inner'
      → (call inner).1 = (call' inner').1 ∧ left.Ready (call inner).2
        ∧ right.Ready (call' inner').2 ∧ left.view (call inner).2 = right.view (call' inner').2)
    : Alike (Mirrors left right) (BufferingBackend.forward call)
        (BufferingBackend.forward call') := by
  intro a b mirrors
  obtain ⟨same, ready, ready', shown⟩ := answers mirrors.ready mirrors.ready' mirrors.same
  exact ⟨same, mirrors.flag, mirrors.buffer, mirrors.within, ready, ready', shown⟩

/-- The same entry goes into both buffers. -/
theorem insert {inner : α} {inner' : β} {flag : Bool}
    {buffer : FiniteMap (String × String) BufferEntry}
    (mirrors : Mirrors left right ⟨inner, flag, buffer⟩ ⟨inner', flag, buffer⟩)
    (allows : limits.Allows (dict, key)) (entry : BufferEntry)
    : Mirrors left right ⟨inner, flag, buffer.insert (dict, key) entry⟩
        ⟨inner', flag, buffer.insert (dict, key) entry⟩ := by
  refine ⟨rfl, rfl, fun slot member => ?_, mirrors.ready, mirrors.ready', mirrors.same⟩
  rcases AList.mem_insert _ |>.mp member with rfl | member
  · exact allows
  · exact mirrors.within slot member

theorem get (allows : limits.Allows (dict, key))
    : Alike (Mirrors left right) (KvBackend.get dict key) (KvBackend.get dict key) := by
  refine alike fun a b flag buffer mirrors => ?_
  have inner : Alike (Mirrors left right) (BufferingBackend.forward (KvBackend.get dict key))
      (BufferingBackend.forward (KvBackend.get dict key)) := forward (fun ready ready' same => by
    have l := left.get ready allows
    have r := right.get ready' dict key
    exact ⟨by rw [l.result, r.result, same], l.ready, r.ready,
      l.view.trans (same.trans r.view.symm)⟩)
  simp only [KvBackend.get, BufferingBackend.get, isBatching]
  split
  · exact ⟨rfl, mirrors⟩
  · exact inner mirrors

theorem put (allows : limits.Allows (dict, key)) (value : Bytes)
    : Alike (Mirrors left right) (KvBackend.put dict key value)
        (KvBackend.put dict key value) := by
  refine alike fun a b flag buffer mirrors => ?_
  have inner : Alike (Mirrors left right) (BufferingBackend.forward (KvBackend.put dict key value))
      (BufferingBackend.forward (KvBackend.put dict key value)) := forward (fun ready ready' same => by
    have l := left.put ready allows value
    have r := right.put ready' dict key value
    exact ⟨by rw [l.result, r.result], l.ready, r.ready,
      l.view.trans (same ▸ r.view.symm)⟩)
  simp only [KvBackend.put, BufferingBackend.put, isBatching]
  split
  · exact ⟨rfl, mirrors.insert allows _⟩
  · exact inner mirrors

theorem delete (allows : limits.Allows (dict, key))
    : Alike (Mirrors left right) (KvBackend.delete dict key) (KvBackend.delete dict key) := by
  refine alike fun a b flag buffer mirrors => ?_
  have inner : Alike (Mirrors left right) (BufferingBackend.forward (KvBackend.delete dict key))
      (BufferingBackend.forward (KvBackend.delete dict key)) := forward (fun ready ready' same => by
    have l := left.delete ready allows
    have r := right.delete ready' dict key
    exact ⟨by rw [l.result, r.result], l.ready, r.ready,
      l.view.trans (same ▸ r.view.symm)⟩)
  simp only [KvBackend.delete, BufferingBackend.delete, isBatching]
  split
  · exact ⟨rfl, mirrors.insert allows _⟩
  · exact inner mirrors

theorem deleteDict (allows : limits.dict dict)
    : Alike (Mirrors left right) (KvBackend.deleteDict dict) (KvBackend.deleteDict dict) := by
  have inner : Alike (Mirrors left right) (BufferingBackend.forward (KvBackend.deleteDict dict))
      (BufferingBackend.forward (KvBackend.deleteDict dict)) := forward (fun ready ready' same => by
      have l := left.deleteDict ready allows
      have r := right.deleteDict ready' dict
      exact ⟨by rw [l.result, r.result], l.ready, r.ready,
        l.view.trans (same ▸ r.view.symm)⟩)
  refine alike fun a b flag buffer mirrors => ?_
  simp only [KvBackend.deleteDict, BufferingBackend.deleteDict, isBatching]
  split
  · refine inner ⟨rfl, rfl, fun slot member => ?_, mirrors.ready, mirrors.ready', mirrors.same⟩
    exact mirrors.within slot (FiniteMap.mem_retain.mp member).2
  · exact inner mirrors

/-- Both wrappers list the same keys, and in a batch in the same order. -/
theorem listKeys (allows : limits.dict dict) {a : BufferingBackend α} {b : BufferingBackend β}
    (mirrors : Mirrors left right a b)
    : ∃ keys keys' : List String,
        (KvBackend.listKeys dict a).1 = .ok keys ∧ (KvBackend.listKeys dict b).1 = .ok keys'
        ∧ keys.Perm keys'
        ∧ Mirrors left right (KvBackend.listKeys dict a).2 (KvBackend.listKeys dict b).2 := by
  obtain ⟨a, flag, buffer⟩ := a
  obtain ⟨b, flag', buffer'⟩ := b
  obtain rfl : flag = flag' := mirrors.flag
  obtain rfl : buffer = buffer' := mirrors.buffer
  obtain ⟨keys, l, once, listed⟩ := left.listKeys mirrors.ready allows
  obtain ⟨keys', r, once', listed'⟩ := right.listKeys mirrors.ready' dict
  have perm : keys.Perm keys' := (List.perm_ext_iff_of_nodup once once').mpr (fun key => by
    rw [listed, listed', mirrors.same])
  have moved : Mirrors left right ⟨(KvBackend.listKeys dict a).2, flag, buffer⟩
      ⟨(KvBackend.listKeys dict b).2, flag, buffer⟩ :=
    ⟨rfl, rfl, mirrors.within, l.ready, r.ready, l.view.trans (mirrors.same.trans r.view.symm)⟩
  have folded : keys.toFinset = keys'.toFinset := List.toFinset_eq_of_perm _ _ perm
  simp only [KvBackend.listKeys, BufferingBackend.listKeys, BufferingBackend.forward, l.result,
    r.result, isBatching, ← folded]
  split
  · exact ⟨keys, keys', rfl, rfl, perm, moved⟩
  · exact ⟨_, _, rfl, rfl, .rfl, moved⟩

/-- A call is answered alike through both wrappers. -/
theorem perform {op : KvOp} (within : op.Within limits) {a : BufferingBackend α}
    {b : BufferingBackend β} (mirrors : Mirrors left right a b)
    : Agrees (op.perform a).1 (op.perform b).1
      ∧ Mirrors left right (op.perform a).2 (op.perform b).2 := by
  have answered {γ : Type} {reply : γ → KvReply} {result result' : Except Error γ}
      (same : result = result') : Agrees (result.map reply) (result'.map reply) := by
    subst same
    cases result with
    | error e => exact .error e
    | ok value => exact .ok (by cases reply value <;> simp [KvReply.Agrees])
  cases op with
  | get dict key =>
      obtain ⟨same, after⟩ := get within mirrors
      exact ⟨answered same, after⟩
  | put dict key value =>
      obtain ⟨same, after⟩ := put within value mirrors
      exact ⟨answered same, after⟩
  | delete dict key =>
      obtain ⟨same, after⟩ := delete within mirrors
      exact ⟨answered same, after⟩
  | deleteDict dict =>
      obtain ⟨same, after⟩ := deleteDict within mirrors
      exact ⟨answered same, after⟩
  | listKeys dict =>
      obtain ⟨keys, keys', first, second, perm, after⟩ := listKeys within mirrors
      refine ⟨?_, after⟩
      simp only [KvOp.perform, first, second, Except.map]
      exact .ok (fun key => perm.mem_iff)

theorem beginBatch
    : Alike (Mirrors left right) BufferingBackend.beginBatch BufferingBackend.beginBatch := by
  refine alike fun a b flag buffer mirrors => ?_
  cases flag with
  | false => exact ⟨rfl, rfl, rfl, mirrors.within, mirrors.ready, mirrors.ready', mirrors.same⟩
  | true => exact ⟨rfl, mirrors⟩

theorem abort {a : BufferingBackend α} {b : BufferingBackend β} (mirrors : Mirrors left right a b)
    : Mirrors left right a.abortInternal b.abortInternal :=
  ⟨rfl, rfl, fun _ member => absurd member (AList.notMem_empty _), mirrors.ready, mirrors.ready',
    mirrors.same⟩

/-- Both commits succeed and write the same, whatever becomes of the bulk writes. -/
theorem commit (order : HashOrder)
    : Alike (Mirrors left right) (commitInternal order) (commitInternal order) := by
  intro a b mirrors
  obtain ⟨done, ready, shown, closed, empty⟩ :=
    commitInternal_within left order mirrors.within mirrors.ready
  obtain ⟨done', ready', shown', closed', empty'⟩ :=
    commitInternal_returns right order mirrors.ready'
  refine ⟨?_, closed.trans closed'.symm, empty.trans empty'.symm, ?_, ready, ready', ?_⟩
  · rw [done, done', bufferedLen, bufferedLen, mirrors.buffer]
  · intro slot member
    rw [empty] at member
    exact absurd member (AList.notMem_empty _)
  · rw [shown, shown', mirrors.buffer, mirrors.same]

end Mirrors

end BufferingBackend

end XousAppSignal.Store
