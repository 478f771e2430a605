import XousAppSignal.Store.BufferingBackend

/-! A batch is direct execution, deferred: inside a batch the wrapper shows the buffer laid
over the inner map, and a commit makes the inner map equal to what was shown.
-/

namespace XousAppSignal.Store

namespace View

/-- The slots a bulk write touches. -/
abbrev slots (entries : List (String × String × Bytes)) : List (String × String) :=
  entries.map (fun entry => (entry.1, entry.2.1))

@[simp]
theorem putAll_nil (view : View) : view.putAll [] = view := rfl

@[simp]
theorem putAll_cons (view : View) (entry : String × String × Bytes)
    (rest : List (String × String × Bytes))
    : view.putAll (entry :: rest)
      = View.putAll (Function.update view (entry.1, entry.2.1) (some entry.2.2)) rest :=
  rfl

theorem putAll_of_notMem {view : View} {entries : List (String × String × Bytes)}
    {slot : String × String} (absent : slot ∉ slots entries)
    : view.putAll entries slot = view slot := by
  induction entries generalizing view with
  | nil => rfl
  | cons entry rest ih =>
      simp only [slots, List.map_cons, List.mem_cons, not_or] at absent
      rw [putAll_cons, ih absent.2, Function.update_of_ne absent.1]

theorem putAll_of_mem (view : View) {entries : List (String × String × Bytes)}
    {dict key : String} {value : Bytes} (unique : (slots entries).Nodup)
    (member : (dict, key, value) ∈ entries)
    : view.putAll entries (dict, key) = some value := by
  induction entries generalizing view with
  | nil => cases member
  | cons entry rest ih =>
      simp only [slots, List.map_cons, List.nodup_cons] at unique
      rw [putAll_cons]
      rcases List.mem_cons.mp member with rfl | later
      · rw [putAll_of_notMem unique.1, Function.update_self]
      · exact ih _ unique.2 later

/-- Replaying all entries over a partial application gives the full application. -/
theorem putAll_putAll_sublist {view : View} {landed entries : List (String × String × Bytes)}
    (unique : (slots entries).Nodup) (sub : landed.Sublist entries)
    : (view.putAll landed).putAll entries = view.putAll entries := by
  funext slot
  by_cases member : slot ∈ slots entries
  · obtain ⟨⟨dict, key, value⟩, stored, rfl⟩ := List.mem_map.mp member
    rw [putAll_of_mem _ unique stored, putAll_of_mem _ unique stored]
  · have skipped : slot ∉ slots landed := fun found => member ((sub.map _).subset found)
    rw [putAll_of_notMem member, putAll_of_notMem skipped, putAll_of_notMem member]

/-- The view after removing some slots. -/
def dropAll (view : View) (gone : List (String × String)) : View :=
  fun slot => if slot ∈ gone then none else view slot

theorem dropAll_cons (view : View) (slot : String × String) (rest : List (String × String))
    : View.dropAll (Function.update view slot none) rest = view.dropAll (slot :: rest) := by
  funext other
  by_cases same : other = slot <;> simp [dropAll, same]

end View

/-- The default bulk write applies every entry when single puts succeed, by induction. -/
theorem putLoop_returns {β : Type} {Ready : β → Prop} {view : β → View}
    (put : String → String → Bytes → Call β Unit)
    (single
      : ∀ {backend}, Ready backend → ∀ dict key value,
          Returns Ready view (put dict key value backend) ()
            (Function.update (view backend) (dict, key) (some value)))
    (entries : List (String × String × Bytes)) {backend : β} (ready : Ready backend)
    : Returns Ready view (putLoop put entries backend) ()
        ((view backend).putAll entries) := by
  induction entries generalizing backend with
  | nil => exact ⟨rfl, ready, rfl⟩
  | cons entry rest ih =>
      obtain ⟨dict, key, value⟩ := entry
      have first := single ready dict key value
      cases outcome : put dict key value backend with
      | mk result next =>
          rw [outcome] at first
          obtain ⟨done, nextReady, shown⟩ := first
          have tail := ih nextReady
          simp only at done shown
          rw [View.putAll_cons, ← shown]
          simpa only [putLoop, outcome, done] using tail

namespace BufferingBackend

variable {β : Type} [KvBackend β]

/-- The buffer laid over what the inner backend stores. -/
def overlay (buffer : FiniteMap (String × String) BufferEntry) (view : View) : View :=
  fun slot =>
    match buffer.lookup slot with
    | some entry => entry.value
    | none => view slot

/-- What a caller of the wrapper sees: the overlay inside a batch, the inner map outside. -/
def view (innerView : β → View) (self : BufferingBackend β) : View :=
  if self.batching then overlay self.buffer (innerView self.inner)
  else innerView self.inner

theorem overlay_empty (view : View) : overlay ∅ view = view := by
  funext slot
  simp [overlay]

theorem overlay_insert (buffer : FiniteMap (String × String) BufferEntry) (view : View)
    (slot : String × String) (entry : BufferEntry)
    : overlay (buffer.insert slot entry) view
      = Function.update (overlay buffer view) slot entry.value := by
  funext other
  rw [Function.update_apply, overlay, FiniteMap.lookup_insert']
  by_cases same : other = slot <;> simp [same, overlay]

theorem overlay_clearDict (buffer : FiniteMap (String × String) BufferEntry) (view : View)
    (dict : String)
    : overlay (FiniteMap.retain (fun slot => slot.1 ≠ dict) buffer) (view.clearDict dict)
      = (overlay buffer view).clearDict dict := by
  funext slot
  simp only [overlay, View.clearDict, FiniteMap.lookup_retain]
  by_cases same : slot.1 = dict <;> simp [same]

/-- Folding the buffered entries of a dictionary over its inner keys yields the keys the
overlay shows. Witness: induction on the entries, each of which decides its own key.
-/
theorem mem_foldl_overlayKey (dict key : String)
    (entries : List ((String × String) × BufferEntry)) (keys : Finset String)
    (unique : (entries.map Prod.fst).Nodup)
    : key ∈ entries.foldl (overlayKey dict) keys
      ↔ (∃ bytes, ((dict, key), BufferEntry.put bytes) ∈ entries)
        ∨ ((dict, key) ∉ entries.map Prod.fst ∧ key ∈ keys) := by
  induction entries generalizing keys with
  | nil => simp
  | cons item rest ih =>
      obtain ⟨⟨dict', key'⟩, entry⟩ := item
      simp only [List.map_cons, List.nodup_cons] at unique
      rw [List.foldl_cons, ih _ unique.2]
      by_cases same : (dict, key) = (dict', key')
      · obtain ⟨rfl, rfl⟩ := Prod.mk.inj same
        have fresh : ∀ bytes, ((dict, key), BufferEntry.put bytes) ∉ rest :=
          fun bytes member => unique.1 (List.mem_map.mpr ⟨_, member, rfl⟩)
        cases entry <;> simp [overlayKey, fresh, unique.1]
      · have kept : key ∈ overlayKey dict keys ((dict', key'), entry) ↔ key ∈ keys := by
          by_cases here : dict' = dict
          · have other : key ≠ key' := fun eq => same (by rw [here, eq])
            cases entry <;> simp [overlayKey, here, other]
          · simp [overlayKey, here]
        rw [kept]
        simp [same]

/-- The single-key calls of the wrapper are all-or-nothing when those of the inner backend
are: the buffer answers inside a batch, the inner backend outside.
-/
def atomic (inner : KvAtomic β) : KvAtomic (BufferingBackend β) where
  Ready self := inner.Ready self.inner
  MayFail := inner.MayFail
  view := view inner.view
  get := by
    intro self ready dict key
    cases open' : self.batching with
    | false =>
        cases inner.get ready dict key with
        | done call =>
            refine .done ⟨?_, ?_, ?_⟩ <;>
              simp only [KvBackend.get, get, isBatching, open', forward, view, call.result,
                call.view, Bool.false_eq_true, if_false]
            exact call.ready
        | failed e may result kept same =>
            refine .failed e may ?_ ?_ ?_ <;>
              simp only [KvBackend.get, get, isBatching, open', forward, view, result, same,
                Bool.false_eq_true, if_false]
            exact kept
    | true =>
        cases found : self.buffer.lookup (dict, key) with
        | some entry =>
            refine .done ⟨?_, ?_, ?_⟩ <;>
              simp only [KvBackend.get, get, isBatching, open', found, view, if_true, overlay]
            exact ready
        | none =>
            cases inner.get ready dict key with
            | done call =>
                refine .done ⟨?_, ?_, ?_⟩ <;>
                  simp only [KvBackend.get, get, isBatching, open', found, forward, view,
                    call.result, call.view, if_true, overlay]
                exact call.ready
            | failed e may result kept same =>
                refine .failed e may ?_ ?_ ?_ <;>
                  simp only [KvBackend.get, get, isBatching, open', found, forward, view,
                    result, same, if_true]
                exact kept
  put := by
    intro self ready dict key value
    cases open' : self.batching with
    | false =>
        cases inner.put ready dict key value with
        | done call =>
            refine .done ⟨?_, ?_, ?_⟩ <;>
              simp only [KvBackend.put, put, isBatching, open', forward, view, call.result,
                call.view, Bool.false_eq_true, if_false]
            exact call.ready
        | failed e may result kept same =>
            refine .failed e may ?_ ?_ ?_ <;>
              simp only [KvBackend.put, put, isBatching, open', forward, view, result, same,
                Bool.false_eq_true, if_false]
            exact kept
    | true =>
        refine .done ⟨?_, ?_, ?_⟩ <;>
          simp only [KvBackend.put, put, isBatching, open', view, if_true, overlay_insert,
            BufferEntry.value]
        exact ready
  delete := by
    intro self ready dict key
    cases open' : self.batching with
    | false =>
        cases inner.delete ready dict key with
        | done call =>
            refine .done ⟨?_, ?_, ?_⟩ <;>
              simp only [KvBackend.delete, delete, isBatching, open', forward, view, call.result,
                call.view, Bool.false_eq_true, if_false]
            exact call.ready
        | failed e may result kept same =>
            refine .failed e may ?_ ?_ ?_ <;>
              simp only [KvBackend.delete, delete, isBatching, open', forward, view, result, same,
                Bool.false_eq_true, if_false]
            exact kept
    | true =>
        refine .done ⟨?_, ?_, ?_⟩ <;>
          simp only [KvBackend.delete, delete, isBatching, open', view, if_true,
            overlay_insert, BufferEntry.value]
        exact ready

/-- The wrapper is itself a working backend, showing `view`, with or without a batch. -/
def contract (inner : KvContract β) : KvContract (BufferingBackend β) where
  Ready self := inner.Ready self.inner
  view := view inner.view
  get ready dict key := ((atomic inner.atomic).get ready dict key).returns id
  put ready dict key value := ((atomic inner.atomic).put ready dict key value).returns id
  putBatch := by
    intro self ready entries
    have single {self : BufferingBackend β} (ready : inner.Ready self.inner)
        (dict key : String) (value : Bytes) :=
      (@KvAtomic.put _ _ (atomic inner.atomic) self ready dict key value).returns id
    have loop := putLoop_returns KvBackend.put single entries ready
    exact ⟨loop.ready, entries, .refl _, fun _ => rfl, loop.view⟩
  delete ready dict key := ((atomic inner.atomic).delete ready dict key).returns id
  deleteDict := by
    intro self ready dict
    have call := inner.deleteDict ready dict
    refine ⟨?_, ?_, ?_⟩ <;> cases open' : self.batching <;>
      simp only [KvBackend.deleteDict, deleteDict, isBatching, open', forward, view,
        call.result, call.view, if_true, Bool.false_eq_true, if_false, overlay_clearDict]
    · exact call.ready
    · exact call.ready
  listKeys := by
    intro self ready dict
    obtain ⟨innerKeys, call, unique, members⟩ := inner.listKeys ready dict
    cases open' : self.batching with
    | false =>
        refine ⟨innerKeys, ⟨?_, ?_, ?_⟩, unique, ?_⟩ <;>
          simp only [KvBackend.listKeys, listKeys, isBatching, open', forward, view,
            call.result, call.view, Bool.false_eq_true, if_false]
        · exact call.ready
        · exact members
    | true =>
        refine ⟨((FiniteMap.pairs self.buffer).foldl (overlayKey dict)
            innerKeys.toFinset).sort (· ≤ ·), ⟨?_, ?_, ?_⟩, Finset.sort_nodup _ _, ?_⟩ <;>
          simp only [KvBackend.listKeys, listKeys, isBatching, open', forward, view,
            call.result, call.view, if_true]
        · exact call.ready
        · intro key
          rw [Finset.mem_sort, mem_foldl_overlayKey _ _ _ _ (FiniteMap.pairs_keys_nodup _),
            List.mem_toFinset, members, FiniteMap.pairs_keys, ← AList.mem_keys]
          simp only [FiniteMap.mem_pairs, overlay]
          cases found : self.buffer.lookup (dict, key) with
          | none => simp [AList.lookup_eq_none.mp found]
          | some entry =>
              have present : (dict, key) ∈ self.buffer :=
                FiniteMap.mem_iff_lookup.mpr ⟨entry, found⟩
              cases entry <;> simp [BufferEntry.value, present]

-----------------------------------------------------------------------------------------
-- Replaying the buffer
-----------------------------------------------------------------------------------------

theorem mem_putsOf {entries : List ((String × String) × BufferEntry)}
    {dict key : String} {bytes : Bytes}
    : (dict, key, bytes) ∈ putsOf entries ↔ ((dict, key), BufferEntry.put bytes) ∈ entries := by
  simp only [putsOf, List.mem_filterMap]
  constructor
  · rintro ⟨⟨⟨dict', key'⟩, entry⟩, member, split⟩
    cases entry <;> simp at split
    obtain ⟨rfl, rfl, rfl⟩ := split
    exact member
  · intro member
    exact ⟨_, member, rfl⟩

theorem mem_deletesOf {entries : List ((String × String) × BufferEntry)}
    {slot : String × String}
    : slot ∈ deletesOf entries ↔ (slot, BufferEntry.delete) ∈ entries := by
  simp only [deletesOf, List.mem_filterMap]
  constructor
  · rintro ⟨⟨slot', entry⟩, member, split⟩
    cases entry <;> simp at split
    subst split
    exact member
  · intro member
    exact ⟨_, member, rfl⟩

/-- Splitting off the puts keeps the drained slots in order, so none is put twice. -/
theorem slots_putsOf_sublist (entries : List ((String × String) × BufferEntry))
    : (View.slots (putsOf entries)).Sublist (entries.map Prod.fst) := by
  induction entries with
  | nil => exact .refl _
  | cons item rest ih =>
      obtain ⟨slot, entry⟩ := item
      cases entry with
      | put bytes => simpa [putsOf, View.slots] using ih.cons_cons slot
      | delete => simpa [putsOf, View.slots] using ih.cons slot

/-- On a working backend the fallback writes every entry and remembers no error. -/
theorem fallbackPuts_returns (inner : KvContract β)
    (puts : List (String × String × Bytes)) (firstErr : Option Error) {backend : β}
    (ready : inner.Ready backend)
    : (fallbackPuts puts firstErr backend).1 = firstErr
      ∧ inner.Ready (fallbackPuts puts firstErr backend).2
      ∧ inner.view (fallbackPuts puts firstErr backend).2
        = (inner.view backend).putAll puts := by
  induction puts generalizing backend with
  | nil => exact ⟨rfl, ready, rfl⟩
  | cons entry rest ih =>
      obtain ⟨dict, key, value⟩ := entry
      have call := inner.put ready dict key value
      have tail := ih call.ready
      rw [View.putAll_cons, ← call.view]
      simpa only [fallbackPuts, call.result, firstError] using tail

/-- Replaying the puts writes all of them, also when the bulk write failed after applying
a part: the fallback overwrites that part with the same bytes.
-/
theorem replayPuts_returns (inner : KvContract β) {puts : List (String × String × Bytes)}
    (unique : (View.slots puts).Nodup) {backend : β} (ready : inner.Ready backend)
    : (replayPuts puts backend).1 = none
      ∧ inner.Ready (replayPuts puts backend).2
      ∧ inner.view (replayPuts puts backend).2 = (inner.view backend).putAll puts := by
  unfold replayPuts
  split
  · next empty =>
    rw [List.isEmpty_iff.mp empty]
    exact ⟨rfl, ready, rfl⟩
  · obtain ⟨bulkReady, landed, sub, full, shown⟩ := inner.putBatch ready puts
    cases outcome : KvBackend.putBatch puts backend with
    | mk result next =>
        rw [outcome] at bulkReady full shown
        cases result with
        | ok value =>
            rw [full rfl] at shown
            exact ⟨rfl, bulkReady, shown⟩
        | error e =>
            have fallback := fallbackPuts_returns inner puts none bulkReady
            refine ⟨fallback.1, fallback.2.1, ?_⟩
            exact fallback.2.2.trans (shown ▸ View.putAll_putAll_sublist unique sub)

theorem replayDeletes_returns (inner : KvContract β) (deletes : List (String × String))
    (firstErr : Option Error) {backend : β} (ready : inner.Ready backend)
    : (replayDeletes deletes firstErr backend).1 = firstErr
      ∧ inner.Ready (replayDeletes deletes firstErr backend).2
      ∧ inner.view (replayDeletes deletes firstErr backend).2
        = (inner.view backend).dropAll deletes := by
  induction deletes generalizing backend with
  | nil =>
      refine ⟨rfl, ready, ?_⟩
      funext slot
      simp [replayDeletes, View.dropAll]
  | cons slot rest ih =>
      obtain ⟨dict, key⟩ := slot
      have call := inner.delete ready dict key
      have tail := ih call.ready
      rw [← View.dropAll_cons, ← call.view]
      simpa only [replayDeletes, call.result, firstError] using tail

/-- The puts and the tombstones together write the overlay: each slot is drained once. -/
theorem replay_overlay (buffer : FiniteMap (String × String) BufferEntry) (view : View)
    {entries : List ((String × String) × BufferEntry)}
    (drained : entries.Perm (FiniteMap.pairs buffer))
    : (view.putAll (putsOf entries)).dropAll (deletesOf entries) = overlay buffer view := by
  have unique : (entries.map Prod.fst).Nodup :=
    (drained.map Prod.fst).nodup_iff.mpr (FiniteMap.pairs_keys_nodup buffer)
  have putsUnique := (slots_putsOf_sublist entries).nodup unique
  have stored (slot : String × String) (entry : BufferEntry)
      : (slot, entry) ∈ entries ↔ buffer.lookup slot = some entry := by
    rw [drained.mem_iff, FiniteMap.mem_pairs]
  funext slot
  simp only [View.dropAll, mem_deletesOf, stored, overlay]
  cases found : buffer.lookup slot with
  | none =>
      have untouched : slot ∉ View.slots (putsOf entries) := by
        intro member
        obtain ⟨⟨dict, key, bytes⟩, put, rfl⟩ := List.mem_map.mp member
        rw [mem_putsOf, stored] at put
        simp [found] at put
      simp [View.putAll_of_notMem untouched]
  | some entry =>
      cases entry with
      | delete => simp [BufferEntry.value]
      | put bytes =>
          have put : (slot.1, slot.2, bytes) ∈ putsOf entries := by
            rw [mem_putsOf, stored]
            exact found
          simpa [BufferEntry.value] using View.putAll_of_mem view putsUnique put

/-- Committing on a working backend succeeds, reports the number of buffered slots, closes
the batch, and leaves the inner backend showing what the batch showed.
-/
theorem commitInternal_returns (inner : KvContract β) (order : HashOrder)
    {self : BufferingBackend β} (ready : inner.Ready self.inner)
    : (commitInternal order self).1 = .ok self.bufferedLen
      ∧ inner.Ready (commitInternal order self).2.inner
      ∧ inner.view (commitInternal order self).2.inner
        = overlay self.buffer (inner.view self.inner)
      ∧ (commitInternal order self).2.batching = false
      ∧ (commitInternal order self).2.buffer = ∅ := by
  let entries := order.arrange (FiniteMap.pairs self.buffer)
  have drained : entries.Perm (FiniteMap.pairs self.buffer) := order.perm _
  have unique : (entries.map Prod.fst).Nodup :=
    order.nodup_map_arrange _ (FiniteMap.pairs_keys_nodup _)
  obtain ⟨noPutErr, putReady, putView⟩ := replayPuts_returns inner
    ((slots_putsOf_sublist entries).nodup unique) ready
  obtain ⟨noErr, endReady, endView⟩ :=
    replayDeletes_returns inner (deletesOf entries) none putReady
  have size : entries.length = self.bufferedLen := by
    simp [entries, bufferedLen, FiniteMap.pairs]
  have outcome : commitInternal order self
      = (.ok self.bufferedLen,
          { inner :=
              (replayDeletes (deletesOf entries) none
                (replayPuts (putsOf entries) self.inner).2).2 }) := by
    simp only [commitInternal, ← size]
    rw [noPutErr, noErr]
  rw [outcome]
  exact ⟨rfl, endReady, endView.trans (putView ▸ replay_overlay _ _ drained), rfl, rfl⟩

/-- No trait call opens or closes a batch. -/
theorem perform_batching (op : KvOp) (self : BufferingBackend β)
    : (op.perform self).2.batching = self.batching := by
  cases op with
  | get dict key =>
      simp only [KvOp.perform, KvBackend.get, get]
      split <;> rfl
  | put dict key value =>
      simp only [KvOp.perform, KvBackend.put, put]
      split <;> rfl
  | delete dict key =>
      simp only [KvOp.perform, KvBackend.delete, delete]
      split <;> rfl
  | deleteDict dict =>
      simp only [KvOp.perform, KvBackend.deleteDict, deleteDict]
      split <;> rfl
  | listKeys dict =>
      simp only [KvOp.perform, KvBackend.listKeys, listKeys, forward]
      split
      · next outcome => simp only [Prod.mk.injEq] at outcome; rw [← outcome.2]
      · next outcome =>
        simp only [Prod.mk.injEq] at outcome
        split <;> rw [← outcome.2]

/-- Inside an open batch a call sequence answers as it would directly on a backend that
starts from the same map, and the overlay follows that backend's map.
-/
theorem calls_open_agree (inner : KvContract β) (self : BufferingBackend β) (direct : β)
    (ready : inner.Ready self.inner) (readyDirect : inner.Ready direct)
    (opened : self.batching = true)
    (same : overlay self.buffer (inner.view self.inner) = inner.view direct)
    (ops : List KvOp)
    : let batched := Runs.calls KvOp.perform ops self
      let straight := Runs.calls KvOp.perform ops direct
      List.Forall₂ Agrees batched.1 straight.1
      ∧ inner.Ready batched.2.inner
      ∧ overlay batched.2.buffer (inner.view batched.2.inner) = inner.view straight.2
      ∧ batched.2.batching = true := by
  let Related (self : BufferingBackend β) (direct : β) : Prop :=
    ((contract inner).Ready self ∧ inner.Ready direct
      ∧ (contract inner).view self = inner.view direct)
    ∧ self.batching = true
  have start : Related self direct :=
    ⟨⟨ready, readyDirect, by simpa [contract, view, opened] using same⟩, opened⟩
  have step (op : KvOp) (left : BufferingBackend β) (right : β) (related : Related left right)
      : Agrees (op.perform left).1 (op.perform right).1
        ∧ Related (op.perform left).2 (op.perform right).2 := by
    have agreed := (contract inner).perform_agrees inner op related.1
    exact ⟨agreed.1, agreed.2, (perform_batching op left).trans related.2⟩
  obtain ⟨answers, ⟨endReady, -, shown⟩, stillOpen⟩ := Runs.calls_simulation step ops start
  refine ⟨answers, endReady, ?_, stillOpen⟩
  simpa [contract, view, stillOpen] using shown

/-- Between `beginBatch` and `commit`, any call sequence answers as it would directly on
the inner backend, and the commit then leaves the inner map that direct execution leaves.
-/
theorem batch_matches_direct (inner : InnerBackend) (ops : List KvOp) (order : HashOrder)
    (onlyBulk : inner.plan.OnlyBulk)
    : let opened := beginBatch (new inner)
      let batched := Runs.calls KvOp.perform ops opened.2
      let direct := Runs.calls KvOp.perform ops inner
      let committed := commitInternal order batched.2
      opened.1 = .ok ()
      ∧ List.Forall₂ Agrees batched.1 direct.1
      ∧ committed.1 = .ok batched.2.bufferedLen
      ∧ (∀ slot, committed.2.inner.map.lookup slot = direct.2.map.lookup slot)
      ∧ committed.2.batching = false
      ∧ committed.2.buffer = ∅ := by
  intro opened batched direct committed
  obtain ⟨answers, ready, shown, -⟩ := calls_open_agree InnerBackend.contract opened.2 inner
    onlyBulk onlyBulk rfl (overlay_empty _) ops
  obtain ⟨count, -, replayed, closed, drained⟩ :=
    commitInternal_returns InnerBackend.contract order ready
  exact ⟨rfl, answers, count, fun slot => congrFun (replayed.trans shown) slot, closed,
    drained⟩

/-- A batch whose bulk write fails after landing one of its two puts. -/
theorem batch_matches_direct_bulk_failure
    : let inner : InnerBackend :=
        { map := (∅ : FiniteMap (String × String) Bytes).insert ("d", "old") [1],
          plan := { putBatch := [some (.backend "disk", [("d", "a")])] } }
      let ops : List KvOp :=
        [.put "d" "a" [2], .put "d" "b" [3], .delete "d" "old", .listKeys "d"]
      let committed :=
        commitInternal .insertion (Runs.calls KvOp.perform ops (beginBatch (new inner)).2).2
      inner.plan.OnlyBulk
      ∧ committed.1 = .ok 3
      ∧ ∀ slot, committed.2.inner.map.lookup slot
          = (Runs.calls KvOp.perform ops inner).2.map.lookup slot := by
  intro inner ops committed
  have onlyBulk : inner.plan.OnlyBulk := by
    constructor <;> exact fun _ member => absurd member List.not_mem_nil
  have whole := batch_matches_direct inner ops .insertion onlyBulk
  exact ⟨onlyBulk, whole.2.2.1, whole.2.2.2.1⟩

end BufferingBackend

end XousAppSignal.Store
