import XousAppSignal.Store.Batch

/-! What a commit leaves behind when inner calls fail: slot by slot, the buffered write has
taken effect exactly when one of the calls that carry it was not planned to fail.
-/

namespace XousAppSignal.Store

/-- How the slot's attempt fails, among calls made in this order, if it does. -/
def attemptFault {ε : Type}
    : List (String × String) → List (Option ε) → String × String → Option ε
  | [], _, _ => none
  | first :: rest, faults, slot =>
      if slot = first then faults.head?.join else attemptFault rest faults.tail slot

/-- The slot's attempt, among calls made in this order, is not planned to fail. -/
def attemptLands {ε : Type} (slots : List (String × String)) (faults : List (Option ε))
    (slot : String × String)
    : Bool :=
  slot ∈ slots && (attemptFault slots faults slot).isNone

theorem attemptFault_self {ε : Type} (first : String × String) (rest : List (String × String))
    (faults : List (Option ε))
    : attemptFault (first :: rest) faults first = faults.head?.join := by
  simp [attemptFault]

theorem attemptFault_other {ε : Type} {first slot : String × String}
    (rest : List (String × String)) (faults : List (Option ε)) (different : slot ≠ first)
    : attemptFault (first :: rest) faults slot = attemptFault rest faults.tail slot := by
  simp [attemptFault, different]

/-- The fault an attempt meets is a planned one. -/
theorem mem_of_attemptFault {ε : Type} {slots : List (String × String)}
    {faults : List (Option ε)} {slot : String × String} {fault : ε}
    (fails : attemptFault slots faults slot = some fault)
    : some fault ∈ faults := by
  induction slots generalizing faults with
  | nil => cases fails
  | cons first rest ih =>
      by_cases here : slot = first
      · rw [here, attemptFault_self] at fails
        cases faults with
        | nil => cases fails
        | cons next later =>
            obtain rfl : next = some fault := by simpa using fails
            exact List.mem_cons_self
      · rw [attemptFault_other _ _ here] at fails
        exact List.mem_of_mem_tail (ih fails)

theorem attemptLands_of_notMem {ε : Type} {slots : List (String × String)}
    (faults : List (Option ε)) {slot : String × String} (absent : slot ∉ slots)
    : attemptLands slots faults slot = false := by
  simp [attemptLands, absent]

theorem attemptLands_self {ε : Type} {first : String × String} {rest : List (String × String)}
    (faults : List (Option ε))
    : attemptLands (first :: rest) faults first = faults.head?.join.isNone := by
  simp [attemptLands, attemptFault]

theorem attemptLands_other {ε : Type} {first slot : String × String}
    (rest : List (String × String)) (faults : List (Option ε)) (different : slot ≠ first)
    : attemptLands (first :: rest) faults slot = attemptLands rest faults.tail slot := by
  simp [attemptLands, attemptFault, different]

/-- What a put leaves at its key, by how it fails. -/
def putOutcome (value : Bytes) (before : Option Bytes) : Option PutFault → Option Bytes
  | none => some value
  | some fault => fault.leaves value before

theorem FaultPlan.PutsKeep.attempt {plan : FaultPlan} (keeps : plan.PutsKeep)
    {slots : List (String × String)} {slot : String × String} {fault : PutFault}
    (fails : attemptFault slots plan.put slot = some fault)
    : ∃ e, fault = .preDelete e :=
  keeps.of_mem (mem_of_attemptFault fails)

namespace InnerBackend

theorem put_lookup (self : InnerBackend) (dict key : String) (value : Bytes)
    (slot : String × String)
    : (KvBackend.put dict key value self).2.map.lookup slot
      = if slot = (dict, key) then
          putOutcome value (self.map.lookup slot) self.plan.put.head?.join
        else self.map.lookup slot := by
  cases next : self.plan.put.head?.join with
  | none => simp [KvBackend.put, put, next, putOutcome, FiniteMap.lookup_insert']
  | some fault =>
      cases fault with
      | preDelete e => simp [KvBackend.put, put, next, putOutcome, PutFault.leaves]
      | openForWrite e =>
          simp [KvBackend.put, put, next, putOutcome, PutFault.leaves, FiniteMap.lookup_erase']
      | write e count =>
          simp [KvBackend.put, put, next, putOutcome, PutFault.leaves, FiniteMap.lookup_insert']

theorem put_elsewhere (self : InnerBackend) {dict key : String} (value : Bytes)
    {slot : String × String} (different : slot ≠ (dict, key))
    : (KvBackend.put dict key value self).2.map.lookup slot = self.map.lookup slot := by
  rw [put_lookup, if_neg different]

@[simp]
theorem put_plan (self : InnerBackend) (dict key : String) (value : Bytes)
    : (KvBackend.put dict key value self).2.plan
      = { self.plan with put := self.plan.put.tail } := by
  simp only [KvBackend.put, put]
  split <;> rfl

theorem delete_lookup (self : InnerBackend) (dict key : String) (slot : String × String)
    : (KvBackend.delete dict key self).2.map.lookup slot
      = if slot = (dict, key) ∧ self.plan.delete.head?.join.isNone then none
        else self.map.lookup slot := by
  cases fault : self.plan.delete.head?.join with
  | some e => simp [KvBackend.delete, delete, fault]
  | none => simp [KvBackend.delete, delete, fault, FiniteMap.lookup_erase']

@[simp]
theorem delete_plan (self : InnerBackend) (dict key : String)
    : (KvBackend.delete dict key self).2.plan
      = { self.plan with delete := self.plan.delete.tail } := by
  simp only [KvBackend.delete, delete]
  split <;> rfl

@[simp]
theorem putBatch_plan (self : InnerBackend) (entries : List (String × String × Bytes))
    : (KvBackend.putBatch entries self).2.plan
      = { self.plan with putBatch := self.plan.putBatch.tail } := by
  simp only [KvBackend.putBatch, putBatch]
  split <;> rfl

end InnerBackend

namespace BufferingBackend

/-- The fallback attempts each put once, in order; by induction on the puts. -/
theorem fallbackPuts_lookup {puts : List (String × String × Bytes)}
    (unique : (View.slots puts).Nodup) (firstErr : Option Error) (inner : InnerBackend)
    : (fallbackPuts puts firstErr inner).2.plan.delete = inner.plan.delete
      ∧ (∀ slot, slot ∉ View.slots puts
          → (fallbackPuts puts firstErr inner).2.map.lookup slot = inner.map.lookup slot)
      ∧ ∀ dict key value, (dict, key, value) ∈ puts
          → (fallbackPuts puts firstErr inner).2.map.lookup (dict, key)
            = putOutcome value (inner.map.lookup (dict, key))
                (attemptFault (View.slots puts) inner.plan.put (dict, key)) := by
  induction puts generalizing firstErr inner with
  | nil => exact ⟨rfl, fun _ _ => rfl, fun _ _ _ member => by cases member⟩
  | cons entry rest ih =>
      obtain ⟨dict, key, value⟩ := entry
      simp only [View.slots, List.map_cons, List.nodup_cons] at unique
      obtain ⟨plan, others, mine⟩ := ih unique.2
        (firstError firstErr (KvBackend.put dict key value inner).1)
        (KvBackend.put dict key value inner).2
      simp only [fallbackPuts]
      refine ⟨by rw [plan, InnerBackend.put_plan], fun slot absent => ?_, ?_⟩
      · simp only [View.slots, List.map_cons, List.mem_cons, not_or] at absent
        rw [others slot absent.2, InnerBackend.put_elsewhere inner value absent.1]
      · intro dict' key' value' member
        simp only [View.slots, List.map_cons]
        rcases List.mem_cons.mp member with same | later
        · obtain ⟨rfl, rfl, rfl⟩ := same
          rw [others _ unique.1, InnerBackend.put_lookup, if_pos rfl, attemptFault_self]
        · have different : (dict', key') ≠ (dict, key) := by
            intro same
            exact unique.1 (same ▸ List.mem_map.mpr ⟨_, later, rfl⟩)
          rw [mine _ _ _ later, InnerBackend.put_plan,
            InnerBackend.put_elsewhere inner value different, attemptFault_other _ _ different]

/-- The put of a buffered slot takes effect: in the bulk write, in the fallback, or in the bulk
write with a fallback that fails before it touches the key.
-/
def putLands (puts : List (String × String × Bytes)) (plan : FaultPlan)
    (slot : String × String)
    : Bool :=
  match plan.putBatch.head?.join, attemptFault (View.slots puts) plan.put slot with
  | none, _ => true
  | some _, none => true
  | some (_, applied), some fault => fault.keeps && slot ∈ applied

/-- What is in the slot of a put that does not take effect. -/
def putLeft (puts : List (String × String × Bytes)) (plan : FaultPlan) (slot : String × String)
    (value : Bytes) (before : Option Bytes)
    : Option Bytes :=
  match attemptFault (View.slots puts) plan.put slot with
  | none => before
  | some fault => fault.leaves value before

theorem putLands_of_bulk {plan : FaultPlan} (works : plan.putBatch.head?.join = none)
    (puts : List (String × String × Bytes)) (slot : String × String)
    : putLands puts plan slot = true := by
  unfold putLands
  rw [works]

theorem putLands_of_attempt {puts : List (String × String × Bytes)} {plan : FaultPlan}
    {slot : String × String}
    (works : attemptFault (View.slots puts) plan.put slot = none)
    : putLands puts plan slot = true := by
  unfold putLands
  rw [works]
  cases plan.putBatch.head?.join <;> rfl

/-- The lookups after the puts were replayed. -/
theorem replayPuts_lookup {puts : List (String × String × Bytes)}
    (unique : (View.slots puts).Nodup) (inner : InnerBackend)
    : (replayPuts puts inner).2.plan.delete = inner.plan.delete
      ∧ (∀ slot, slot ∉ View.slots puts
          → (replayPuts puts inner).2.map.lookup slot = inner.map.lookup slot)
      ∧ ∀ dict key value, (dict, key, value) ∈ puts
          → (replayPuts puts inner).2.map.lookup (dict, key)
            = if putLands puts inner.plan (dict, key) then some value
              else putLeft puts inner.plan (dict, key) value (inner.map.lookup (dict, key)) := by
  unfold replayPuts
  split
  · next empty =>
    rw [List.isEmpty_iff.mp empty]
    exact ⟨rfl, fun _ _ => rfl, fun _ _ _ member => by cases member⟩
  · cases fault : inner.plan.putBatch.head?.join with
    | none =>
        have bulk : KvBackend.putBatch puts inner
            = (.ok (), (KvBackend.putBatch puts inner).2) := by
          simp [KvBackend.putBatch, InnerBackend.putBatch, fault]
        have shown (slot : String × String)
            : (KvBackend.putBatch puts inner).2.map.lookup slot
              = View.putAll (fun slot => inner.map.lookup slot) puts slot := by
          simp only [KvBackend.putBatch, InnerBackend.putBatch, fault]
          exact InnerBackend.lookup_insertAll inner.map puts slot
        rw [bulk]
        refine ⟨by simp, fun slot absent => ?_, fun dict key value member => ?_⟩
        · rw [shown, View.putAll_of_notMem absent]
        · rw [shown, View.putAll_of_mem _ unique member, if_pos (putLands_of_bulk fault _ _)]
    | some failure =>
        obtain ⟨e, applied⟩ := failure
        let landed := puts.filter (fun entry => (entry.1, entry.2.1) ∈ applied)
        have bulk : KvBackend.putBatch puts inner
            = (.error e, (KvBackend.putBatch puts inner).2) := by
          simp [KvBackend.putBatch, InnerBackend.putBatch, fault]
        have shown (slot : String × String)
            : (KvBackend.putBatch puts inner).2.map.lookup slot
              = View.putAll (fun slot => inner.map.lookup slot) landed slot := by
          simp only [KvBackend.putBatch, InnerBackend.putBatch, fault,
            InnerBackend.asPairs_filter]
          exact InnerBackend.lookup_insertAll inner.map landed slot
        have landedSub : (View.slots landed).Sublist (View.slots puts) :=
          List.filter_sublist.map _
        rw [bulk]
        obtain ⟨plan, others, mine⟩ := fallbackPuts_lookup unique none
          (KvBackend.putBatch puts inner).2
        refine ⟨by simp [plan], fun slot absent => ?_, fun dict key value member => ?_⟩
        · rw [others slot absent, shown,
            View.putAll_of_notMem (fun found => absent (landedSub.subset found))]
        · rw [mine dict key value member, InnerBackend.putBatch_plan, shown, putLands, putLeft,
            fault]
          -- what the fallback leaves, over what the bulk write had applied
          cases attempt : attemptFault (View.slots puts) inner.plan.put (dict, key) with
          | none => simp [putOutcome]
          | some failing =>
              cases failing with
              | openForWrite e => simp [putOutcome, PutFault.leaves, PutFault.keeps]
              | write e count => simp [putOutcome, PutFault.leaves, PutFault.keeps]
              | preDelete e =>
                  by_cases inBulk : (dict, key) ∈ applied
                  · have landedHere : (dict, key, value) ∈ landed :=
                      List.mem_filter.mpr ⟨member, by simpa using inBulk⟩
                    rw [View.putAll_of_mem _ (landedSub.nodup unique) landedHere]
                    simp [putOutcome, PutFault.leaves, PutFault.keeps, inBulk]
                  · have missed : (dict, key) ∉ View.slots landed := by
                      intro found
                      obtain ⟨⟨dict', key', value'⟩, kept, same⟩ := List.mem_map.mp found
                      obtain ⟨rfl, rfl⟩ := Prod.mk.inj same
                      exact inBulk (by simpa using (List.mem_filter.mp kept).2)
                    rw [View.putAll_of_notMem missed]
                    simp [putOutcome, PutFault.leaves, PutFault.keeps, inBulk]

/-- Each tombstone is attempted once, in order; by induction on the tombstones. -/
theorem replayDeletes_lookup {deletes : List (String × String)} (unique : deletes.Nodup)
    (firstErr : Option Error) (inner : InnerBackend) (slot : String × String)
    : (replayDeletes deletes firstErr inner).2.map.lookup slot
      = if attemptLands deletes inner.plan.delete slot then none
        else inner.map.lookup slot := by
  induction deletes generalizing firstErr inner with
  | nil => rfl
  | cons first rest ih =>
      obtain ⟨dict, key⟩ := first
      rw [List.nodup_cons] at unique
      simp only [replayDeletes]
      rw [ih unique.2, InnerBackend.delete_plan]
      by_cases same : slot = (dict, key)
      · rw [same, attemptLands_self, attemptLands_of_notMem _ unique.1,
          InnerBackend.delete_lookup]
        simp
      · have undeleted : (KvBackend.delete dict key inner).2.map.lookup slot
            = inner.map.lookup slot := by
          rw [InnerBackend.delete_lookup, if_neg (fun here => same here.1)]
        rw [attemptLands_other _ _ same, undeleted]

/-- The buffered write of a slot takes effect in a commit replaying in this order. -/
def lands (order : HashOrder) (self : BufferingBackend InnerBackend)
    (slot : String × String)
    : Bool :=
  let entries := order.arrange (FiniteMap.pairs self.buffer)
  match self.buffer.lookup slot with
  | none => false
  | some (.put _) => putLands (putsOf entries) self.inner.plan slot
  | some .delete => attemptLands (deletesOf entries) self.inner.plan.delete slot

/-- What the inner backend holds where the buffered write does not take effect: a put may fail
after its key was deleted.
-/
def left (order : HashOrder) (self : BufferingBackend InnerBackend) : View := fun slot =>
  let entries := order.arrange (FiniteMap.pairs self.buffer)
  match self.buffer.lookup slot with
  | some (.put bytes) =>
      putLeft (putsOf entries) self.inner.plan slot bytes (self.inner.map.lookup slot)
  | _ => self.inner.map.lookup slot

theorem left_of_no_put (order : HashOrder) {self : BufferingBackend InnerBackend}
    {slot : String × String} (none' : ∀ bytes, self.buffer.lookup slot ≠ some (.put bytes))
    : left order self slot = self.inner.map.lookup slot := by
  unfold left
  split
  · next found => exact absurd found (none' _)
  · rfl

theorem deletesOf_sublist (entries : List ((String × String) × BufferEntry))
    : (deletesOf entries).Sublist (entries.map Prod.fst) := by
  induction entries with
  | nil => exact .refl _
  | cons item rest ih =>
      obtain ⟨slot, entry⟩ := item
      cases entry with
      | put bytes => simpa [deletesOf] using ih.cons slot
      | delete => simpa [deletesOf] using ih.cons_cons slot

/-- After a commit every slot holds its buffered write where that landed, and what is left
everywhere else.
-/
theorem commitInternal_lookup (order : HashOrder) (self : BufferingBackend InnerBackend)
    (slot : String × String)
    : (commitInternal order self).2.inner.map.lookup slot
      = if lands order self slot
        then overlay self.buffer (fun slot => self.inner.map.lookup slot) slot
        else left order self slot := by
  let entries := order.arrange (FiniteMap.pairs self.buffer)
  have unique : (entries.map Prod.fst).Nodup :=
    order.nodup_map_arrange _ (FiniteMap.pairs_keys_nodup _)
  have stored (slot : String × String) (entry : BufferEntry)
      : (slot, entry) ∈ entries ↔ self.buffer.lookup slot = some entry := by
    rw [order.mem_arrange, FiniteMap.mem_pairs]
  have final : (commitInternal order self).2.inner
      = (replayDeletes (deletesOf entries) (replayPuts (putsOf entries) self.inner).1
          (replayPuts (putsOf entries) self.inner).2).2 := by
    simp only [commitInternal]
    split <;> rfl
  obtain ⟨plan, others, mine⟩ := replayPuts_lookup
    ((slots_putsOf_sublist entries).nodup unique) self.inner
  rw [final, replayDeletes_lookup ((deletesOf_sublist entries).nodup unique), plan]
  have notPut (absent : ∀ bytes, self.buffer.lookup slot ≠ some (.put bytes))
      : slot ∉ View.slots (putsOf entries) := by
    intro member
    obtain ⟨⟨dict, key, bytes⟩, put, rfl⟩ := List.mem_map.mp member
    rw [mem_putsOf, stored] at put
    exact absent bytes put
  have notDeleted (absent : self.buffer.lookup slot ≠ some .delete)
      : attemptLands (deletesOf entries) self.inner.plan.delete slot = false := by
    refine attemptLands_of_notMem _ (fun member => ?_)
    rw [mem_deletesOf, stored] at member
    exact absent member
  cases found : self.buffer.lookup slot with
  | none =>
      rw [notDeleted (by simp [found]), others slot (notPut (by simp [found]))]
      simp [lands, left, found]
  | some entry =>
      cases entry with
      | delete =>
          rw [others slot (notPut (by simp [found]))]
          simp [lands, left, found, overlay, BufferEntry.value, entries]
      | put bytes =>
          have put : (slot.1, slot.2, bytes) ∈ putsOf entries := by
            rw [mem_putsOf, stored]
            exact found
          rw [notDeleted (by simp [found])]
          simpa [lands, left, found, overlay, BufferEntry.value, entries] using mine _ _ _ put

end BufferingBackend

end XousAppSignal.Store
