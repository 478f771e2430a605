import XousAppSignal.Store.PartialCommit
import XousAppSignal.Store.Wipe

/-! A delete of a whole dictionary that fails inside a batch. The buffered entries of the
dictionary are popped before the inner call, so they are lost with it.
-/

namespace XousAppSignal.Store

/-- The journal asks for a buffered write, in a bulk write or on its own. -/
def Journal.Asks (journal : Journal) (slot : String × String) : BufferEntry → Prop
  | .put bytes =>
      (∃ entries outcome, (slot.1, slot.2, bytes) ∈ entries
        ∧ (InnerWrite.putBatch entries, outcome) ∈ journal)
      ∨ ∃ outcome, (InnerWrite.put slot.1 slot.2 bytes, outcome) ∈ journal
  | .delete => ∃ outcome, (InnerWrite.delete slot.1 slot.2, outcome) ∈ journal

namespace BufferingBackend

open Journal

variable {self : BufferingBackend InnerBackend}

/-- A bulk write of the put pass carries all puts. -/
theorem putPass_bulk {puts entries : List (String × String × Bytes)} {plan : FaultPlan}
    {outcome : Option Error}
    (made : (InnerWrite.putBatch entries, outcome) ∈ putPass puts plan)
    : entries = puts := by
  cases puts with
  | nil => cases made
  | cons first rest => exact ((putBatch_mem_putPass List.mem_cons_self).mp made).1

/-- A commit asks for the buffered writes and for no others. -/
theorem asks_iff (order : HashOrder) (self : BufferingBackend InnerBackend)
    (slot : String × String) (entry : BufferEntry)
    : (commitInternal order self.journaled).2.inner.journal.Asks slot entry
      ↔ self.buffer.lookup slot = some entry := by
  rw [show (commitInternal order self.journaled).2.inner.journal = commitJournal order self from
    congrArg Journaled.journal (commitInternal_journaled order self).2.1]
  have buffered (entry : BufferEntry)
      : (slot, entry) ∈ order.arrange (FiniteMap.pairs self.buffer)
        ↔ self.buffer.lookup slot = some entry := by
    rw [order.mem_arrange, FiniteMap.mem_pairs]
  cases entry with
  | put bytes =>
      constructor
      · rintro (⟨entries, outcome, listed, made⟩ | ⟨outcome, made⟩)
        · rw [putPass_bulk ((mem_commitJournal_put rfl).mp made), mem_putsOf] at listed
          exact (buffered _).mp listed
        · obtain ⟨-, -, planned⟩ := put_mem_putPass.mp ((mem_commitJournal_put rfl).mp made)
          obtain ⟨⟨dict, key, value⟩, listed, same⟩ := List.mem_map.mp (mem_planned planned)
          cases same
          exact (buffered _).mp (mem_putsOf.mp listed)
      · intro found
        have listed := put_listed order found
        exact .inl ⟨_, _, listed,
          (mem_commitJournal_put rfl).mpr ((putBatch_mem_putPass listed).mpr ⟨rfl, rfl⟩)⟩
  | delete =>
      constructor
      · rintro ⟨outcome, made⟩
        have planned := mem_planned (mem_commitJournal_delete.mp made)
        obtain ⟨⟨dict, key⟩, listed, same⟩ := List.mem_map.mp planned
        cases same
        exact (buffered _).mp (mem_deletesOf.mp listed)
      · exact delete_attempted order self

/-- Two batches between which no read and no commit can tell, in whatever order the hash map
yields its entries.
-/
structure Unchanged (before after : BufferingBackend InnerBackend) : Prop where
  get
    : ∀ dict key, (KvBackend.get dict key after).1 = (KvBackend.get dict key before).1
  listKeys : ∀ dict, (KvBackend.listKeys dict after).1 = (KvBackend.listKeys dict before).1
  commit
    : ∀ order order' slot entry,
        (commitInternal order after.journaled).2.inner.journal.Asks slot entry
        ↔ (commitInternal order' before.journaled).2.inner.journal.Asks slot entry

/-- A failed inner call uses up its planned outcome and leaves the map alone. -/
theorem deleteDict_failed (opened : self.batching = true) {dict : String} {e : Error}
    (failed : (KvBackend.deleteDict dict self).1 = .error e)
    : (KvBackend.deleteDict dict self).2
      = { self with
          buffer := FiniteMap.retain (fun slot => slot.1 ≠ dict) self.buffer
          inner.plan :=
            { self.inner.plan with deleteDict := self.inner.plan.deleteDict.tail } } := by
  simp only [KvBackend.deleteDict, deleteDict, isBatching, opened, forward,
    InnerBackend.deleteDict] at failed ⊢
  split at failed
  · rfl
  · cases failed

/-- Inside a batch, a delete of a dictionary whose inner call fails changes no answer of a
read and no write of a later commit exactly if nothing of that dictionary is buffered.
-/
theorem failed_deleteDict_unchanged_iff (opened : self.batching = true) {dict : String}
    {e : Error} (failed : (KvBackend.deleteDict dict self).1 = .error e)
    : Unchanged self (KvBackend.deleteDict dict self).2
      ↔ ∀ key, self.buffer.lookup (dict, key) = none := by
  constructor
  · intro unchanged key
    by_contra present
    obtain ⟨entry, found⟩ := Option.ne_none_iff_exists'.mp present
    have asked := (asks_iff .insertion self (dict, key) entry).mpr found
    have still := (asks_iff .insertion _ (dict, key) entry).mp
      ((unchanged.commit .insertion .insertion (dict, key) entry).mpr asked)
    rw [deleteDict_buffer, if_pos ⟨opened, rfl⟩] at still
    cases still
  · intro apart
    have kept : FiniteMap.retain (fun slot => slot.1 ≠ dict) self.buffer = self.buffer := by
      refine FiniteMap.retain_eq_self (fun slot present => decide_eq_true ?_)
      rintro rfl
      obtain ⟨entry, found⟩ := FiniteMap.mem_iff_lookup.mp present
      rw [apart] at found
      cases found
    rw [deleteDict_failed opened failed, kept]
    refine ⟨fun dict key => ?_, fun dict => ?_, fun order order' slot entry => ?_⟩
    · simp only [KvBackend.get, get, isBatching, opened, forward, InnerBackend.get]
      cases self.buffer.lookup (dict, key) with
      | some entry => rfl
      | none => cases self.inner.plan.get.head?.join <;> rfl
    · simp only [KvBackend.listKeys, listKeys, isBatching, opened, forward,
        InnerBackend.listKeys]
      cases self.inner.plan.listKeys.head?.join <;> rfl
    · rw [asks_iff, asks_iff]

/-- A put and a tombstone of another dictionary stay buffered. -/
theorem failed_deleteDict_unchanged_elsewhere
    : let self : BufferingBackend InnerBackend :=
        { inner :=
            { map := (∅ : FiniteMap (String × String) Bytes).insert ("d", "k") [1]
              plan := { deleteDict := [some (.backend "disk")] } }
          batching := true
          buffer :=
            ((∅ : FiniteMap (String × String) BufferEntry).insert ("e", "k") (.put [2])).insert
              ("e", "l") .delete }
      (KvBackend.deleteDict "d" self).1 = .error (.backend "disk")
      ∧ Unchanged self (KvBackend.deleteDict "d" self).2 := by
  intro self
  have failed : (KvBackend.deleteDict "d" self).1 = .error (.backend "disk") := rfl
  refine ⟨failed, (failed_deleteDict_unchanged_iff rfl failed).mpr (fun key => ?_)⟩
  simp only [self, FiniteMap.lookup_insert', Prod.mk.injEq, String.reduceEq, false_and, if_false]
  rfl

/-- A put that was buffered over a stored value is gone: the stored value is read again, and
the commit does not write the other.
-/
theorem failed_deleteDict_drops_put
    : let self : BufferingBackend InnerBackend :=
        { inner :=
            { map := (∅ : FiniteMap (String × String) Bytes).insert ("d", "k") [1]
              plan := { deleteDict := [some (.backend "disk")] } }
          batching := true
          buffer := (∅ : FiniteMap (String × String) BufferEntry).insert ("d", "k") (.put [2]) }
      let after := (KvBackend.deleteDict "d" self).2
      (KvBackend.deleteDict "d" self).1 = .error (.backend "disk")
      ∧ (KvBackend.get "d" "k" self).1 = .ok (some [2])
      ∧ (KvBackend.get "d" "k" after).1 = .ok (some [1])
      ∧ (commitInternal .insertion after.journaled).2.inner.journal = []
      ∧ ¬Unchanged self after := by
  intro self after
  have before : (KvBackend.get "d" "k" self).1 = .ok (some [2]) := rfl
  have behind : (KvBackend.get "d" "k" after).1 = .ok (some [1]) := rfl
  refine ⟨rfl, before, behind, rfl, fun unchanged => ?_⟩
  have same := unchanged.get "d" "k"
  rw [before, behind] at same
  cases same

end BufferingBackend

end XousAppSignal.Store
