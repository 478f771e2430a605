import XousAppSignal.Store.CommitFaults

/-! A commit some of whose inner writes fail, told from the journal of those writes: which
were made, which of them failed, and what the inner map holds afterwards.
-/

namespace XousAppSignal.Store

/-- A write that a commit asks of the inner backend. -/
inductive InnerWrite where
  | putBatch (entries : List (String × String × Bytes))
  | put (dict key : String) (value : Bytes)
  | delete (dict key : String)
  deriving DecidableEq

def InnerWrite.isDelete : InnerWrite → Bool
  | .delete _ _ => true
  | _ => false

/-- The writes made, in order, each with the error it returned. -/
abbrev Journal := List (InnerWrite × Option Error)

def errorOf {α : Type} : Except Error α → Option Error
  | .ok _ => none
  | .error e => some e

/-- A backend with the journal of the writes it was asked for. -/
structure Journaled (β : Type) where
  backend : β
  journal : Journal := []

namespace Journaled

variable {β : Type}

def pass {α : Type} (call : Call β α) : Call (Journaled β) α := fun self =>
  ((call self.backend).1, { self with backend := (call self.backend).2 })

def record (write : InnerWrite) (call : Call β Unit) : Call (Journaled β) Unit := fun self =>
  ((call self.backend).1,
    { backend := (call self.backend).2
      journal := self.journal ++ [(write, errorOf (call self.backend).1)] })

instance [KvBackend β] : KvBackend (Journaled β) where
  get dict key := pass (KvBackend.get dict key)
  put dict key value := record (.put dict key value) (KvBackend.put dict key value)
  putBatch entries := record (.putBatch entries) (KvBackend.putBatch entries)
  delete dict key := record (.delete dict key) (KvBackend.delete dict key)
  deleteDict dict := pass (KvBackend.deleteDict dict)
  listKeys dict := pass (KvBackend.listKeys dict)

end Journaled

namespace Journal

/-- Writes that are all made, with the errors planned for them. -/
def planned : List InnerWrite → List (Option Error) → Journal
  | [], _ => []
  | write :: rest, faults => (write, faults.head?.join) :: planned rest faults.tail

def BulkFailed (journal : Journal) : Prop :=
  ∃ entries e, (InnerWrite.putBatch entries, some e) ∈ journal

def PutFailed (journal : Journal) : Prop :=
  ∃ dict key value e, (InnerWrite.put dict key value, some e) ∈ journal

def DeleteFailed (journal : Journal) : Prop :=
  ∃ dict key e, (InnerWrite.delete dict key, some e) ∈ journal

/-- A call that carries the buffered write of the slot has succeeded. -/
def Succeeded (journal : Journal) (slot : String × String) : BufferEntry → Prop
  | .put bytes =>
      (∃ entries, (slot.1, slot.2, bytes) ∈ entries
        ∧ (InnerWrite.putBatch entries, none) ∈ journal)
      ∨ (InnerWrite.put slot.1 slot.2 bytes, none) ∈ journal
  | .delete => (InnerWrite.delete slot.1 slot.2, none) ∈ journal

/-- Only writes that were asked for are in the journal. -/
theorem mem_planned {writes : List InnerWrite} {faults : List (Option Error)}
    {write : InnerWrite} {outcome : Option Error}
    (member : (write, outcome) ∈ planned writes faults)
    : write ∈ writes := by
  induction writes generalizing faults with
  | nil => cases member
  | cons first rest ih =>
      rcases List.mem_cons.mp member with here | later
      · obtain ⟨rfl, -⟩ := Prod.mk.inj here
        exact List.mem_cons_self
      · exact List.mem_cons_of_mem _ (ih later)

/-- Every write that was asked for is in the journal. -/
theorem planned_attempts {writes : List InnerWrite} (faults : List (Option Error))
    {write : InnerWrite} (member : write ∈ writes)
    : ∃ outcome, (write, outcome) ∈ planned writes faults := by
  induction writes generalizing faults with
  | nil => cases member
  | cons first rest ih =>
      rcases List.mem_cons.mp member with rfl | later
      · exact ⟨_, List.mem_cons_self⟩
      · obtain ⟨outcome, found⟩ := ih faults.tail later
        exact ⟨outcome, List.mem_cons_of_mem _ found⟩

/-- One of the planned writes fails. -/
def AnyFailed (journal : Journal) : Prop := ∃ write e, (write, some e) ∈ journal

theorem anyFailed_cons (write : InnerWrite) (outcome : Option Error) (rest : Journal)
    : AnyFailed ((write, outcome) :: rest) ↔ outcome.isSome = true ∨ AnyFailed rest := by
  constructor
  · rintro ⟨write', e, member⟩
    rcases List.mem_cons.mp member with here | later
    · obtain ⟨-, rfl⟩ := Prod.mk.inj here
      exact .inl rfl
    · exact .inr ⟨write', e, later⟩
  · rintro (failed | ⟨write', e, later⟩)
    · obtain ⟨e, rfl⟩ := Option.isSome_iff_exists.mp failed
      exact ⟨write, e, List.mem_cons_self⟩
    · exact ⟨write', e, List.mem_cons_of_mem _ later⟩

/-- A slot's attempt lands exactly when its write is in the journal without an error. -/
theorem attemptLands_iff {α : Type} {items : List α} (slotOf : α → String × String)
    (writeOf : α → InnerWrite) (apart : ∀ a b, writeOf a = writeOf b → slotOf a = slotOf b)
    (unique : (items.map slotOf).Nodup) (faults : List (Option Error)) {item : α}
    (member : item ∈ items)
    : attemptLands (items.map slotOf) faults (slotOf item) = true
      ↔ (writeOf item, none) ∈ planned (items.map writeOf) faults := by
  induction items generalizing faults with
  | nil => cases member
  | cons first rest ih =>
      rw [List.map_cons, List.nodup_cons] at unique
      rw [List.map_cons, List.map_cons, planned, List.mem_cons, Prod.mk.injEq]
      rcases List.mem_cons.mp member with rfl | later
      · have once : (writeOf item, none) ∉ planned (rest.map writeOf) faults.tail := by
          intro again
          obtain ⟨other, found, same⟩ := List.mem_map.mp (mem_planned again)
          exact unique.1 (List.mem_map.mpr ⟨other, found, apart other item same⟩)
        rw [attemptLands_self, Option.isNone_iff_eq_none]
        simp [once, eq_comm]
      · have different : slotOf item ≠ slotOf first := by
          intro same
          exact unique.1 (same ▸ List.mem_map.mpr ⟨item, later, rfl⟩)
        rw [attemptLands_other _ _ different, ih unique.2 faults.tail later]
        constructor
        · exact .inr
        · rintro (⟨same, -⟩ | found)
          · exact absurd (apart item first same) different
          · exact found

end Journal

/-- The errors that the coming puts return. -/
def FaultPlan.putErrors (plan : FaultPlan) : List (Option Error) :=
  plan.put.map (Option.map PutFault.error)

namespace InnerBackend

theorem putErrors_head (plan : FaultPlan)
    : plan.putErrors.head?.join = plan.put.head?.join.map PutFault.error := by
  unfold FaultPlan.putErrors
  cases plan.put with
  | nil => rfl
  | cons fault rest => simp

theorem put_error (self : InnerBackend) (dict key : String) (value : Bytes)
    : errorOf (KvBackend.put dict key value self).1 = self.plan.putErrors.head?.join := by
  rw [putErrors_head]
  cases next : self.plan.put.head?.join with
  | none => simp [KvBackend.put, put, next, errorOf]
  | some fault => cases fault <;> simp [KvBackend.put, put, next, errorOf, PutFault.error]

theorem delete_error (self : InnerBackend) (dict key : String)
    : errorOf (KvBackend.delete dict key self).1 = self.plan.delete.head?.join := by
  cases fault : self.plan.delete.head?.join <;>
    simp [KvBackend.delete, delete, fault, errorOf]

theorem putBatch_error (self : InnerBackend) (entries : List (String × String × Bytes))
    : errorOf (KvBackend.putBatch entries self).1
      = self.plan.putBatch.head?.join.map Prod.fst := by
  cases fault : self.plan.putBatch.head?.join <;>
    simp [KvBackend.putBatch, putBatch, fault, errorOf]

end InnerBackend

namespace BufferingBackend

open Journal

/-- The first error is kept, so there is one in the end if there was one before or now. -/
theorem firstError_isSome {α : Type} (firstErr : Option Error) (result : Except Error α)
    : (firstError firstErr result).isSome = true
      ↔ firstErr.isSome = true ∨ (errorOf result).isSome = true := by
  cases result <;> simp [firstError, errorOf]

def putWrite (entry : String × String × Bytes) : InnerWrite :=
  .put entry.1 entry.2.1 entry.2.2

def deleteWrite (slot : String × String) : InnerWrite := .delete slot.1 slot.2

/-- The fallback makes every put, by induction, and ends with an error if one failed. -/
theorem fallbackPuts_journaled (puts : List (String × String × Bytes))
    (firstErr : Option Error) (inner : InnerBackend) (journal : Journal)
    : fallbackPuts puts firstErr (⟨inner, journal⟩ : Journaled InnerBackend)
        = ((fallbackPuts puts firstErr inner).1,
            ⟨(fallbackPuts puts firstErr inner).2,
              journal ++ planned (puts.map putWrite) inner.plan.putErrors⟩)
      ∧ ((fallbackPuts puts firstErr inner).1.isSome = true
          ↔ firstErr.isSome = true
            ∨ AnyFailed (planned (puts.map putWrite) inner.plan.putErrors)) := by
  induction puts generalizing firstErr inner journal with
  | nil => simp [fallbackPuts, planned, AnyFailed]
  | cons entry rest ih =>
      obtain ⟨dict, key, value⟩ := entry
      have called : KvBackend.put dict key value (⟨inner, journal⟩ : Journaled InnerBackend)
          = ((KvBackend.put dict key value inner).1,
              ⟨(KvBackend.put dict key value inner).2,
                journal ++ [(.put dict key value, inner.plan.putErrors.head?.join)]⟩) := by
        rw [← InnerBackend.put_error inner dict key value]
        rfl
      obtain ⟨made, failed⟩ := ih (firstError firstErr (KvBackend.put dict key value inner).1)
        (KvBackend.put dict key value inner).2
        (journal ++ [(.put dict key value, inner.plan.putErrors.head?.join)])
      have later : (KvBackend.put dict key value inner).2.plan.putErrors
          = inner.plan.putErrors.tail := by
        rw [InnerBackend.put_plan, FaultPlan.putErrors, FaultPlan.putErrors, List.map_tail]
      rw [later] at made failed
      constructor
      · simp only [fallbackPuts, called, made, List.map_cons, planned, putWrite,
          List.append_assoc, List.singleton_append]
      · simp only [fallbackPuts, List.map_cons, planned, anyFailed_cons]
        rw [failed, firstError_isSome, InnerBackend.put_error, or_assoc]

/-- The tombstones are all replayed, by induction, with an error if one failed. -/
theorem replayDeletes_journaled (deletes : List (String × String)) (firstErr : Option Error)
    (inner : InnerBackend) (journal : Journal)
    : replayDeletes deletes firstErr (⟨inner, journal⟩ : Journaled InnerBackend)
        = ((replayDeletes deletes firstErr inner).1,
            ⟨(replayDeletes deletes firstErr inner).2,
              journal ++ planned (deletes.map deleteWrite) inner.plan.delete⟩)
      ∧ ((replayDeletes deletes firstErr inner).1.isSome = true
          ↔ firstErr.isSome = true
            ∨ AnyFailed (planned (deletes.map deleteWrite) inner.plan.delete)) := by
  induction deletes generalizing firstErr inner journal with
  | nil => simp [replayDeletes, planned, AnyFailed]
  | cons slot rest ih =>
      obtain ⟨dict, key⟩ := slot
      have called : KvBackend.delete dict key (⟨inner, journal⟩ : Journaled InnerBackend)
          = ((KvBackend.delete dict key inner).1,
              ⟨(KvBackend.delete dict key inner).2,
                journal ++ [(.delete dict key, inner.plan.delete.head?.join)]⟩) := by
        rw [← InnerBackend.delete_error inner dict key]
        rfl
      obtain ⟨made, failed⟩ := ih (firstError firstErr (KvBackend.delete dict key inner).1)
        (KvBackend.delete dict key inner).2
        (journal ++ [(.delete dict key, inner.plan.delete.head?.join)])
      rw [InnerBackend.delete_plan] at made failed
      constructor
      · simp only [replayDeletes, called, made, List.map_cons, planned, deleteWrite,
          List.append_assoc, List.singleton_append]
      · simp only [replayDeletes, List.map_cons, planned, anyFailed_cons]
        rw [failed, firstError_isSome, InnerBackend.delete_error, or_assoc]

/-- The writes of the put pass: one bulk write if there are puts at all, and when it fails
every put on its own.
-/
def putPass (puts : List (String × String × Bytes)) (plan : FaultPlan) : Journal :=
  if puts.isEmpty then []
  else
    match plan.putBatch.head?.join with
    | none => [(.putBatch puts, none)]
    | some failure => (.putBatch puts, some failure.1) :: planned (puts.map putWrite) plan.putErrors

theorem putFailed_planned (puts : List (String × String × Bytes))
    (faults : List (Option Error))
    : PutFailed (planned (puts.map putWrite) faults)
      ↔ AnyFailed (planned (puts.map putWrite) faults) := by
  constructor
  · rintro ⟨dict, key, value, e, member⟩
    exact ⟨_, e, member⟩
  · rintro ⟨write, e, member⟩
    obtain ⟨entry, -, rfl⟩ := List.mem_map.mp (mem_planned member)
    exact ⟨_, _, _, e, member⟩

theorem deleteFailed_planned (deletes : List (String × String)) (faults : List (Option Error))
    : DeleteFailed (planned (deletes.map deleteWrite) faults)
      ↔ AnyFailed (planned (deletes.map deleteWrite) faults) := by
  constructor
  · rintro ⟨dict, key, e, member⟩
    exact ⟨_, e, member⟩
  · rintro ⟨write, e, member⟩
    obtain ⟨slot, -, rfl⟩ := List.mem_map.mp (mem_planned member)
    exact ⟨_, _, e, member⟩

/-- The put pass makes its writes, and ends with an error if the fallback had one. -/
theorem replayPuts_journaled (puts : List (String × String × Bytes)) (inner : InnerBackend)
    : replayPuts puts (⟨inner, []⟩ : Journaled InnerBackend)
        = ((replayPuts puts inner).1,
            ⟨(replayPuts puts inner).2, putPass puts inner.plan⟩)
      ∧ ((replayPuts puts inner).1.isSome = true ↔ PutFailed (putPass puts inner.plan)) := by
  by_cases empty : puts.isEmpty
  · simp [replayPuts, putPass, empty, PutFailed]
  · have error := InnerBackend.putBatch_error inner puts
    have called : KvBackend.putBatch puts (⟨inner, []⟩ : Journaled InnerBackend)
        = ((KvBackend.putBatch puts inner).1,
            ⟨(KvBackend.putBatch puts inner).2,
              [(.putBatch puts, inner.plan.putBatch.head?.join.map Prod.fst)]⟩) := by
      rw [← error]
      rfl
    have plan : (KvBackend.putBatch puts inner).2.plan.putErrors = inner.plan.putErrors := by
      rw [InnerBackend.putBatch_plan]
      rfl
    simp only [replayPuts, putPass, empty, Bool.false_eq_true, if_false, called]
    generalize KvBackend.putBatch puts inner = outcome at error plan ⊢
    obtain ⟨result, next⟩ := outcome
    cases fault : inner.plan.putBatch.head?.join with
    | none =>
        cases result with
        | error e => simp [fault, errorOf] at error
        | ok done => simp [PutFailed]
    | some failure =>
        cases result with
        | ok done => simp [fault, errorOf] at error
        | error e =>
            obtain ⟨made, failed⟩ := fallbackPuts_journaled puts none next
              [(.putBatch puts, some failure.1)]
            rw [plan] at made failed
            refine ⟨made, failed.trans ?_⟩
            rw [← putFailed_planned]
            simp [PutFailed]

/-- The journal of a whole commit. -/
def commitJournal (order : HashOrder) (self : BufferingBackend InnerBackend) : Journal :=
  let entries := order.arrange (FiniteMap.pairs self.buffer)
  putPass (putsOf entries) self.inner.plan
    ++ planned ((deletesOf entries).map deleteWrite) self.inner.plan.delete

/-- The wrapper around a backend that keeps a journal from now on. -/
def journaled (self : BufferingBackend InnerBackend)
    : BufferingBackend (Journaled InnerBackend) :=
  { inner := { backend := self.inner }, batching := self.batching, buffer := self.buffer }

/-- A commit with a journal is the same commit, and its journal is the planned one. It
returns an error when the fallback or the delete pass had one.
-/
theorem commitInternal_journaled (order : HashOrder) (self : BufferingBackend InnerBackend)
    : let entries := order.arrange (FiniteMap.pairs self.buffer)
      (commitInternal order self.journaled).1 = (commitInternal order self).1
      ∧ (commitInternal order self.journaled).2.inner
        = ⟨(commitInternal order self).2.inner, commitJournal order self⟩
      ∧ ((∃ e, (commitInternal order self).1 = .error e)
          ↔ PutFailed (putPass (putsOf entries) self.inner.plan)
            ∨ DeleteFailed
                (planned ((deletesOf entries).map deleteWrite) self.inner.plan.delete)) := by
  have unique : ((order.arrange (FiniteMap.pairs self.buffer)).map Prod.fst).Nodup :=
    order.nodup_map_arrange _ (FiniteMap.pairs_keys_nodup _)
  simp only [commitInternal, journaled, commitJournal]
  generalize order.arrange (FiniteMap.pairs self.buffer) = entries at unique ⊢
  obtain ⟨puts, putsFail⟩ := replayPuts_journaled (putsOf entries) self.inner
  obtain ⟨deletes, deletesFail⟩ := replayDeletes_journaled (deletesOf entries)
    (replayPuts (putsOf entries) self.inner).1 (replayPuts (putsOf entries) self.inner).2
    (putPass (putsOf entries) self.inner.plan)
  have plan := (replayPuts_lookup ((slots_putsOf_sublist entries).nodup unique) self.inner).1
  rw [plan] at deletes deletesFail
  rw [putsFail, ← deleteFailed_planned] at deletesFail
  rw [puts]
  simp only [deletes]
  generalize replayDeletes (deletesOf entries) (replayPuts (putsOf entries) self.inner).1
    (replayPuts (putsOf entries) self.inner).2 = outcome at deletesFail ⊢
  obtain ⟨firstErr, inner⟩ := outcome
  cases firstErr with
  | none => simpa using deletesFail
  | some e => simpa using deletesFail

/-- The put pass deletes nothing. -/
theorem delete_notMem_putPass (puts : List (String × String × Bytes)) (plan : FaultPlan)
    (dict key : String) (outcome : Option Error)
    : (InnerWrite.delete dict key, outcome) ∉ putPass puts plan := by
  unfold putPass
  split
  · simp
  · split
    · simp
    · intro member
      rcases List.mem_cons.mp member with here | later
      · cases (Prod.mk.inj here).1
      · obtain ⟨entry, -, same⟩ := List.mem_map.mp (mem_planned later)
        cases same

/-- The delete pass puts nothing. -/
theorem mem_commitJournal_put {order : HashOrder} {self : BufferingBackend InnerBackend}
    {write : InnerWrite} {outcome : Option Error}
    (isPut : write.isDelete = false)
    : (write, outcome) ∈ commitJournal order self
      ↔ (write, outcome)
          ∈ putPass (putsOf (order.arrange (FiniteMap.pairs self.buffer))) self.inner.plan := by
  rw [commitJournal, List.mem_append]
  constructor
  · rintro (found | found)
    · exact found
    · obtain ⟨slot, -, rfl⟩ := List.mem_map.mp (mem_planned found)
      cases isPut
  · exact .inl

theorem mem_commitJournal_delete {order : HashOrder} {self : BufferingBackend InnerBackend}
    {dict key : String} {outcome : Option Error}
    : (InnerWrite.delete dict key, outcome) ∈ commitJournal order self
      ↔ (InnerWrite.delete dict key, outcome)
          ∈ planned ((deletesOf (order.arrange (FiniteMap.pairs self.buffer))).map deleteWrite)
              self.inner.plan.delete := by
  rw [commitJournal, List.mem_append]
  constructor
  · rintro (found | found)
    · exact absurd found (delete_notMem_putPass _ _ _ _ _)
    · exact found
  · exact .inr

/-- The bulk write that a commit with a buffered put makes. -/
theorem putBatch_mem_putPass {puts : List (String × String × Bytes)} {plan : FaultPlan}
    {entry : String × String × Bytes} (member : entry ∈ puts)
    {entries : List (String × String × Bytes)} {outcome : Option Error}
    : (InnerWrite.putBatch entries, outcome) ∈ putPass puts plan
      ↔ entries = puts ∧ outcome = plan.putBatch.head?.join.map Prod.fst := by
  have nonempty : puts.isEmpty = false := by
    cases puts with
    | nil => cases member
    | cons first rest => rfl
  have fallback : (InnerWrite.putBatch entries, outcome)
      ∉ planned (puts.map putWrite) plan.putErrors := by
    intro found
    obtain ⟨entry, -, same⟩ := List.mem_map.mp (mem_planned found)
    cases same
  cases fault : plan.putBatch.head?.join with
  | none => simp [putPass, nonempty, fault]
  | some failure => simp [putPass, nonempty, fault, fallback]

/-- A put of the fallback is made exactly when the bulk write failed. -/
theorem put_mem_putPass {puts : List (String × String × Bytes)} {plan : FaultPlan}
    {dict key : String} {value : Bytes} {outcome : Option Error}
    : (InnerWrite.put dict key value, outcome) ∈ putPass puts plan
      ↔ puts ≠ [] ∧ plan.putBatch.head?.join.isSome = true
        ∧ (InnerWrite.put dict key value, outcome)
          ∈ planned (puts.map putWrite) plan.putErrors := by
  cases puts with
  | nil => simp [putPass]
  | cons first rest =>
      cases fault : plan.putBatch.head?.join with
      | none => simp [putPass, fault]
      | some failure => simp [putPass, fault]

/-- A commit writes a buffered put. -/
theorem put_listed (order : HashOrder) {self : BufferingBackend InnerBackend}
    {slot : String × String} {bytes : Bytes}
    (found : self.buffer.lookup slot = some (.put bytes))
    : (slot.1, slot.2, bytes) ∈ putsOf (order.arrange (FiniteMap.pairs self.buffer)) := by
  rw [mem_putsOf, order.mem_arrange, FiniteMap.mem_pairs]
  exact found

/-- A commit deletes the slot of a buffered tombstone. -/
theorem delete_listed (order : HashOrder) {self : BufferingBackend InnerBackend}
    {slot : String × String} (found : self.buffer.lookup slot = some .delete)
    : slot ∈ deletesOf (order.arrange (FiniteMap.pairs self.buffer)) := by
  rw [mem_deletesOf, order.mem_arrange, FiniteMap.mem_pairs]
  exact found

theorem attemptFault_putErrors (slots : List (String × String)) (faults : List (Option PutFault))
    (slot : String × String)
    : attemptFault slots (faults.map (Option.map PutFault.error)) slot
      = (attemptFault slots faults slot).map PutFault.error := by
  induction slots generalizing faults with
  | nil => rfl
  | cons first rest ih =>
      by_cases here : slot = first
      · rw [here, attemptFault_self, attemptFault_self]
        cases faults with
        | nil => rfl
        | cons fault later => simp
      · rw [attemptFault_other _ _ here, attemptFault_other _ _ here, ← ih, List.map_tail]

/-- A put lands where no error is planned for it. -/
theorem attemptLands_putErrors (slots : List (String × String)) (plan : FaultPlan)
    (slot : String × String)
    : attemptLands slots plan.putErrors slot = attemptLands slots plan.put slot := by
  unfold attemptLands FaultPlan.putErrors
  rw [attemptFault_putErrors, Option.isNone_map]

/-- A buffered put succeeds in the bulk write or, after that failed, in its own attempt. -/
theorem succeeded_put_iff (order : HashOrder) (self : BufferingBackend InnerBackend)
    {slot : String × String} {bytes : Bytes}
    (found : self.buffer.lookup slot = some (.put bytes))
    : Succeeded (commitJournal order self) slot (.put bytes)
      ↔ self.inner.plan.putBatch.head?.join = none
        ∨ attemptLands (View.slots (putsOf (order.arrange (FiniteMap.pairs self.buffer))))
            self.inner.plan.put slot = true := by
  have unique : ((order.arrange (FiniteMap.pairs self.buffer)).map Prod.fst).Nodup :=
    order.nodup_map_arrange _ (FiniteMap.pairs_keys_nodup _)
  have member := put_listed order found
  have bulk (entries : List (String × String × Bytes))
      : (InnerWrite.putBatch entries, none) ∈ commitJournal order self
        ↔ entries = putsOf (order.arrange (FiniteMap.pairs self.buffer))
          ∧ none = self.inner.plan.putBatch.head?.join.map Prod.fst :=
    (mem_commitJournal_put rfl).trans (putBatch_mem_putPass member)
  have single : (InnerWrite.put slot.1 slot.2 bytes, none) ∈ commitJournal order self ↔ _ :=
    (mem_commitJournal_put rfl).trans put_mem_putPass
  have attempt := attemptLands_iff (fun entry => (entry.1, entry.2.1)) putWrite
    (by rintro ⟨_, _, _⟩ ⟨_, _, _⟩ same; cases same; rfl)
    ((slots_putsOf_sublist _).nodup unique) self.inner.plan.putErrors member
  rw [attemptLands_putErrors] at attempt
  simp only [Succeeded, bulk, single]
  rw [show View.slots (putsOf (order.arrange (FiniteMap.pairs self.buffer)))
      = (putsOf (order.arrange (FiniteMap.pairs self.buffer))).map
          (fun entry => (entry.1, entry.2.1)) from rfl, attempt]
  cases fault : self.inner.plan.putBatch.head?.join with
  | none => simpa using member
  | some failure =>
      have nonempty := List.ne_nil_of_mem member
      simp [nonempty, putWrite]

/-- A tombstone succeeds in its own attempt. -/
theorem succeeded_delete_iff (order : HashOrder) (self : BufferingBackend InnerBackend)
    {slot : String × String} (found : self.buffer.lookup slot = some .delete)
    : Succeeded (commitJournal order self) slot .delete
      ↔ attemptLands (deletesOf (order.arrange (FiniteMap.pairs self.buffer)))
          self.inner.plan.delete slot = true := by
  have unique : ((order.arrange (FiniteMap.pairs self.buffer)).map Prod.fst).Nodup :=
    order.nodup_map_arrange _ (FiniteMap.pairs_keys_nodup _)
  have member := delete_listed order found
  have deletesUnique
      : ((deletesOf (order.arrange (FiniteMap.pairs self.buffer))).map id).Nodup := by
    rw [List.map_id]
    exact (deletesOf_sublist _).nodup unique
  have attempt := attemptLands_iff id deleteWrite
    (by rintro ⟨_, _⟩ ⟨_, _⟩ same; cases same; rfl) deletesUnique self.inner.plan.delete member
  rw [List.map_id] at attempt
  exact mem_commitJournal_delete.trans attempt.symm

/-- Every put of the fallback is attempted once the bulk write has failed. -/
theorem fallback_attempted (order : HashOrder) (self : BufferingBackend InnerBackend)
    {slot : String × String} {bytes : Bytes}
    (found : self.buffer.lookup slot = some (.put bytes))
    (failed : BulkFailed (commitJournal order self))
    : ∃ outcome, (InnerWrite.put slot.1 slot.2 bytes, outcome) ∈ commitJournal order self := by
  have member := put_listed order found
  obtain ⟨entries, e, bulk⟩ := failed
  obtain ⟨-, fault⟩ := (putBatch_mem_putPass member).mp ((mem_commitJournal_put rfl).mp bulk)
  obtain ⟨outcome, made⟩ := planned_attempts self.inner.plan.putErrors
    (List.mem_map_of_mem (f := putWrite) member)
  refine ⟨outcome, (mem_commitJournal_put rfl).mpr (put_mem_putPass.mpr ⟨?_, ?_, made⟩)⟩
  · exact List.ne_nil_of_mem member
  · cases planned : self.inner.plan.putBatch.head?.join with
    | none => simp [planned] at fault
    | some failure => rfl

theorem delete_attempted (order : HashOrder) (self : BufferingBackend InnerBackend)
    {slot : String × String} (found : self.buffer.lookup slot = some .delete)
    : ∃ outcome, (InnerWrite.delete slot.1 slot.2, outcome) ∈ commitJournal order self := by
  have member := delete_listed order found
  obtain ⟨outcome, made⟩ := planned_attempts self.inner.plan.delete
    (List.mem_map_of_mem (f := deleteWrite) member)
  exact ⟨outcome, mem_commitJournal_delete.mpr made⟩

/-- A failing put is one of the fallback, so the bulk write has failed before it. -/
theorem bulkFailed_of_putFailed {order : HashOrder} {self : BufferingBackend InnerBackend}
    (failed : PutFailed (commitJournal order self))
    : BulkFailed (commitJournal order self) := by
  obtain ⟨dict, key, value, e, put⟩ := failed
  obtain ⟨nonempty, fault, -⟩ := put_mem_putPass.mp ((mem_commitJournal_put rfl).mp put)
  obtain ⟨entry, rest, puts⟩ := List.exists_cons_of_ne_nil nonempty
  obtain ⟨failure, planned⟩ := Option.isSome_iff_exists.mp fault
  have member : entry ∈ putsOf (order.arrange (FiniteMap.pairs self.buffer)) := by
    rw [puts]
    exact List.mem_cons_self
  refine ⟨_, failure.1, (mem_commitJournal_put rfl).mpr
    ((putBatch_mem_putPass member).mpr ⟨rfl, ?_⟩)⟩
  rw [planned]
  rfl

/-- What succeeded is in the inner map after the commit. -/
theorem lands_of_succeeded {order : HashOrder} {self : BufferingBackend InnerBackend}
    {slot : String × String} {entry : BufferEntry}
    (found : self.buffer.lookup slot = some entry)
    (succeeded : Succeeded (commitJournal order self) slot entry)
    : lands order self slot = true := by
  cases entry with
  | put bytes =>
      simp only [lands, found]
      rcases (succeeded_put_iff order self found).mp succeeded with bulk | own
      · exact putLands_of_bulk bulk _ _
      · exact putLands_of_attempt
          (Option.isNone_iff_eq_none.mp (Bool.and_eq_true_iff.mp own).2)
  | delete => simpa [lands, found] using (succeeded_delete_iff order self found).mp succeeded

/-- Where failing puts keep their keys, what did not succeed is in the inner map only where the
failed bulk write has put it, and what was there is left elsewhere.
-/
theorem lands_of_missed {order : HashOrder} {self : BufferingBackend InnerBackend}
    (keeps : self.inner.plan.PutsKeep) {slot : String × String} {entry : BufferEntry}
    (found : self.buffer.lookup slot = some entry)
    (missed : ¬Succeeded (commitJournal order self) slot entry)
    : lands order self slot = false ∧ left order self slot = self.inner.map.lookup slot
      ∨ lands order self slot = true ∧ ∃ bytes e applied, entry = .put bytes
          ∧ self.inner.plan.putBatch.head?.join = some (e, applied) ∧ slot ∈ applied := by
  cases entry with
  | put bytes =>
      rw [succeeded_put_iff order self found, not_or, Bool.not_eq_true] at missed
      obtain ⟨⟨e, applied⟩, bulk⟩ := Option.ne_none_iff_exists'.mp missed.1
      have listed : slot ∈ View.slots (putsOf (order.arrange (FiniteMap.pairs self.buffer))) :=
        List.mem_map.mpr ⟨_, put_listed order found, rfl⟩
      obtain ⟨fault, fails⟩ : ∃ fault, attemptFault
          (View.slots (putsOf (order.arrange (FiniteMap.pairs self.buffer))))
          self.inner.plan.put slot = some fault := by
        have fails := missed.2
        simp only [attemptLands, listed, decide_true, Bool.true_and,
          Option.isNone_eq_false_iff] at fails
        exact Option.isSome_iff_exists.mp fails
      obtain ⟨error, rfl⟩ := keeps.attempt fails
      by_cases inBulk : slot ∈ applied
      · refine .inr ⟨?_, bytes, e, applied, rfl, bulk, inBulk⟩
        simp [lands, found, putLands, bulk, fails, inBulk, PutFault.keeps]
      · refine .inl ⟨?_, ?_⟩
        · simp [lands, found, putLands, bulk, fails, inBulk]
        · simp [left, found, putLeft, fails, PutFault.leaves]
  | delete =>
      rw [succeeded_delete_iff order self found, Bool.not_eq_true] at missed
      exact .inl ⟨by simp [lands, found, missed], by simp [left, found]⟩

/-- A commit under any pattern of inner failures in which a failing put keeps its key: it
returns an error exactly when a put of the fallback or a delete failed, every such call is made,
each slot holds its buffered write where a call of its own succeeded and what it held before
(or what the failed bulk write had put there) where not, and the wrapper is ready for another
batch.
-/
theorem commit_partial_failure (order : HashOrder) (self : BufferingBackend InnerBackend)
    (keeps : self.inner.plan.PutsKeep)
    : let committed := commitInternal order self
      let journaled := commitInternal order self.journaled
      let journal := journaled.2.inner.journal
      (journaled.1 = committed.1 ∧ journaled.2.inner.backend = committed.2.inner)
      ∧ ((∃ e, committed.1 = .error e)
          ↔ (BulkFailed journal ∧ PutFailed journal) ∨ DeleteFailed journal)
      ∧ (∀ slot bytes, self.buffer.lookup slot = some (.put bytes) → BulkFailed journal
          → ∃ outcome, (InnerWrite.put slot.1 slot.2 bytes, outcome) ∈ journal)
      ∧ (∀ slot, self.buffer.lookup slot = some .delete
          → ∃ outcome, (InnerWrite.delete slot.1 slot.2, outcome) ∈ journal)
      ∧ (∀ slot entry, self.buffer.lookup slot = some entry → Succeeded journal slot entry
          → committed.2.inner.map.lookup slot = entry.value)
      ∧ (∀ slot entry, self.buffer.lookup slot = some entry → ¬Succeeded journal slot entry
          → committed.2.inner.map.lookup slot = self.inner.map.lookup slot
            ∨ ∃ bytes e applied, entry = .put bytes
                ∧ self.inner.plan.putBatch.head?.join = some (e, applied) ∧ slot ∈ applied
                ∧ committed.2.inner.map.lookup slot = some bytes)
      ∧ (∀ slot, self.buffer.lookup slot = none
          → committed.2.inner.map.lookup slot = self.inner.map.lookup slot)
      ∧ committed.2.buffer = ∅
      ∧ committed.2.batching = false
      ∧ (beginBatch committed.2).1 = .ok () := by
  intro committed journaled journal
  obtain ⟨result, inner, failed⟩ := commitInternal_journaled order self
  have noted : journal = commitJournal order self := congrArg Journaled.journal inner
  have after (slot : String × String) := commitInternal_lookup order self slot
  have closed : committed.2.batching = false ∧ committed.2.buffer = ∅ := by
    simp only [committed, commitInternal]
    split <;> exact ⟨rfl, rfl⟩
  refine ⟨⟨result, congrArg Journaled.backend inner⟩, ?_, ?_, ?_, ?_, ?_, ?_, closed.2, closed.1,
    by simp [beginBatch, closed.1]⟩
  · have puts : PutFailed (commitJournal order self) ↔ PutFailed (putPass _ self.inner.plan) :=
      exists_congr fun dict => exists_congr fun key => exists_congr fun value =>
        exists_congr fun e => mem_commitJournal_put rfl
    have deletes : DeleteFailed (commitJournal order self) ↔ DeleteFailed (planned _ _) :=
      exists_congr fun dict => exists_congr fun key => exists_congr fun e =>
        mem_commitJournal_delete
    have bulk : BulkFailed (commitJournal order self) ∧ PutFailed (commitJournal order self)
        ↔ PutFailed (commitJournal order self) :=
      ⟨fun both => both.2, fun failed => ⟨bulkFailed_of_putFailed failed, failed⟩⟩
    rw [noted, bulk, puts, deletes]
    exact failed
  · rw [noted]
    exact fun slot bytes found failed => fallback_attempted order self found failed
  · rw [noted]
    exact fun slot found => delete_attempted order self found
  · intro slot entry found succeeded
    rw [noted] at succeeded
    rw [after slot, if_pos (lands_of_succeeded found succeeded), overlay, found]
  · intro slot entry found missed
    rw [noted] at missed
    rcases lands_of_missed keeps found missed with
      ⟨fails, kept⟩ | ⟨lands, bytes, e, applied, rfl, bulk⟩
    · exact .inl (by rw [after slot, if_neg (by simp [fails]), kept])
    · refine .inr ⟨bytes, e, applied, rfl, bulk.1, bulk.2, ?_⟩
      rw [after slot, if_pos lands, overlay, found]
      rfl
  · intro slot absent
    rw [after slot, if_neg (by simp [lands, absent])]
    simp [left, absent]

/-- A failing bulk write that had applied one of two puts, a fallback that fails for both, and
a tombstone that goes through.
-/
theorem commit_partial_failure_bulk_and_fallback
    : let self : BufferingBackend InnerBackend :=
        { inner :=
            { map := (∅ : FiniteMap (String × String) Bytes).insert ("d", "gone") [1]
              plan :=
                { putBatch := [some (.backend "bulk", [("d", "a")])]
                  put :=
                    [some (.preDelete (.backend "first")),
                      some (.preDelete (.backend "second"))] } }
          batching := true
          buffer :=
            (((∅ : FiniteMap (String × String) BufferEntry).insert ("d", "a") (.put [2])).insert
              ("d", "b") (.put [3])).insert ("d", "gone") .delete }
      let committed := commitInternal .insertion self
      committed.1 = .error (.backend "first")
      ∧ (BulkFailed (commitInternal .insertion self.journaled).2.inner.journal
          ∧ PutFailed (commitInternal .insertion self.journaled).2.inner.journal
        ∨ DeleteFailed (commitInternal .insertion self.journaled).2.inner.journal)
      ∧ committed.2.inner.map.lookup ("d", "a") = some [2]
      ∧ committed.2.inner.map.lookup ("d", "b") = none
      ∧ committed.2.inner.map.lookup ("d", "gone") = none := by
  intro self committed
  have whole := commit_partial_failure .insertion self (by decide)
  have failed : committed.1 = .error (.backend "first") := by decide
  exact ⟨failed, whole.2.1.mp ⟨_, failed⟩, by decide, by decide, by decide⟩

end BufferingBackend

end XousAppSignal.Store
