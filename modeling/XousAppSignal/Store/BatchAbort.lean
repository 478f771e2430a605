import XousAppSignal.Store.Batch

/-! What an abort leaves: of all calls made inside the batch only the whole-dictionary deletes
have reached the inner backend, and the wrapper is again as freshly made.
-/

namespace XousAppSignal.Store

/-- The dictionaries that some calls delete as a whole. -/
def deletedDicts (ops : List KvOp) : List String :=
  ops.filterMap (fun
    | .deleteDict dict => some dict
    | _ => none)

/-- A use of the wrapper: a trait call, or the begin or end of a batch. -/
inductive WrapperCall where
  | call (op : KvOp)
  | beginBatch
  | commit (order : HashOrder)
  | abort

inductive WrapperReply where
  | called (reply : Except Error KvReply)
  | began (reply : Except Error Unit)
  | committed (reply : Except Error Nat)
  | aborted
  | noGuard

namespace BufferingBackend

variable {β : Type} [KvBackend β]

/-- A batch is ended through its guard, which only an open batch has. -/
def use : WrapperCall → BufferingBackend β → WrapperReply × BufferingBackend β
  | .call op, self => (.called (op.perform self).1, (op.perform self).2)
  | .beginBatch, self => (.began (beginBatch self).1, (beginBatch self).2)
  | .commit order, self =>
      if self.isBatching then
        (.committed (commitInternal order self).1, (commitInternal order self).2)
      else (.noGuard, self)
  | .abort, self => if self.isBatching then (.aborted, self.abortInternal) else (.noGuard, self)

end BufferingBackend

theorem deletedDicts_append (first second : List KvOp)
    : deletedDicts (first ++ second) = deletedDicts first ++ deletedDicts second :=
  List.filterMap_append

/-- Removing the dictionaries of two call lists, one list after the other. -/
theorem retain_deletedDicts (first second : List KvOp)
    (map : FiniteMap (String × String) Bytes)
    : FiniteMap.retain (fun slot => slot.1 ∉ deletedDicts second)
        (FiniteMap.retain (fun slot => slot.1 ∉ deletedDicts first) map)
      = FiniteMap.retain (fun slot => slot.1 ∉ deletedDicts (first ++ second)) map := by
  apply AList.ext
  simp only [FiniteMap.retain, List.filter_filter, deletedDicts_append, List.mem_append]
  apply List.filter_congr
  intro entry _
  by_cases here : entry.1.1 ∈ deletedDicts first <;> simp [here]

theorem retain_deletedDicts_nil (map : FiniteMap (String × String) Bytes)
    : FiniteMap.retain (fun slot => slot.1 ∉ deletedDicts []) map = map := by
  apply AList.ext
  simp [FiniteMap.retain, deletedDicts]

namespace InnerBackend

theorem get_map (dict key : String) (self : InnerBackend)
    : (KvBackend.get dict key self).2.map = self.map := by
  simp only [KvBackend.get, get]
  split <;> rfl

theorem listKeys_map (dict : String) (self : InnerBackend)
    : (KvBackend.listKeys dict self).2.map = self.map := by
  simp only [KvBackend.listKeys, listKeys]
  split <;> rfl

/-- A dictionary delete that succeeds removes that dictionary from the map. -/
theorem deleteDict_map {dict : String} {self : InnerBackend}
    (succeeds : (KvBackend.deleteDict dict self).1 = .ok ())
    : (KvBackend.deleteDict dict self).2.map
      = FiniteMap.retain (fun slot => slot.1 ∉ deletedDicts [.deleteDict dict]) self.map := by
  simp only [KvBackend.deleteDict, deleteDict] at succeeds ⊢
  split at succeeds
  · cases succeeds
  · simp [deletedDicts]

end InnerBackend

namespace BufferingBackend

/-- A call inside a batch that succeeds changes the inner map only by deleting its
dictionary, if it is a dictionary delete.
-/
theorem perform_inner_map {self : BufferingBackend InnerBackend} (opened : self.batching = true)
    {op : KvOp} (succeeds : (op.perform self).1.isOk = true)
    : (op.perform self).2.inner.map
      = FiniteMap.retain (fun slot => slot.1 ∉ deletedDicts [op]) self.inner.map := by
  cases op with
  | get dict key =>
      refine Eq.trans ?_ (retain_deletedDicts_nil _).symm
      simp only [KvOp.perform, KvBackend.get, get]
      split
      · rfl
      · exact InnerBackend.get_map dict key self.inner
  | put dict key value =>
      refine Eq.trans ?_ (retain_deletedDicts_nil _).symm
      simp only [KvOp.perform, KvBackend.put, put, isBatching, opened]
  | delete dict key =>
      refine Eq.trans ?_ (retain_deletedDicts_nil _).symm
      simp only [KvOp.perform, KvBackend.delete, delete, isBatching, opened]
  | deleteDict dict =>
      have result : (KvBackend.deleteDict dict self).1
          = (KvBackend.deleteDict dict self.inner).1 := by
        simp only [KvBackend.deleteDict, deleteDict]
        split <;> rfl
      have inner : (KvBackend.deleteDict dict self).2.inner
          = (KvBackend.deleteDict dict self.inner).2 := by
        simp only [KvBackend.deleteDict, deleteDict]
        split <;> rfl
      have succeeded : (KvBackend.deleteDict dict self.inner).1 = .ok () := by
        rw [KvOp.perform, result] at succeeds
        cases outcome : (KvBackend.deleteDict dict self.inner).1 with
        | ok done => rfl
        | error e => simp [outcome, Except.map, Except.isOk, Except.toBool] at succeeds
      rw [KvOp.perform, inner]
      exact InnerBackend.deleteDict_map succeeded
  | listKeys dict =>
      refine Eq.trans ?_ (retain_deletedDicts_nil _).symm
      have forwarded : (forward (KvBackend.listKeys dict) self).2.inner.map = self.inner.map :=
        InnerBackend.listKeys_map dict self.inner
      simp only [KvOp.perform, KvBackend.listKeys, listKeys]
      generalize forward (KvBackend.listKeys dict) self = outcome at forwarded ⊢
      obtain ⟨_ | keys, next⟩ := outcome
      · exact forwarded
      · dsimp only
        split <;> exact forwarded

/-- Only the dictionary deletes of successful calls reach the inner map while the batch is
open, by induction on the calls.
-/
theorem calls_inner_map {self : BufferingBackend InnerBackend} (opened : self.batching = true)
    {ops : List KvOp}
    (succeed : ∀ answer ∈ (Runs.calls KvOp.perform ops self).1, answer.isOk = true)
    : (Runs.calls KvOp.perform ops self).2.inner.map
      = FiniteMap.retain (fun slot => slot.1 ∉ deletedDicts ops) self.inner.map := by
  induction ops generalizing self with
  | nil => exact (retain_deletedDicts_nil _).symm
  | cons op rest ih =>
      rw [Runs.calls_cons] at succeed
      have first := succeed _ List.mem_cons_self
      have still : (op.perform self).2.batching = true := (perform_batching op self).trans opened
      have later := ih still (fun answer member => succeed answer (List.mem_cons_of_mem _ member))
      rw [Runs.calls_cons, later, perform_inner_map opened first,
        retain_deletedDicts [op] rest, List.singleton_append]

/-- An abort discards the batch and nothing else: whatever calls were made since
`beginBatch`, the inner map has lost exactly the dictionaries deleted as a whole, the wrapper
has neither a batch nor buffered entries, and every later use of it, batches included, goes
as on a fresh wrapper around that inner map.
-/
theorem abort_discards_exactly_batch (self : BufferingBackend InnerBackend) (ops : List KvOp)
    (idle : self.batching = false)
    (succeed
      : ∀ answer ∈ (Runs.calls KvOp.perform ops (beginBatch self).2).1, answer.isOk = true)
    : let aborted := (Runs.calls KvOp.perform ops (beginBatch self).2).2.abortInternal
      let left : InnerBackend :=
        { map := FiniteMap.retain (fun slot => slot.1 ∉ deletedDicts ops) self.inner.map
          plan := aborted.inner.plan }
      (beginBatch self).1 = .ok ()
      ∧ aborted.inner.map = left.map
      ∧ aborted.batching = false
      ∧ aborted.buffer = ∅
      ∧ ∀ later, Runs.calls use later aborted = Runs.calls use later (new left) := by
  intro aborted left
  have began : beginBatch self = (.ok (), { self with batching := true }) := by
    simp [beginBatch, idle]
  have opened : (beginBatch self).2.batching = true := by rw [began]
  have map : aborted.inner.map = left.map := by
    refine (calls_inner_map opened succeed).trans ?_
    rw [began]
  refine ⟨by rw [began], map, rfl, rfl, fun later => ?_⟩
  have same : aborted = new left := by
    have inner : aborted.inner = left := by
      rw [← show (⟨aborted.inner.map, aborted.inner.plan⟩ : InnerBackend) = aborted.inner from rfl,
        map]
    rw [← show (⟨aborted.inner, false, ∅⟩ : BufferingBackend InnerBackend) = aborted from rfl,
      inner]
    rfl
  rw [same]

/-- Puts, a tombstone and a dictionary delete on overlapping keys, then the abort. -/
theorem abort_discards_exactly_batch_overlapping
    : let inner : InnerBackend :=
        { map := ((∅ : FiniteMap (String × String) Bytes).insert ("d", "a") [1]).insert
            ("e", "a") [2] }
      let ops : List KvOp :=
        [.put "d" "b" [3], .deleteDict "d", .delete "e" "a", .put "d" "a" [4], .listKeys "d"]
      let aborted := (Runs.calls KvOp.perform ops (beginBatch (new inner)).2).2.abortInternal
      (new inner).batching = false
      ∧ aborted.inner.map.lookup ("d", "a") = none
      ∧ aborted.inner.map.lookup ("e", "a") = some [2]
      ∧ aborted.buffer = ∅ := by
  intro inner ops aborted
  have whole := abort_discards_exactly_batch (new inner) ops rfl (by decide)
  refine ⟨rfl, ?_, ?_, whole.2.2.2.1⟩
  · rw [whole.2.1]
    decide
  · rw [whole.2.1]
    decide

end BufferingBackend

end XousAppSignal.Store
