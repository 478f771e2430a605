import XousAppSignal.Store.Batch

/-! Two callers of one backend while one of them has a batch open. The flag and the buffer
belong to the backend, not to the batch's owner: the other caller's writes land in the
owner's buffer, and its reads see the owner's.
-/

namespace XousAppSignal.Store

/-- What a call leaves in a slot, if it writes there. -/
def KvOp.effect (slot : String × String) : KvOp → Option (Option Bytes)
  | .put dict key value => if slot = (dict, key) then some (some value) else none
  | .delete dict key => if slot = (dict, key) then some none else none
  | .deleteDict dict => if slot.1 = dict then some none else none
  | .get _ _ => none
  | .listKeys _ => none

/-- The reply to a read that a caller expects who knows this map. -/
def KvOp.Sees (view : View) (reply : Except Error KvReply) : KvOp → Prop
  | .get dict key => reply = .ok (.value (view (dict, key)))
  | .listKeys dict =>
      ∃ keys, reply = .ok (.keys keys) ∧ ∀ key, key ∈ keys ↔ (view (dict, key)).isSome = true
  | _ => True

inductive Caller where
  | owner
  | other
  deriving DecidableEq

/-- What the calls of a batch amount to: the pre-batch values with the other caller's writes,
the pre-batch values less the dictionaries deleted since, and the last write to each slot.
-/
structure Ledger where
  own : View
  stored : View
  written : String × String → Option (Caller × Option Bytes)

namespace Ledger

def start (before : View) : Ledger := ⟨before, before, fun _ => none⟩

def note (ledger : Ledger) (call : Caller × KvOp) : Ledger where
  own slot :=
    match call.1 with
    | .owner => ledger.own slot
    | .other => (call.2.effect slot).getD (ledger.own slot)
  stored slot :=
    match call.2 with
    | .deleteDict dict => if slot.1 = dict then none else ledger.stored slot
    | _ => ledger.stored slot
  written slot :=
    ((call.2.effect slot).map (fun value => (call.1, value))).or (ledger.written slot)

/-- The ledger of the calls so far. -/
def after (before : View) (calls : List (Caller × KvOp)) : Ledger :=
  Runs.run note (start before) calls

/-- The owner has left nothing that would spoil this read of the other caller: where it wrote
last, it wrote what the other caller expects anyway.
-/
def Spares (ledger : Ledger) : KvOp → Prop
  | .get dict key =>
      ∀ value, ledger.written (dict, key) = some (.owner, value)
        → value = ledger.own (dict, key)
  | .listKeys dict =>
      ∀ key value, ledger.written (dict, key) = some (.owner, value)
        → value.isSome = (ledger.own (dict, key)).isSome
  | _ => True

end Ledger

/-- How the owner ends its batch. -/
inductive BatchEnd where
  | commit (order : HashOrder)
  | abort

variable {β : Type} [KvBackend β]

def BatchEnd.perform (self : BufferingBackend β) : BatchEnd → BufferingBackend β
  | .commit order => (BufferingBackend.commitInternal order self).2
  | .abort => self.abortInternal

/-- The backend after some calls in a freshly opened batch. -/
def inBatch (inner : β) (calls : List (Caller × KvOp)) : BufferingBackend β :=
  Runs.run (fun self call => (call.2.perform self).2)
    (BufferingBackend.beginBatch (BufferingBackend.new inner)).2 calls

/-- The other caller does not notice the batch: it reads the pre-batch values and its own
writes, and what it wrote last holds when the batch is over.
-/
structure Isolated (contract : KvContract β) (inner : β) (calls : List (Caller × KvOp))
    (ending : BatchEnd)
    : Prop where
  reads
    : ∀ done op rest, calls = done ++ (.other, op) :: rest
        → op.Sees (Ledger.after (contract.view inner) done).own
            (op.perform (inBatch inner done)).1
  lasts
    : ∀ slot value,
        (Ledger.after (contract.view inner) calls).written slot = some (.other, value)
        → contract.view (ending.perform (inBatch inner calls)).inner slot = value

/-- The owner spoils no read of the other caller, and an abort throws no write of it away. -/
structure Undisturbed (before : View) (calls : List (Caller × KvOp)) (ending : BatchEnd)
    : Prop where
  reads
    : ∀ done op rest, calls = done ++ (.other, op) :: rest
        → (Ledger.after before done).Spares op
  lasts
    : ending = .abort
        → ∀ slot value, (Ledger.after before calls).written slot = some (.other, value)
        → (Ledger.after before calls).stored slot = value

/-- A call on a working backend changes the map by its effect. -/
theorem KvContract.perform_view (contract : KvContract β) (op : KvOp) {backend : β}
    (ready : contract.Ready backend)
    : contract.Ready (op.perform backend).2
      ∧ ∀ slot, contract.view (op.perform backend).2 slot
          = (op.effect slot).getD (contract.view backend slot) := by
  cases op with
  | get dict key =>
      have call := contract.get ready dict key
      exact ⟨call.ready, fun slot => congrFun call.view slot⟩
  | put dict key value =>
      have call := contract.put ready dict key value
      refine ⟨call.ready, fun slot => (congrFun call.view slot).trans ?_⟩
      rw [Function.update_apply, KvOp.effect]
      split <;> rfl
  | delete dict key =>
      have call := contract.delete ready dict key
      refine ⟨call.ready, fun slot => (congrFun call.view slot).trans ?_⟩
      rw [Function.update_apply, KvOp.effect]
      split <;> rfl
  | deleteDict dict =>
      have call := contract.deleteDict ready dict
      refine ⟨call.ready, fun slot => (congrFun call.view slot).trans ?_⟩
      rw [View.clearDict, KvOp.effect]
      split <;> rfl
  | listKeys dict =>
      obtain ⟨keys, call, -, -⟩ := contract.listKeys ready dict
      exact ⟨call.ready, fun slot => congrFun call.view slot⟩

/-- A read on a working backend is answered from its map. -/
theorem KvContract.sees_iff (contract : KvContract β) (op : KvOp) {backend : β}
    (ready : contract.Ready backend) (view : View)
    : op.Sees view (op.perform backend).1
      ↔ match op with
        | .get dict key => contract.view backend (dict, key) = view (dict, key)
        | .listKeys dict =>
            ∀ key, (contract.view backend (dict, key)).isSome = (view (dict, key)).isSome
        | _ => True := by
  cases op with
  | get dict key =>
      have call := contract.get ready dict key
      simp [KvOp.Sees, KvOp.perform, call.result, Except.map]
  | listKeys dict =>
      obtain ⟨keys, call, -, members⟩ := contract.listKeys ready dict
      simp only [KvOp.Sees, KvOp.perform, call.result, Except.map]
      constructor
      · rintro ⟨keys', same, expected⟩ key
        cases same
        exact Bool.eq_iff_iff.mpr ((members key).symm.trans (expected key))
      · intro same
        exact ⟨keys, rfl, fun key => by rw [members, same]⟩
  | put dict key value => exact Iff.rfl
  | delete dict key => exact Iff.rfl
  | deleteDict dict => exact Iff.rfl

/-- The open batch shows the last write to each slot, whoever made it, over the pre-batch
values; nothing but whole-dictionary deletes has reached the inner backend.
-/
structure Ledger.Records (contract : KvContract β) (before : View) (ledger : Ledger)
    (backend : BufferingBackend β)
    : Prop where
  ready : contract.Ready backend.inner
  opened : backend.batching = true
  shown
    : ∀ slot, (BufferingBackend.contract contract).view backend slot
        = ((ledger.written slot).map Prod.snd).getD (before slot)
  stored : contract.view backend.inner = ledger.stored
  unwritten : ∀ slot, ledger.written slot = none → ledger.own slot = before slot
  mine : ∀ slot value, ledger.written slot = some (.other, value) → ledger.own slot = value

/-- In an open batch only a whole-dictionary delete changes the inner map. -/
theorem stored_perform {contract : KvContract β} {self : BufferingBackend β}
    (ready : contract.Ready self.inner) (opened : self.batching = true) (op : KvOp)
    : contract.view (op.perform self).2.inner
      = match op with
        | .deleteDict dict => (contract.view self.inner).clearDict dict
        | _ => contract.view self.inner := by
  cases op with
  | get dict key =>
      simp only [KvOp.perform, KvBackend.get, BufferingBackend.get, BufferingBackend.isBatching]
      split
      · rfl
      · exact (contract.get ready dict key).view
  | put dict key value =>
      simp only [KvOp.perform, KvBackend.put, BufferingBackend.put, BufferingBackend.isBatching,
        opened]
  | delete dict key =>
      simp only [KvOp.perform, KvBackend.delete, BufferingBackend.delete,
        BufferingBackend.isBatching, opened]
  | deleteDict dict =>
      simp only [KvOp.perform, KvBackend.deleteDict, BufferingBackend.deleteDict,
        BufferingBackend.isBatching, opened, BufferingBackend.forward]
      exact (contract.deleteDict ready dict).view
  | listKeys dict =>
      obtain ⟨keys, call, -, -⟩ := contract.listKeys ready dict
      simp only [KvOp.perform, KvBackend.listKeys, BufferingBackend.listKeys,
        BufferingBackend.isBatching, opened, BufferingBackend.forward, call.result]
      exact call.view

theorem Ledger.Records.perform {contract : KvContract β} {before : View} {ledger : Ledger}
    {self : BufferingBackend β} (records : Records contract before ledger self)
    (call : Caller × KvOp)
    : Records contract before (ledger.note call) (call.2.perform self).2 := by
  obtain ⟨caller, op⟩ := call
  obtain ⟨ready, shown⟩ := (BufferingBackend.contract contract).perform_view op records.ready
  refine ⟨ready, ?_, fun slot => ?_, ?_, fun slot untouched => ?_, fun slot value last => ?_⟩
  · rw [BufferingBackend.perform_batching]
    exact records.opened
  · rw [shown, records.shown]
    cases effect : op.effect slot <;> simp [note, effect]
  · rw [stored_perform records.ready records.opened, records.stored]
    cases op <;> rfl
  · cases effect : op.effect slot with
    | some value => simp [note, effect] at untouched
    | none =>
        simp only [note, effect, Option.map_none, Option.none_or] at untouched
        have same := records.unwritten slot untouched
        cases caller <;> simpa [note, effect] using same
  · cases effect : op.effect slot with
    | some value' =>
        simp only [note, effect, Option.map_some, Option.some_or, Option.some.injEq,
          Prod.mk.injEq] at last
        obtain ⟨rfl, rfl⟩ := last
        simp [note, effect]
    | none =>
        simp only [note, effect, Option.map_none, Option.none_or] at last
        have same := records.mine slot value last
        cases caller <;> simpa [note, effect] using same

/-- A fresh ledger records a freshly opened batch. -/
theorem records_start (contract : KvContract β) {inner : β} (ready : contract.Ready inner)
    : (Ledger.start (contract.view inner)).Records contract (contract.view inner)
        (BufferingBackend.beginBatch (BufferingBackend.new inner)).2 := by
  refine ⟨ready, rfl, fun slot => ?_, rfl, fun _ _ => rfl, fun _ _ last => by cases last⟩
  simp [BufferingBackend.contract, BufferingBackend.view, Ledger.start,
    BufferingBackend.beginBatch, BufferingBackend.new, BufferingBackend.overlay_empty]

/-- The ledger records the batch after any calls. -/
theorem records_after (contract : KvContract β) {inner : β} (ready : contract.Ready inner)
    (calls : List (Caller × KvOp))
    : (Ledger.after (contract.view inner) calls).Records contract (contract.view inner)
        (inBatch inner calls) :=
  Runs.run_related (fun call _ _ _ records => records.perform call)
    (records_start contract ready)

/-- The batch shows the other caller's own view except where the owner wrote last. -/
theorem Ledger.Records.shown_own {contract : KvContract β} {before : View} {ledger : Ledger}
    {self : BufferingBackend β} (records : Records contract before ledger self)
    (slot : String × String)
    : (∃ value, ledger.written slot = some (.owner, value)
          ∧ (BufferingBackend.contract contract).view self slot = value)
      ∨ (∀ value, ledger.written slot ≠ some (.owner, value))
          ∧ (BufferingBackend.contract contract).view self slot = ledger.own slot := by
  rw [records.shown]
  cases last : ledger.written slot with
  | none => exact .inr ⟨by simp, (records.unwritten slot last).symm⟩
  | some write =>
      obtain ⟨caller, value⟩ := write
      cases caller with
      | owner => exact .inl ⟨value, rfl, rfl⟩
      | other => exact .inr ⟨by simp, (records.mine slot value last).symm⟩

/-- A read of the other caller is answered as it expects exactly if the owner spares it. -/
theorem Ledger.Records.sees_iff {contract : KvContract β} {before : View} {ledger : Ledger}
    {self : BufferingBackend β} (records : Records contract before ledger self) (op : KvOp)
    : op.Sees ledger.own (op.perform self).1 ↔ ledger.Spares op := by
  rw [(BufferingBackend.contract contract).sees_iff op records.ready]
  cases op with
  | get dict key =>
      simp only [Spares]
      rcases records.shown_own (dict, key) with ⟨value, last, shown⟩ | ⟨other, shown⟩
      · rw [shown, last]
        refine ⟨fun same _ here => ?_, fun same => same value rfl⟩
        cases here
        exact same
      · exact ⟨fun _ value last => absurd last (other value), fun _ => shown⟩
  | listKeys dict =>
      simp only [Spares]
      refine ⟨fun same key value last => ?_, fun spares key => ?_⟩
      · rcases records.shown_own (dict, key) with ⟨value', last', shown⟩ | ⟨other, -⟩
        · rw [last] at last'
          cases last'
          rw [← same key, shown]
        · exact absurd last (other value)
      · rcases records.shown_own (dict, key) with ⟨value, last, shown⟩ | ⟨-, shown⟩
        · rw [shown]
          exact spares key value last
        · rw [shown]
  | put dict key value => exact Iff.rfl
  | delete dict key => exact Iff.rfl
  | deleteDict dict => exact Iff.rfl

/-- For every interleaving of the two callers' calls in a batch, and either end of it: the
other caller does not notice the batch exactly if the owner spoils none of its reads and no
abort throws a write of it away.
-/
theorem batch_isolation_iff (contract : KvContract β) (inner : β)
    (ready : contract.Ready inner) (calls : List (Caller × KvOp)) (ending : BatchEnd)
    : Isolated contract inner calls ending
      ↔ Undisturbed (contract.view inner) calls ending := by
  have records := records_after contract ready calls
  have reads (done : List (Caller × KvOp)) (op : KvOp)
      : op.Sees (Ledger.after (contract.view inner) done).own
          (op.perform (inBatch inner done)).1
        ↔ (Ledger.after (contract.view inner) done).Spares op :=
    (records_after contract ready done).sees_iff op
  have committed (order : HashOrder)
      : contract.view (BatchEnd.perform (inBatch inner calls) (.commit order)).inner
        = (BufferingBackend.contract contract).view (inBatch inner calls) := by
    obtain ⟨-, -, view, -, -⟩ :=
      BufferingBackend.commitInternal_returns contract order records.ready
    rw [BatchEnd.perform, view]
    simp [BufferingBackend.contract, BufferingBackend.view, records.opened]
  constructor
  · intro isolated
    refine ⟨fun done op rest split => (reads done op).mp (isolated.reads done op rest split), ?_⟩
    rintro rfl slot value last
    rw [← isolated.lasts slot value last, ← records.stored]
    rfl
  · intro undisturbed
    refine ⟨fun done op rest split =>
      (reads done op).mpr (undisturbed.reads done op rest split), fun slot value last => ?_⟩
    cases ending with
    | commit order => rw [committed, records.shown, last, Option.map_some, Option.getD_some]
    | abort =>
        rw [← undisturbed.lasts rfl slot value last, ← records.stored]
        rfl

/-- While a batch is open the other caller reads a key the owner has only buffered, and
stores one of its own; both calls return `Ok`, and the abort discards the stored value.
-/
theorem other_caller_disturbed
    : let inner : InnerBackend := { map := ∅ }
      let calls : List (Caller × KvOp) := [(.owner, .put "d" "a" [1]), (.other, .put "d" "b" [2])]
      let batch := inBatch inner calls
      (KvOp.perform (.put "d" "b" [2]) (inBatch inner [(.owner, .put "d" "a" [1])])).1
          = .ok .done
      ∧ (KvOp.perform (.get "d" "a") batch).1 = .ok (.value (some [1]))
      ∧ (KvOp.perform (.get "d" "b") (BatchEnd.perform batch .abort)).1 = .ok (.value none) := by
  refine ⟨rfl, rfl, rfl⟩

/-- The owner works on keys the other caller does not read, and the batch is committed. -/
theorem batch_isolation_committed
    : let inner : InnerBackend := { map := ∅ }
      let calls : List (Caller × KvOp) :=
        [(.owner, .put "d" "a" [1]), (.other, .put "d" "b" [2]), (.other, .get "d" "b")]
      Isolated InnerBackend.contract inner calls (.commit .insertion) := by
  intro inner calls
  refine (batch_isolation_iff InnerBackend.contract inner FaultPlan.onlyBulk_default calls
    (.commit .insertion)).mpr ⟨?_, fun aborted => by cases aborted⟩
  intro done op rest split
  simp only [calls] at split
  match done with
  | [] => cases split
  | [first] =>
      cases split
      trivial
  | [first, second] =>
      cases split
      intro value last
      cases last
  | first :: second :: third :: done =>
      have lengths := congrArg List.length split
      simp at lengths

end XousAppSignal.Store
