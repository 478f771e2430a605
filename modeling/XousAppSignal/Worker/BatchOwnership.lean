import XousAppSignal.Store.FreshStore
import XousAppSignal.Store.OpenBatch
import XousAppSignal.Worker.Logout
import XousAppSignal.Worker.ManagerLifetime

/-! Who holds the write batch. Any number of manager tasks share one store, and a batch spans
several awaits of the task that began it: the others go on meanwhile. Still the batch is open
exactly while one task holds its guard, and only that task ends it.
-/

namespace XousAppSignal.Worker

open Store
open StoreOp (Buffered)
open BufferingBackend (Frozen)

variable {ρ : Type} {platform : Platform} {format : RecordFormat ρ}

/-- A task at this await point holds the guard of an open batch. -/
def Control.holdsGuard : Control → Bool
  | .sending _ _ | .sleeping _ _ | .failing => true
  | _ => false

def Manager.holdsGuard (manager : Manager) : Bool := manager.task.control.holdsGuard

def World.isBatching (world : World ρ) : Bool := world.store.backend.batching

/-- The task spawned at this place holds the guard. -/
def World.Holds (world : World ρ) (index : Nat) : Prop :=
  ∃ manager, world.managers[index]? = some manager ∧ manager.holdsGuard = true

-----------------------------------------------------------------------------------------
-- The guard of one task
-----------------------------------------------------------------------------------------

namespace Task

/-- Where the task goes after it is done with an op, it holds no guard. -/
theorem runManagerOp_free (op : WorkerOp) (task : Task)
    : (task.runManagerOp op).control.holdsGuard = false := by
  cases op <;> rfl

theorem reportFirstFailure_free (reason : String) (task : Task)
    : (task.reportFirstFailure reason).control.holdsGuard = false := by
  unfold reportFirstFailure
  split <;> rfl

theorem openFailed_free (err : String) (closeCode : Option Nat) (task : Task)
    : (task.openFailed err closeCode).control.holdsGuard = false := by
  unfold openFailed
  dsimp only
  split
  · rfl
  · split
    · split
      · rfl
      · exact reportFirstFailure_free _ _
    · exact reportFirstFailure_free _ _

theorem afterPump_free (exit : PumpExit) (task : Task)
    : (task.afterPump exit).control.holdsGuard = false := by
  cases exit with
  | op op => exact runManagerOp_free op task
  | reopen reason => exact reportFirstFailure_free _ _
  | shutdown => rfl

theorem nextFetch_free (drained : List (Uuid × Bytes)) (exit : PumpExit) (task : Task)
    : (task.nextFetch drained exit).control.holdsGuard = false := by
  cases drained with
  | nil => exact afterPump_free exit task
  | cons first rest =>
      simp only [nextFetch]
      split <;> rfl

theorem profileFetched_free (aci : Uuid) (rest : List (Uuid × Bytes)) (exit : PumpExit)
    (result : Except String (Option ProfileName)) (task : Task)
    : (task.profileFetched aci rest exit result).control.holdsGuard = false := by
  cases result with
  | error reason => rfl
  | ok name =>
      simp only [profileFetched]
      split <;> rfl

/-- A step that neither begins nor ends an attempt: no guard before, none after. -/
structure Idle (task : Task) (input : TaskInput) (after : Task) : Prop where
  before : task.control.holdsGuard = false
  after : after.control.holdsGuard = false
  begins : ∀ result, input ≠ .begun result

/-- What a step means for the guard, by the await it ends. -/
inductive GuardStep (platform : Platform) (task : Task) : TaskInput → Task → Prop where
  | idle {input : TaskInput} {after : Task} (idle : Idle task input after)
      : GuardStep platform task input after
  | refused (send : InnerSend) (attempt : Nat) (e : Error) {after : Task}
      (control : task.control = .attempting send attempt)
      (free : after.control.holdsGuard = false)
      : GuardStep platform task (.begun (.error e)) after
  | taken (send : InnerSend) (attempt : Nat)
      (control : task.control = .attempting send attempt)
      : GuardStep platform task (.begun (.ok ())) { task with control := .sending send attempt }
  | returned (send : InnerSend) (attempt : Nat) (outcome : SendOutcome) (now : Nat)
      (flushOrder : Store.FlushOrder) (commitOrder : HashOrder)
      (control : task.control = .sending send attempt)
      : GuardStep platform task (.sendReturned outcome now flushOrder commitOrder)
          (task.attemptReturned platform send attempt outcome now)
  | slept (send : InnerSend) (attempt : Nat) (control : task.control = .sleeping send attempt)
      : GuardStep platform task .slept { task with control := .attempting send (attempt + 1) }
  | reported (control : task.control = .failing)
      : GuardStep platform task .proceed { task with control := .head }

/-- Every step of the task is one of these. -/
theorem Advanced.guardStep {task after : Task} {input : TaskInput}
    (advanced : Advanced platform task input after)
    : GuardStep platform task input after := by
  cases advanced with
  | refused send attempt e control => exact .refused send attempt e control rfl
  | begun send attempt control => exact .taken send attempt control
  | attemptReturned send attempt outcome now flushOrder commitOrder control =>
      exact .returned send attempt outcome now flushOrder commitOrder control
  | retried send attempt control => exact .slept send attempt control
  | failed control => exact .reported control
  | woke now order control =>
      refine .idle ⟨by rw [control]; rfl, ?_, nofun⟩
      unfold outerHead
      split
      · rfl
      · split <;> rfl
  | parkedOp op rest control =>
      refine .idle ⟨by rw [control]; rfl, ?_, nofun⟩
      cases op <;> rfl
  | backoffElapsed control =>
      refine .idle ⟨by rw [control]; rfl, ?_, nofun⟩
      unfold Task.backoffElapsed
      split <;> rfl
  | streamOpened closeCode control =>
      refine .idle ⟨by rw [control]; rfl, ?_, nofun⟩
      unfold Task.streamOpened
      split <;> rfl
  | openFailed err closeCode control =>
      exact .idle ⟨by rw [control]; rfl, openFailed_free err closeCode task, nofun⟩
  | pumpedOp op rest control =>
      refine .idle ⟨by rw [control]; rfl, ?_, nofun⟩
      cases op <;> rfl
  | nextFetch drained exit control =>
      exact .idle ⟨by rw [control]; rfl, nextFetch_free drained exit task, nofun⟩
  | profileFetched aci rest exit result control =>
      exact .idle ⟨by rw [control]; rfl, profileFetched_free aci rest exit result task, nofun⟩
  | parkedTick control | parkedClosed control | swept now order control
  | itemReceived item contact order control | streamEnded control | pumpedClosed control
  | pumpedTick control | unknownRecipient send contacts reason control
  | knownRecipient send contacts uuid control | synced control | syncFailed reason control
  | usernameResolved input result control | left control =>
      exact .idle ⟨by rw [control]; rfl, rfl, nofun⟩

/-- A step is taken once all events of the task were. -/
theorem step_guard {task after : Task} {input : TaskInput}
    (stepped : task.step platform input = some after)
    : task.outbox = [] ∧ GuardStep platform task input after := by
  unfold step at stepped
  split at stepped
  · next taken => exact ⟨List.isEmpty_iff.mp taken, (advance_cases stepped).guardStep⟩
  · cases stepped

/-- While the task holds a guard, no event of it ends the task when the UI is gone. -/
def Unbound (task : Task) : Prop :=
  task.control.holdsGuard = true → ∀ emit ∈ task.outbox, emit.vital = false

theorem deliver_guard {task after : Task} {isOpen : Bool} {event : Option Event}
    (unbound : task.Unbound) (delivered : task.deliver isOpen = some (event, after))
    : after.control.holdsGuard = task.control.holdsGuard ∧ after.Unbound := by
  unfold deliver at delivered
  split at delivered
  · cases delivered
  · next first rest queued =>
      have later (holds : task.control.holdsGuard = true) : ∀ emit ∈ rest, emit.vital = false :=
        fun emit listed => unbound holds emit (by rw [queued]; exact List.mem_cons_of_mem _ listed)
      split at delivered
      · cases delivered
        exact ⟨rfl, later⟩
      · split at delivered
        · next vital =>
            cases delivered
            have free : task.control.holdsGuard = false := by
              by_contra holds
              have bound := unbound (by simpa using holds) first (by simp [queued])
              exact Bool.noConfusion (bound.symm.trans vital)
            exact ⟨free.symm, nofun⟩
        · cases delivered
          exact ⟨rfl, later⟩

theorem GuardStep.unbound {task after : Task} {input : TaskInput}
    (step : GuardStep platform task input after) (taken : task.outbox = [])
    : after.Unbound := by
  intro holds
  cases step with
  | idle idle => exact absurd holds (by simp [idle.after])
  | refused send attempt e control free => exact absurd holds (by simp [free])
  | taken send attempt control | slept send attempt control | reported control =>
      change ∀ emit ∈ task.outbox, emit.vital = false
      simp [taken]
  | returned send attempt outcome now flushOrder commitOrder control =>
      unfold attemptReturned at holds ⊢
      split at holds
      · cases holds
      · simp [*]
      · cases holds
      · simp [*, emit]

end Task

-----------------------------------------------------------------------------------------
-- The guard and the open batch
-----------------------------------------------------------------------------------------

section Batch

variable {store : Buffered ρ}

theorem beginSendBatch_batching (store : Buffered ρ)
    : store.beginSendBatch.2.backend.batching = true := by
  cases closed : store.backend.batching <;>
    simp [PddbStore.beginSendBatch, PddbStore.onBackend, BufferingBackend.beginBatch, closed]

/-- A batch can be begun exactly while none is open. -/
theorem beginSendBatch_isOk (store : Buffered ρ)
    : store.beginSendBatch.1.isOk = !store.backend.batching := by
  cases closed : store.backend.batching <;>
    simp [PddbStore.beginSendBatch, PddbStore.onBackend, BufferingBackend.beginBatch, closed,
      Except.isOk, Except.toBool]

theorem settleBatch_batching (flushOrder : FlushOrder) (commitOrder : HashOrder)
    (store : Buffered ρ)
    : (settleBatch format flushOrder commitOrder store).backend.batching = false := by
  simp only [settleBatch, PddbStore.commitBatch, PddbStore.onBackend,
    BufferingBackend.commitInternal]
  split <;> rfl

theorem flushSessions_batching (order : FlushOrder) (store : Buffered ρ)
    : (store.flushSessions format order).2.backend.batching = store.backend.batching :=
  (SessionOp.perform_within format store (.flushSessions order)).flag

/-- A task that neither begins nor ends an attempt leaves the flag alone. -/
theorem TaskInput.onStore_idle {task after : Task} {input : TaskInput}
    (idle : task.Idle input after) (store : Buffered ρ)
    : (input.onStore platform format task.control store).backend.batching
      = store.backend.batching := by
  have before := idle.before
  unfold TaskInput.onStore
  split
  · exact absurd rfl (idle.begins _)
  · split
    · next control => simp [control, Control.holdsGuard] at before
    · rfl
  · split
    · next control => simp [control, Control.holdsGuard] at before
    · rfl
  · split
    · next control => simp [control, Control.holdsGuard] at before
    · rfl
  · exact flushSessions_batching _ store
  · rfl

/-- A step of a task takes a guard and opens a batch, or gives one back and closes it. -/
theorem Task.GuardStep.balance {task after : Task} {input : TaskInput}
    (step : Task.GuardStep platform task input after) (agrees : input.agrees store = true)
    (own : task.control.holdsGuard = true → store.backend.batching = true)
    : after.control.holdsGuard.toNat + store.backend.batching.toNat
      = task.control.holdsGuard.toNat
        + (input.onStore platform format task.control store).backend.batching.toNat := by
  cases step with
  | idle idle => rw [idle.before, idle.after, TaskInput.onStore_idle idle store]
  | refused send attempt e control free =>
      have opened : store.backend.batching = true := by
        have asked := beginSendBatch_isOk store
        rw [of_decide_eq_true agrees] at asked
        simpa [Except.isOk, Except.toBool] using asked
      rw [free, control, TaskInput.onStore, beginSendBatch_batching, opened]
      rfl
  | taken send attempt control =>
      have closed : store.backend.batching = false := by
        have asked := beginSendBatch_isOk store
        rw [show store.beginSendBatch.1.isOk = true from agrees] at asked
        simpa using asked.symm
      rw [control, TaskInput.onStore, beginSendBatch_batching, closed]
      rfl
  | returned send attempt outcome now flushOrder commitOrder control =>
      have opened : store.backend.batching = true := own (by rw [control]; rfl)
      simp only [control, TaskInput.onStore, Task.attemptReturned]
      cases judge platform attempt outcome with
      | complete =>
          rw [opened, settleBatch_batching]
          rfl
      | retry =>
          rw [opened]
          rfl
      | defer =>
          rw [opened]
          rfl
      | fail reason =>
          rw [opened]
          rfl
  | slept send attempt control =>
      have opened : store.backend.batching = true := own (by rw [control]; rfl)
      rw [control, opened]
      rfl
  | reported control =>
      have opened : store.backend.batching = true := own (by rw [control]; rfl)
      rw [control, opened]
      rfl

end Batch

/-- A call of the library keeps the flag. -/
theorem traitCall_batching (format : RecordFormat ρ) (store : Buffered ρ) (call : TraitCall ρ)
    : (call.perform format store).backend.batching = store.backend.batching := by
  cases call with
  | session op trait => exact (op.perform_within format store).flag
  | kv op other => exact BufferingBackend.perform_batching op store.backend

-----------------------------------------------------------------------------------------
-- One owner at a time
-----------------------------------------------------------------------------------------

namespace World

/-- The number of guards is the state of the flag, and no guard is lost with its task. -/
structure Owned (world : World ρ) : Prop where
  guards : world.managers.countP Manager.holdsGuard = world.isBatching.toNat
  unbound : ∀ manager ∈ world.managers, manager.task.Unbound

theorem owned_start (inner : InnerBackend) : Owned (.start inner : World ρ) :=
  ⟨rfl, by simp [World.start]⟩

/-- Only an open batch has a guard. -/
theorem Owned.isBatching {world : World ρ} (owned : world.Owned) {index : Nat}
    (holds : world.Holds index)
    : world.isBatching = true := by
  obtain ⟨manager, found, guard⟩ := holds
  have counted : 0 < world.managers.countP Manager.holdsGuard :=
    List.countP_pos_iff.mpr ⟨manager, List.mem_of_getElem? found, guard⟩
  rw [owned.guards] at counted
  exact Bool.toNat_eq_one.mp (by have := Bool.toNat_le world.isBatching; omega)

/-- The tasks are as they were, but for their op channels, and new ones are at the start. -/
inductive Kept (world after : World ρ) : Prop where
  | same (managers : after.managers = world.managers)
  | accepted (index : Nat) (op : WorkerOp)
      (managers : after.managers = world.managers.modify index (Manager.accept op))
  | dropped (managers : after.managers = world.dropOps.managers)
  | spawned (managers : after.managers = world.dropOps.managers ++ [({} : Manager)])

theorem Handled.kept {world after : World ρ} {cmd : Cmd} (handled : Handled world cmd after)
    : Kept world after := by
  cases handled with
  | loggedOut => exact .dropped rfl
  | _ => exact .same rfl

theorem linkingCmd_kept (control : Bool → DispatcherControl) (cancelled : Bool) (cmd : Cmd)
    (world : World ρ)
    : Kept world (world.linkingCmd control cancelled cmd) := by
  unfold linkingCmd
  split <;> exact .same rfl

/-- The dispatcher reaches into no task that runs. -/
theorem Dispatched.kept {world after : World ρ} {input : DispatcherInput}
    (dispatched : Dispatched world input after)
    : Kept world after := by
  cases dispatched with
  | commandWhileLinking cancelled cmd control => exact linkingCmd_kept _ _ _ world
  | commandWhileEnding cancelled linked cmd control => exact linkingCmd_kept _ _ _ world
  | registrationLoaded attempts result control =>
      rcases registrationLoaded_cases attempts result world with
        ⟨info, moved⟩ | ⟨control, -, moved⟩ <;> rw [moved] <;> exact .same rfl
  | adopted info control taken => exact .spawned rfl
  | command cmd control => exact (handleCmd_cases cmd world).kept
  | accountInfoLoaded result control taken =>
      cases result with
      | error message => exact .same rfl
      | ok info =>
          simp only [World.accountInfoLoaded]
          split
          · exact .spawned rfl
          · exact .same rfl
  | forwarded op after control taken forwarded =>
      rcases forward_cases forwarded with rfl | ⟨index, rfl⟩
      · exact .same rfl
      · exact .accepted index op rfl
  | linkEnded cancelled result control => cases result <;> exact .same rfl
  | linkReturned cancelled linked control taken =>
      cases linked with
      | none => exact .same rfl
      | some info => exact .spawned rfl
  | _ => exact .same rfl

/-- Dropping the op channel changes no guard. -/
theorem dropOps_guards (world : World ρ)
    : world.dropOps.managers.countP Manager.holdsGuard
      = world.managers.countP Manager.holdsGuard := by
  unfold dropOps
  split
  · rfl
  · apply Counting.countP_modify
    exact fun _ => rfl

theorem dropOps_unbound {world : World ρ}
    (unbound : ∀ manager ∈ world.managers, manager.task.Unbound)
    : ∀ manager ∈ world.dropOps.managers, manager.task.Unbound := by
  unfold dropOps
  split
  · exact unbound
  · refine Counting.forall_mem_modify ?_ unbound _
    exact fun _ holds => holds

theorem Kept.owned {world after : World ρ} (kept : Kept world after)
    (flag : after.isBatching = world.isBatching) (owned : world.Owned)
    : after.Owned := by
  obtain ⟨guards, unbound⟩ := owned
  cases kept with
  | same managers => exact ⟨by rw [managers, guards, flag], by rwa [managers]⟩
  | accepted index op managers =>
      refine ⟨?_, ?_⟩
      · rw [managers, flag, ← guards]
        apply Counting.countP_modify
        exact fun _ => rfl
      · rw [managers]
        refine Counting.forall_mem_modify ?_ unbound index
        exact fun _ holds => holds
  | dropped managers =>
      exact ⟨by rw [managers, dropOps_guards, guards, flag],
        by rw [managers]; exact dropOps_unbound unbound⟩
  | spawned managers =>
      refine ⟨?_, ?_⟩
      · rw [managers, List.countP_append, dropOps_guards, guards, flag]
        rfl
      · rw [managers]
        refine List.forall_mem_append.mpr ⟨dropOps_unbound unbound, ?_⟩
        simp [Task.Unbound, Control.holdsGuard]

/-- No step of the dispatcher opens or closes a batch: it drops dictionaries and asks. -/
theorem Dispatched.isBatching {world after : World ρ} {input : DispatcherInput}
    (dispatched : Dispatched world input after)
    : after.isBatching = world.isBatching := by
  unfold World.isBatching
  rcases dispatched.store with store | store | store
  · rw [store]
  · rw [store, (PddbStore.clear_backend _).1]
    exact (deleteDicts_within (fun _ _ => trivial) _).flag.trans
      (BufferingBackend.deleteDict_flag dictState world.store.backend)
  · rw [store]
    exact (@listsAnyKey_within (fun _ => True) probedDicts world.store.backend).flag

/-- One step of the worker. -/
theorem Owned.step {world after : World ρ} {input : WorldInput ρ} (owned : world.Owned)
    (stepped : world.step platform format input = some after)
    : after.Owned := by
  cases step_cases stepped with
  | dispatched dispatched => exact dispatched.kept.owned dispatched.isBatching owned
  | delivered first rest | dropped first rest | hungUp first rest | uiGone =>
      exact ⟨owned.guards, owned.unbound⟩
  | library call =>
      refine ⟨owned.guards.trans (congrArg Bool.toNat (Eq.symm ?_)), owned.unbound⟩
      exact traitCall_batching format world.store call
  | advanced index input manager task found agrees moved =>
      obtain ⟨taken, step⟩ := Task.step_guard moved
      refine ⟨?_, fun other member => ?_⟩
      · have balance := @Task.GuardStep.balance _ _ format _ _ _ _ step agrees
          (fun holds => owned.isBatching ⟨manager, found, holds⟩)
        have counted := @Counting.countP_set_add _ Manager.holdsGuard _ _ _ found
          { manager with task }
        have guards := owned.guards
        simp only [Manager.holdsGuard, World.isBatching] at counted guards balance ⊢
        omega
      · rcases List.mem_or_eq_of_mem_set member with old | rfl
        · exact owned.unbound other old
        · exact step.unbound taken
  | managerDelivered index manager event task found taken =>
      obtain ⟨same, unbound⟩ := Task.deliver_guard
        (owned.unbound manager (List.mem_of_getElem? found)) taken
      refine ⟨?_, fun other member => ?_⟩
      · have counted := @Counting.countP_set_add _ Manager.holdsGuard _ _ _ found
          { manager with task, sent := manager.sent ++ event.toList }
        have guards := owned.guards
        simp only [Manager.holdsGuard, World.isBatching, same] at counted guards ⊢
        omega
      · rcases List.mem_or_eq_of_mem_set member with old | rfl
        · exact owned.unbound other old
        · exact unbound

/-- With one guard in all, two tasks that hold one are the same. -/
theorem Owned.unique {world : World ρ} (owned : world.Owned) {left right : Nat}
    (first : world.Holds left) (second : world.Holds right)
    : left = right := by
  obtain ⟨manager, found, holds⟩ := first
  obtain ⟨manager', found', holds'⟩ := second
  by_contra apart
  -- Take the guard of the first away: the second one is still counted.
  let freed : Manager := {}
  have counted := @Counting.countP_set_add _ Manager.holdsGuard _ _ _ found freed
  have still : (world.managers.set left freed)[right]? = some manager' := by
    rw [List.getElem?_set_ne apart, found']
  have positive : 0 < (world.managers.set left freed).countP Manager.holdsGuard :=
    List.countP_pos_iff.mpr ⟨manager', List.mem_of_getElem? still, holds'⟩
  have bound := Bool.toNat_le world.isBatching
  have none : freed.holdsGuard.toNat = 0 := rfl
  rw [holds, none, owned.guards] at counted
  simp only [Bool.toNat_true] at counted
  omega

theorem Owned.holder {world : World ρ} (owned : world.Owned) (opened : world.isBatching = true)
    : ∃ index, world.Holds index := by
  have counted : 0 < world.managers.countP Manager.holdsGuard := by
    rw [owned.guards, opened]
    decide
  obtain ⟨manager, listed, holds⟩ := List.countP_pos_iff.mp counted
  obtain ⟨index, found⟩ := List.getElem?_of_mem listed
  exact ⟨index, manager, found, holds⟩

/-- A task is refused a batch as long as another one holds the guard. -/
theorem Owned.refused_by {world after : World ρ} (owned : world.Owned) {index : Nat} {e : Error}
    (stepped : world.step platform format (.manager index (.begun (.error e))) = some after)
    : ∃ owner, owner ≠ index ∧ world.Holds owner := by
  cases step_cases stepped with
  | advanced index input manager task found agrees moved =>
      have opened : world.isBatching = true := by
        have asked := beginSendBatch_isOk world.store
        rw [of_decide_eq_true agrees] at asked
        simpa [World.isBatching, Except.isOk, Except.toBool] using asked
      obtain ⟨owner, holds⟩ := owned.holder opened
      refine ⟨owner, ?_, holds⟩
      rintro rfl
      obtain ⟨holder, found', guard⟩ := holds
      obtain rfl : manager = holder := Option.some.inj (found.symm.trans found')
      cases (Task.step_guard moved).2 with
      | idle idle => exact idle.begins _ rfl
      | refused send attempt e control =>
          simp [Manager.holdsGuard, control, Control.holdsGuard] at guard

/-- A batch is closed by a step of the task that holds its guard. -/
theorem Owned.closed_by {world after : World ρ} {input : WorldInput ρ} (owned : world.Owned)
    (opened : world.isBatching = true) (closed : after.isBatching = false)
    (stepped : world.step platform format input = some after)
    : ∃ index taskInput, input = .manager index taskInput ∧ world.Holds index := by
  have kept {world' : World ρ} (same : world'.isBatching = world.isBatching)
      : world'.isBatching ≠ false := by simp [same, opened]
  cases step_cases stepped with
  | dispatched dispatched => exact absurd closed (kept dispatched.isBatching)
  | library call => exact absurd closed (kept (traitCall_batching format world.store call))
  | advanced index input manager task found agrees moved =>
      refine ⟨index, input, rfl, manager, found, ?_⟩
      have balance := @Task.GuardStep.balance _ _ format _ _ _ _ (Task.step_guard moved).2
        agrees (fun holds => owned.isBatching ⟨manager, found, holds⟩)
      simp only [World.isBatching] at opened closed
      rw [opened, closed] at balance
      simp only [Manager.holdsGuard]
      by_contra free
      simp [Bool.eq_false_of_not_eq_true free] at balance
  | _ => exact absurd closed (kept rfl)

end World

/-- In every state that a run of the worker reaches, with any number of manager tasks: the
write batch is open exactly while one of them holds its guard, and never do two; nothing is
buffered without a batch; a task is refused a batch only while another one holds the guard;
and the batch is ended by a step of its holder only.
-/
theorem write_batch_has_one_owner (platform : Platform) (format : RecordFormat ρ)
    (inner : InnerBackend) (inputs : List (WorldInput ρ)) (world : World ρ)
    (reached : Runs.run? (World.step platform format) (.start inner) inputs = some world)
    : (world.isBatching = true ↔ ∃ index, world.Holds index)
      ∧ (∀ left right, world.Holds left → world.Holds right → left = right)
      ∧ (world.isBatching = false → world.store.backend.buffer = ∅)
      ∧ (∀ index e after,
          world.step platform format (.manager index (.begun (.error e))) = some after
          → ∃ owner, owner ≠ index ∧ world.Holds owner)
      ∧ ∀ input after, world.step platform format input = some after
          → world.isBatching = true → after.isBatching = false
          → ∃ index taskInput, input = .manager index taskInput ∧ world.Holds index := by
  have owned : world.Owned :=
    Runs.run?_invariant (fun _ _ _ stepped owned => owned.step stepped) reached
      (World.owned_start inner)
  have drained : Drained world.store :=
    Runs.run?_invariant (fun _ _ _ stepped drained => World.step_drained stepped drained)
      reached (fun _ => rfl)
  refine ⟨⟨owned.holder, fun ⟨index, holds⟩ => owned.isBatching holds⟩,
    fun left right => owned.unique, drained, fun index e after => owned.refused_by, ?_⟩
  intro input after stepped opened closed
  exact owned.closed_by opened closed stepped

/-- A registered worker is sending one message: its task is the holder. -/
theorem write_batch_has_one_owner_sending
    : let inputs : List (WorldInput UInt8) :=
        [.dispatcher (.loaded (.ok ⟨"xas", "aci", "phone"⟩)), .dispatcherDelivers,
          .dispatcher .adopt,
          .dispatcher (.cmd (.sendMessage (⟨1⟩ : Uuid).toString "hi" 5)),
          .dispatcher .forward, .manager 0 (.wake 0 .insertion), .manager 0 .recv,
          .manager 0 (.contacts (.ok [])), .manager 0 (.begun (.ok ()))]
      ∃ world,
        Runs.run? (World.step (.knowing ⟨1⟩) .oneByte) (.start { map := ∅ }) inputs = some world
        ∧ world.isBatching = true ∧ ∃ owner, world.Holds owner := by
  intro inputs
  refine ⟨_, rfl, rfl, ?_⟩
  exact (write_batch_has_one_owner (.knowing ⟨1⟩) .oneByte { map := ∅ } inputs _ rfl).1.mp rfl

-----------------------------------------------------------------------------------------
-- What reaches the storage
-----------------------------------------------------------------------------------------

/-- Whether the task commits its batch at this await point with this input. -/
def TaskInput.commits (platform : Platform) (control : Control) : TaskInput → Bool
  | .sendReturned outcome _ _ _ =>
      match control with
      | .sending _ attempt => judge platform attempt outcome = .complete
      | _ => false
  | _ => false

/-- The step commits the batch of a successful attempt, or drops whole dictionaries. -/
def WorldInput.reachesStorage (platform : Platform) (world : World ρ) : WorldInput ρ → Bool
  | .manager index input =>
      world.managers[index]?.any (fun manager => input.commits platform manager.task.control)
  | .dispatcher (.cmd .logout) =>
      match world.dispatcher.control with
      | .ready => true
      | _ => false
  | .library call => call.dropsDict
  | _ => false

/-- A batch is open, and the next step neither commits it nor drops a dictionary. -/
def World.Deferring (platform : Platform) (world : World ρ) (input : WorldInput ρ) : Prop :=
  world.isBatching = true ∧ input.reachesStorage platform world = false

instance (world : World ρ) (input : WorldInput ρ)
    : Decidable (world.Deferring platform input) :=
  inferInstanceAs (Decidable (_ ∧ _))

section Storage

variable {map : FiniteMap (String × String) Bytes} {store : Buffered ρ}

/-- Short of a commit a task leaves the stored map alone while a batch is open. -/
theorem TaskInput.onStore_stored (frozen : Frozen map store.backend) (control : Control)
    {input : TaskInput} (waits : input.commits platform control = false)
    : (input.onStore platform format control store).backend.inner.map = map := by
  unfold TaskInput.onStore
  split
  · simp only [PddbStore.beginSendBatch, PddbStore.onBackend, BufferingBackend.beginBatch,
      frozen.opened]
    exact frozen.stored
  · split
    · next send attempt =>
        split
        · next complete => simp [TaskInput.commits, complete] at waits
        · exact frozen.stored
        · exact frozen.stored
        · exact frozen.stored
    · exact frozen.stored
  · split <;> exact frozen.stored
  · split <;> exact frozen.stored
  · next order => exact (SessionOp.perform_frozen format frozen (.flushSessions order)).stored
  · exact frozen.stored

/-- But for a logout the dispatcher only asks the store. -/
theorem World.Dispatched.stored {world after : World ρ} {input : DispatcherInput}
    (dispatched : Dispatched world input after)
    (waits : (WorldInput.dispatcher input : WorldInput ρ).reachesStorage platform world = false)
    (frozen : Frozen map world.store.backend)
    : after.store.backend.inner.map = map := by
  have dropped (control : Bool → DispatcherControl) (cancelled : Bool) (cmd : Cmd)
      : (world.linkingCmd control cancelled cmd).store = world.store := by
    unfold linkingCmd
    split <;> rfl
  cases dispatched with
  | commandWhileLinking cancelled cmd | commandWhileEnding cancelled linked cmd =>
      rw [dropped]
      exact frozen.stored
  | registrationLoaded attempts result =>
      rcases registrationLoaded_cases attempts result world with
        ⟨info, moved⟩ | ⟨control, -, moved⟩ <;> rw [moved] <;> exact frozen.stored
  | command cmd control =>
      have handled := handleCmd_cases cmd world
      generalize world.handleCmd cmd = after at handled
      cases handled with
      | linkRefused deviceName | linkStarted deviceName =>
          exact (Frozen.listsAnyKey probedDicts frozen).stored
      | loggedOut => simp [WorldInput.reachesStorage, control] at waits
      | _ => exact frozen.stored
  | accountInfoLoaded result =>
      cases result with
      | error message => exact frozen.stored
      | ok info =>
          simp only [World.accountInfoLoaded]
          split <;> exact frozen.stored
  | forwarded op after control taken forwarded =>
      rcases forward_cases forwarded with rfl | ⟨index, rfl⟩ <;> exact frozen.stored
  | linkEnded cancelled result => cases result <;> exact frozen.stored
  | linkReturned cancelled linked => cases linked <;> exact frozen.stored
  | _ => exact frozen.stored

/-- One step while a batch is open: what it writes waits in the buffer. -/
theorem World.step_stored {world after : World ρ} {input : WorldInput ρ}
    (deferring : world.Deferring platform input)
    (stepped : world.step platform format input = some after)
    : after.store.backend.inner.map = world.store.backend.inner.map := by
  obtain ⟨opened, waits⟩ := deferring
  have frozen : Frozen world.store.backend.inner.map world.store.backend := ⟨opened, rfl⟩
  cases step_cases stepped with
  | dispatched dispatched => exact dispatched.stored waits frozen
  | library call => exact (call.perform_frozen format frozen waits).stored
  | advanced index input manager task found agrees moved =>
      refine TaskInput.onStore_stored frozen manager.task.control ?_
      simpa [WorldInput.reachesStorage, found] using waits
  | _ => rfl

end Storage

/-- An attempt that ends without a commit leaves the storage as it was when it began its
batch: whatever the task, the library, the dispatcher and the other tasks do in the meantime,
as long as no step commits the batch or drops a dictionary.
-/
theorem uncommitted_attempt_leaves_storage (platform : Platform) (format : RecordFormat ρ)
    (index : Nat) (later : List (WorldInput ρ)) (world opened ended : World ρ)
    (begun : world.step platform format (.manager index (.begun (.ok ()))) = some opened)
    (deferring : Runs.Guarded? (World.step platform format) (World.Deferring platform) opened later)
    (continued : Runs.run? (World.step platform format) opened later = some ended)
    : ended.store.backend.inner.map = world.store.backend.inner.map := by
  have start : opened.store.backend.inner.map = world.store.backend.inner.map := by
    cases World.step_cases begun with
    | advanced index input manager task found agrees moved =>
        simp only [TaskInput.onStore, PddbStore.beginSendBatch, PddbStore.onBackend,
          BufferingBackend.beginBatch]
        split <;> rfl
  refine Eq.trans ?_ start
  exact @Runs.Guarded?.invariant _ _ (World.step platform format) _
    (fun state => state.store.backend.inner.map = opened.store.backend.inner.map)
    (fun _ _ _ deferring stepped same => (World.step_stored deferring stepped).trans same)
    _ _ _ deferring continued rfl

/-- The library stores an identity and a session, the connection closes, and the retry is
about to begin: none of it is stored.
-/
theorem uncommitted_attempt_leaves_storage_retried
    : let peer : ProtocolAddress := ⟨"peer", defaultDeviceId⟩
      let before : List (WorldInput UInt8) :=
        [.dispatcher (.loaded (.ok ⟨"xas", "aci", "phone"⟩)), .dispatcherDelivers,
          .dispatcher .adopt,
          .dispatcher (.cmd (.sendMessage (⟨1⟩ : Uuid).toString "hi" 5)),
          .dispatcher .forward, .manager 0 (.wake 0 .insertion), .manager 0 .recv,
          .manager 0 (.contacts (.ok []))]
      let later : List (WorldInput UInt8) :=
        [.library (.kv (.put (dictIdentity .aci) "peer" [1]) (by decide)),
          .library (.session (.storeSession .aci peer 7) rfl),
          .manager 0 (.sendReturned (.err "WebSocket closing") 0 .insertion .insertion),
          .manager 0 .slept]
      ∃ world opened ended,
        Runs.run? (World.step (.knowing ⟨1⟩) .oneByte) (.start { map := ∅ }) before = some world
        ∧ world.step (.knowing ⟨1⟩) .oneByte (.manager 0 (.begun (.ok ()))) = some opened
        ∧ Runs.run? (World.step (.knowing ⟨1⟩) .oneByte) opened later = some ended
        ∧ ended.store.backend.inner.map = world.store.backend.inner.map := by
  intro peer before later
  refine ⟨_, _, _, rfl, rfl, rfl, ?_⟩
  exact uncommitted_attempt_leaves_storage (.knowing ⟨1⟩) .oneByte 0 later _ _ _ rfl
    (by decide) rfl

end XousAppSignal.Worker
