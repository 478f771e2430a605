import XousAppSignal.Worker.ManagerLifetime

/-! Who holds the sender of which op channel. A manager task that still runs and whose channel
is still open is the one the dispatcher's handle leads to; every other one is on its way out.
-/

namespace XousAppSignal.Worker

open Store (InnerBackend RecordFormat)

variable {ρ : Type}

namespace Task

variable {platform : Platform}

theorem runManagerOp_sender (op : WorkerOp) (task : Task)
    : (task.runManagerOp op).senderOpen = task.senderOpen := by
  cases op <;> rfl

theorem reportFirstFailure_sender (reason : String) (task : Task)
    : (task.reportFirstFailure reason).senderOpen = task.senderOpen := by
  unfold reportFirstFailure
  split <;> rfl

theorem afterPump_sender (exit : PumpExit) (task : Task)
    : (task.afterPump exit).senderOpen = task.senderOpen := by
  cases exit with
  | op op => exact runManagerOp_sender op task
  | reopen reason => exact reportFirstFailure_sender _ _
  | shutdown => rfl

/-- No step of the task touches the sender of its op channel. -/
theorem Advanced.sender {task after : Task} {input : TaskInput}
    (advanced : Advanced platform task input after)
    : after.senderOpen = task.senderOpen := by
  cases advanced with
  | woke now order =>
      unfold Task.outerHead
      repeat' split
      all_goals rfl
  | parkedOp op | pumpedOp op => cases op <;> rfl
  | backoffElapsed =>
      unfold Task.backoffElapsed
      split <;> rfl
  | streamOpened =>
      unfold Task.streamOpened
      split <;> rfl
  | openFailed err closeCode =>
      unfold Task.openFailed
      dsimp only
      split
      · rfl
      · split
        · split
          · rfl
          · exact reportFirstFailure_sender _ _
        · exact reportFirstFailure_sender _ _
  | nextFetch drained exit =>
      cases drained with
      | nil => exact afterPump_sender exit task
      | cons first rest =>
          simp only [Task.nextFetch]
          split <;> rfl
  | profileFetched aci rest exit result =>
      unfold Task.profileFetched
      split
      · rfl
      · dsimp only
        split <;> rfl
  | attemptReturned send attempt outcome now =>
      unfold Task.attemptReturned
      split <;> rfl
  | _ => rfl

theorem deliver_sender {task after : Task} {isOpen : Bool} {event : Option Event}
    (delivered : task.deliver isOpen = some (event, after))
    : after.senderOpen = task.senderOpen := by
  unfold deliver at delivered
  split at delivered
  · cases delivered
  · split at delivered
    · cases delivered
      rfl
    · split at delivered <;> cases delivered <;> rfl

end Task

/-- The task runs, and its op channel is open. -/
def Manager.isServed (manager : Manager) : Bool :=
  manager.task.senderOpen && !manager.task.hasExited

namespace World

/-- The handle leads to a task, the dispatcher forwards through a handle only, and a served
task is the one the handle leads to.
-/
structure Wired (world : World ρ) : Prop where
  spawned : ∀ index, world.dispatcher.managerOps = some index → index < world.managers.length
  forwarding
    : ∀ op, world.dispatcher.control = .forwarding op
        → world.dispatcher.managerOps.isSome = true
  served
    : ∀ index manager, world.managers[index]? = some manager → manager.isServed = true
        → world.dispatcher.managerOps = some index

/-- What a step of the dispatcher does to the handle. -/
inductive Rewired (world after : World ρ) : Prop where
  | same (managers : after.managers = world.managers)
      (handle : after.dispatcher.managerOps = world.dispatcher.managerOps)
  | accepted (index : Nat) (op : WorkerOp)
      (managers : after.managers = world.managers.modify index (Manager.accept op))
      (handle : after.dispatcher.managerOps = world.dispatcher.managerOps)
  | died (index : Nat) (manager : Manager)
      (held : world.dispatcher.managerOps = some index)
      (found : world.managers[index]? = some manager) (ended : manager.task.hasExited = true)
      (managers : after.managers = world.managers)
      (handle : after.dispatcher.managerOps = none)
  | dropped (managers : after.managers = world.dropOps.managers)
      (handle : after.dispatcher.managerOps = none)
  | spawned (managers : after.managers = world.dropOps.managers ++ [({} : Manager)])
      (handle : after.dispatcher.managerOps = some world.dropOps.managers.length)

theorem forward_rewired {world after : World ρ} {op : WorkerOp}
    (forwarded : world.forward op = some after)
    : Rewired world after := by
  obtain ⟨index, manager, handle, found, ⟨ended, rfl⟩ | rfl⟩ := forward_some forwarded
  · exact .died index manager handle found ended rfl rfl
  · exact .accepted index op rfl rfl

theorem Handled.rewired {world after : World ρ} {cmd : Cmd} (handled : Handled world cmd after)
    : Rewired world after := by
  cases handled with
  | loggedOut => exact .dropped rfl rfl
  | _ => exact .same rfl rfl

theorem Dispatched.rewired {world after : World ρ} {input : DispatcherInput}
    (dispatched : Dispatched world input after)
    : Rewired world after := by
  cases dispatched with
  | commandWhileLinking cancelled cmd | commandWhileEnding cancelled linked cmd =>
      cases cmd <;> exact .same rfl rfl
  | registrationLoaded attempts result =>
      rcases registrationLoaded_cases attempts result world with
        ⟨info, moved⟩ | ⟨control, -, moved⟩ <;> rw [moved] <;> exact .same rfl rfl
  | adopted info => exact .spawned rfl rfl
  | command cmd => exact (handleCmd_cases cmd world).rewired
  | accountInfoLoaded result =>
      cases result with
      | error message => exact .same rfl rfl
      | ok info =>
          simp only [World.accountInfoLoaded]
          split
          · exact .spawned rfl rfl
          · exact .same rfl rfl
  | forwarded op after control taken forwarded => exact forward_rewired forwarded
  | linkEnded cancelled result => cases result <;> exact .same rfl rfl
  | linkReturned cancelled linked =>
      cases linked with
      | none => exact .same rfl rfl
      | some info => exact .spawned rfl rfl
  | _ => exact .same rfl rfl

/-- With the handle dropped, no task is served any more. -/
theorem Wired.dropOps {world : World ρ} (wired : Wired world) (index : Nat) (manager : Manager)
    (found : world.dropOps.managers[index]? = some manager)
    : manager.isServed = false := by
  by_contra served
  simp only [Bool.not_eq_false] at served
  unfold World.dropOps at found
  split at found
  · next free =>
      have held := wired.served index manager found served
      rw [free] at held
      cases held
  · next other held =>
      rw [List.getElem?_modify] at found
      obtain ⟨old, listed, changed⟩ := Option.map_eq_some_iff.mp found
      by_cases same : other = index
      · rw [if_pos same] at changed
        rw [← changed] at served
        simp [Manager.isServed, Manager.dropSender] at served
      · obtain rfl : old = manager := by simpa [same] using changed
        have own := wired.served index old listed served
        exact same (Option.some.inj (held.symm.trans own))

theorem Rewired.wired {world after : World ρ} (rewired : Rewired world after)
    (forwarding
      : ∀ op, after.dispatcher.control = .forwarding op
          → after.dispatcher.managerOps.isSome = true)
    (wired : Wired world)
    : Wired after := by
  refine ⟨?_, forwarding, ?_⟩
  · cases rewired with
    | same managers handle =>
        rw [managers, handle]
        exact wired.spawned
    | accepted index op managers handle =>
        rw [managers, handle, List.length_modify]
        exact wired.spawned
    | died _ _ _ _ _ _ handle | dropped _ handle => simp [handle]
    | spawned managers handle =>
        rw [managers, handle]
        intro index held
        obtain rfl := Option.some.inj held
        simp
  · intro index manager found served
    cases rewired with
    | same managers handle =>
        rw [handle]
        exact wired.served index manager (managers ▸ found) served
    | accepted other op managers handle =>
        rw [managers, List.getElem?_modify] at found
        obtain ⟨old, listed, changed⟩ := Option.map_eq_some_iff.mp found
        rw [handle]
        refine wired.served index old listed ?_
        rw [← changed] at served
        split at served <;> exact served
    | died other ended held gone exited managers handle =>
        rw [managers] at found
        have own := wired.served index manager found served
        obtain rfl := Option.some.inj (held.symm.trans own)
        obtain rfl := Option.some.inj (gone.symm.trans found)
        simp [Manager.isServed, exited] at served
    | dropped managers =>
        rw [wired.dropOps index manager (managers ▸ found)] at served
        cases served
    | spawned managers handle =>
        rw [managers] at found
        rw [handle]
        by_cases old : index < world.dropOps.managers.length
        · rw [List.getElem?_append_left old] at found
          rw [wired.dropOps index manager found] at served
          cases served
        · rw [List.getElem?_append_right (Nat.le_of_not_lt old)] at found
          have first : index - world.dropOps.managers.length < 1 := by
            simpa using (List.getElem?_eq_some_iff.mp found).1
          congr 1
          omega

theorem forwardOp_forwarding {world : World ρ} (op : WorkerOp) {forwarded : WorkerOp}
    (control : (world.forwardOp op).dispatcher.control = .forwarding forwarded)
    : (world.forwardOp op).dispatcher.managerOps.isSome = true := by
  unfold forwardOp at control ⊢
  split at control
  · cases control
  · next index held => simp [goTo, held]

theorem handleCmd_forwarding {world : World ρ} (ready : world.dispatcher.control = .ready)
    (cmd : Cmd) {op : WorkerOp}
    (control : (world.handleCmd cmd).dispatcher.control = .forwarding op)
    : (world.handleCmd cmd).dispatcher.managerOps.isSome = true := by
  cases cmd with
  | startReceive => exact forwardOp_forwarding _ control
  | sendMessage recipient body timestamp => exact forwardOp_forwarding _ control
  | syncContacts => exact forwardOp_forwarding _ control
  | resolveUsername username => exact forwardOp_forwarding _ control
  | linkDevice deviceName =>
      simp only [handleCmd, linkDevice] at control
      split at control <;> cases control
  | getAccountInfo =>
      simp only [handleCmd] at control
      split at control <;> cases control
  | linkCancel =>
      rw [show world.handleCmd .linkCancel = world from rfl, ready] at control
      cases control
  | _ => cases control

/-- Only an op for a task that there is makes the dispatcher forward. -/
theorem Dispatched.forwarding {world after : World ρ} {input : DispatcherInput}
    (dispatched : Dispatched world input after) {op : WorkerOp}
    (control : after.dispatcher.control = .forwarding op)
    : after.dispatcher.managerOps.isSome = true := by
  cases dispatched with
  | commandWhileLinking cancelled cmd | commandWhileEnding cancelled linked cmd =>
      cases cmd <;> cases control
  | registrationLoaded attempts result =>
      rcases registrationLoaded_cases attempts result world with
        ⟨info, moved⟩ | ⟨_, rfl | rfl, moved⟩ <;> rw [moved] at control <;> cases control
  | command cmd ready => exact handleCmd_forwarding ready cmd control
  | accountInfoLoaded result => cases result <;> cases control
  | forwarded op after _ taken forwarded =>
      rcases forward_cases forwarded with rfl | ⟨index, rfl⟩ <;> cases control
  | linkEnded cancelled result => cases result <;> cases control
  | linkReturned cancelled linked => cases linked <;> cases control
  | _ => cases control

/-- A turn of a task changes nothing about who serves it, and no task comes back. -/
theorem Wired.set {world after : World ρ} {index : Nat} {manager next : Manager}
    (wired : Wired world) (found : world.managers[index]? = some manager)
    (managers : after.managers = world.managers.set index next)
    (dispatcher : after.dispatcher = world.dispatcher)
    (serves : next.isServed = true → manager.isServed = true)
    : Wired after := by
  obtain ⟨spawned, forwarding, served⟩ := wired
  refine ⟨?_, by rw [dispatcher]; exact forwarding, fun other changed listed serving => ?_⟩
  · rw [dispatcher, managers, List.length_set]
    exact spawned
  · rw [dispatcher]
    rw [managers, List.getElem?_set] at listed
    split at listed
    · next same =>
        subst same
        split at listed
        · obtain rfl := Option.some.inj listed
          exact served index manager found (serves serving)
        · cases listed
    · exact served other changed listed serving

theorem Wired.step {platform : Platform} {format : RecordFormat ρ} {world after : World ρ}
    {input : WorldInput ρ} (stepped : world.step platform format input = some after)
    (wired : Wired world)
    : Wired after := by
  cases step_cases stepped with
  | dispatched dispatched =>
      exact dispatched.rewired.wired (fun _ control => dispatched.forwarding control) wired
  | advanced index input manager task found agrees moved =>
      refine wired.set found rfl rfl fun served => ?_
      have running := Task.step_exited moved
      unfold Task.step at moved
      split at moved
      · have sender := (Task.advance_cases moved).sender
        simpa [Manager.isServed, sender, running] using Bool.and_elim_left served
      · cases moved
  | managerDelivered index manager event task found taken =>
      refine wired.set found rfl rfl fun served => ?_
      obtain ⟨isOpen, running⟩ := (Bool.and_eq_true _ _).mp served
      refine (Bool.and_eq_true _ _).mpr ⟨Task.deliver_sender taken ▸ isOpen, ?_⟩
      by_contra gone
      rw [Task.deliver_exited taken (by simpa using gone)] at running
      cases running
  | hungUp => exact ⟨wired.spawned, fun _ control => (by cases control), wired.served⟩
  | _ => exact ⟨wired.spawned, wired.forwarding, wired.served⟩

theorem wired_start (inner : InnerBackend) : Wired (.start inner : World ρ) where
  spawned _ held := by cases held
  forwarding _ control := by cases control
  served _ _ found := by simp [start] at found

end World

end XousAppSignal.Worker
