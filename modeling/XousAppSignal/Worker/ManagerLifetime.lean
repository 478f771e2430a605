import XousAppSignal.Library.Counting
import XousAppSignal.Worker.TaskExits
import XousAppSignal.Worker.WorldSteps

/-! How the dispatcher's handle, its cached account and the detached manager tasks hang
together. The three have lifetimes of their own: a task ends by itself, the handle is dropped
at a logout or at the next failed forward, and the cache is cleared at a logout only.
-/

namespace XousAppSignal.Worker

open Store (InnerBackend RecordFormat)

variable {ρ : Type}

namespace World

/-- This step hands a manager to a new task. -/
def handsOver (world : World ρ) (input : DispatcherInput) : Bool :=
  match world.dispatcher.control, input with
  | .adopting _, .adopt => world.dispatcher.outbox.isEmpty
  | .linkEnding _ linked, .linkReturned =>
      world.dispatcher.outbox.isEmpty && linked.isSome
  | .askingAccountInfo, .loaded (.ok _) =>
      world.dispatcher.outbox.isEmpty && world.dispatcher.managerOps.isNone
  | _, _ => false

/-- This step takes up a `Logout`. -/
def logsOut (world : World ρ) (input : DispatcherInput) : Bool :=
  match world.dispatcher.control, input with
  | .ready, .cmd cmd => world.dispatcher.outbox.isEmpty && cmd.isLogout
  | _, _ => false

/-- This step drops the handle, if there is one, without waiting for the task behind it. -/
def detaches (world : World ρ) (input : DispatcherInput) : Bool :=
  world.logsOut input || world.handsOver input

/-- The handle leads to a task that has not returned. -/
def attached (world : World ρ) : Bool :=
  match world.dispatcher.managerOps with
  | none => false
  | some index => world.managers[index]?.any (fun manager => !manager.task.hasExited)

theorem exited_of_unattached {world : World ρ} (gone : world.attached = false) {index : Nat}
    {manager : Manager} (handle : world.dispatcher.managerOps = some index)
    (found : world.managers[index]? = some manager)
    : manager.task.hasExited = true := by
  simpa [attached, handle, found] using gone

/-- What a step does to the tasks, to the handle and to the cache; the flag tells whether it
detaches a task.
-/
inductive Change (world after : World ρ) : Bool → Prop where
  | kept (managers : after.managers = world.managers)
      (handle : after.dispatcher.managerOps = world.dispatcher.managerOps)
      (cache
        : after.dispatcher.cachedAccountInfo = world.dispatcher.cachedAccountInfo
          ∨ after.dispatcher.cachedAccountInfo.isSome = true)
      : Change world after false
  | moved (index : Nat) (manager next : Manager)
      (found : world.managers[index]? = some manager)
      (managers : after.managers = world.managers.set index next)
      (ended : manager.task.hasExited = true → next.task.hasExited = true)
      (dispatcher : after.dispatcher = world.dispatcher)
      : Change world after false
  | accepted (index : Nat) (op : WorkerOp)
      (managers : after.managers = world.managers.modify index (Manager.accept op))
      (handle : after.dispatcher.managerOps = world.dispatcher.managerOps)
      (cache : after.dispatcher.cachedAccountInfo = world.dispatcher.cachedAccountInfo)
      : Change world after false
  | died (gone : world.attached = false) (managers : after.managers = world.managers)
      (handle : after.dispatcher.managerOps = none)
      (cache : after.dispatcher.cachedAccountInfo = world.dispatcher.cachedAccountInfo)
      : Change world after false
  | loggedOut (managers : after.managers = world.dropOps.managers)
      (handle : after.dispatcher.managerOps = none)
      : Change world after true
  | spawned (managers : after.managers = world.dropOps.managers ++ [({} : Manager)])
      (handle : after.dispatcher.managerOps = some world.dropOps.managers.length)
      (cache : after.dispatcher.cachedAccountInfo.isSome = true)
      : Change world after true

theorem Handled.change {world after : World ρ} {cmd : Cmd} (handled : Handled world cmd after)
    : Change world after cmd.isLogout := by
  cases handled with
  | loggedOut => exact .loggedOut rfl rfl
  | opRefused cmd op carried | opForwarded cmd op carried =>
      cases cmd with
      | logout => cases carried
      | _ => exact .kept rfl rfl (.inl rfl)
  | _ => exact .kept rfl rfl (.inl rfl)

/-- A handle is given up only when the task behind it is found to have returned. -/
theorem change_forward {world after : World ρ} {op : WorkerOp}
    (forwarded : world.forward op = some after)
    : Change world after false := by
  obtain ⟨index, manager, handle, found, ⟨returned, rfl⟩ | rfl⟩ := forward_some forwarded
  · exact .died (by simp [attached, handle, found, returned]) rfl rfl rfl
  · exact .accepted index op rfl rfl rfl

theorem change_linkingCmd (control : Bool → DispatcherControl) (cancelled : Bool) (cmd : Cmd)
    (world : World ρ)
    : Change world (world.linkingCmd control cancelled cmd) false := by
  unfold linkingCmd
  split <;> exact .kept rfl rfl (.inl rfl)

theorem change_registrationLoaded (attempts : Nat) (result : Except String AccountInfoData)
    (world : World ρ)
    : Change world (world.registrationLoaded attempts result) false := by
  rcases registrationLoaded_cases attempts result world with
    ⟨info, moved⟩ | ⟨control, -, moved⟩ <;> rw [moved] <;> exact .kept rfl rfl (.inl rfl)

theorem change_adopt (info : AccountInfoData) (world : World ρ)
    : Change world (world.adopt info) true :=
  .spawned rfl rfl rfl

theorem change_accountInfoLoaded (result : Except String AccountInfoData) (world : World ρ)
    : Change world (world.accountInfoLoaded result)
        (result.isOk && world.dispatcher.managerOps.isNone) := by
  cases result with
  | error message => exact .kept rfl rfl (.inl rfl)
  | ok info =>
      simp only [accountInfoLoaded, Except.isOk, Except.toBool, Bool.true_and]
      split
      · next free =>
          rw [free]
          exact .spawned rfl rfl rfl
      · next held =>
          rw [Bool.eq_false_of_not_eq_true held]
          exact .kept rfl rfl (.inr rfl)

/-- What one step of the dispatcher can do to the tasks. -/
theorem Dispatched.change {world after : World ρ} {input : DispatcherInput}
    (dispatched : Dispatched world input after)
    : Change world after (world.detaches input) := by
  unfold detaches logsOut handsOver
  cases dispatched with
  | commandWhileLinking cancelled cmd control =>
      rw [control]
      exact change_linkingCmd _ _ _ world
  | commandWhileEnding cancelled linked cmd control =>
      rw [control]
      exact change_linkingCmd _ _ _ world
  | registrationLoaded attempts result control =>
      rw [control]
      exact change_registrationLoaded _ _ world
  | adopted info control taken =>
      rw [control, taken]
      exact change_adopt _ world
  | command cmd control taken =>
      have handled := (handleCmd_cases cmd world).change
      rw [control, taken]
      simpa using handled
  | accountInfoLoaded result control taken =>
      have loaded := change_accountInfoLoaded result world
      rw [control, taken]
      cases result <;> exact loaded
  | forwarded op after control taken forwarded =>
      rw [control]
      exact change_forward forwarded
  | linkEnded cancelled result control =>
      rw [control]
      unfold World.linkEnded
      split <;> exact .kept rfl rfl (.inl rfl)
  | linkReturned cancelled linked control taken =>
      rw [control, taken]
      cases linked with
      | none => exact .kept rfl rfl (.inl rfl)
      | some info => exact change_adopt info world
  | closed =>
      generalize world.dispatcher.control = control
      cases control <;> exact .kept rfl rfl (.inl rfl)
  | cancelledWhileLinking control | cancelledWhileEnding linked control
  | whoami answer control | linkUrl cancelled url control | stopped control =>
      rw [control]
      exact .kept rfl rfl (.inl rfl)

end World

/-- A task that has returned takes no further step. -/
theorem Task.step_exited {platform : Platform} {task after : Task} {input : TaskInput}
    (stepped : task.step platform input = some after)
    : task.hasExited = false := by
  unfold hasExited
  split
  · next exited =>
      simp only [step, advance, exited] at stepped
      split at stepped <;> cases stepped
  · rfl

theorem Task.deliver_exited {task after : Task} {isOpen : Bool} {event : Option Event}
    (delivered : task.deliver isOpen = some (event, after)) (exited : task.hasExited = true)
    : after.hasExited = true := by
  unfold deliver at delivered
  split at delivered
  · cases delivered
  · split at delivered
    · cases delivered
      exact exited
    · split at delivered
      · cases delivered
        rfl
      · cases delivered
        exact exited

namespace World

/-- The step drops the dispatcher's handle. -/
def detachesOn (world : World ρ) : WorldInput ρ → Bool
  | .dispatcher input => world.detaches input
  | _ => false

/-- What one step of the worker can do to the tasks. -/
theorem step_change {platform : Platform} {format : RecordFormat ρ} {world after : World ρ}
    {input : WorldInput ρ} (stepped : world.step platform format input = some after)
    : Change world after (world.detachesOn input) := by
  cases step_cases stepped with
  | dispatched dispatched => exact dispatched.change
  | advanced index input manager task found agrees moved =>
      refine .moved index manager _ found rfl (fun exited => ?_) rfl
      rw [Task.step_exited moved] at exited
      cases exited
  | managerDelivered index manager event task found taken =>
      exact .moved index manager _ found rfl (Task.deliver_exited taken) rfl
  | _ => exact .kept rfl rfl (.inl rfl)

-----------------------------------------------------------------------------------------
-- One live task at a time
-----------------------------------------------------------------------------------------

/-- The number of tasks that were spawned and have not returned. -/
def liveManagers (world : World ρ) : Nat :=
  world.managers.countP (fun manager => !manager.task.hasExited)

/-- A step that drops the handle finds the task behind it returned. -/
def DetachesReturned (world : World ρ) (input : WorldInput ρ) : Prop :=
  world.detachesOn input = true → world.attached = false

instance (world : World ρ) (input : WorldInput ρ) : Decidable (world.DetachesReturned input) :=
  inferInstanceAs (Decidable (world.detachesOn input = true → world.attached = false))

/-- Every live task is the one behind the dispatcher's handle. -/
def OneOwner (world : World ρ) : Prop :=
  ∀ index manager, world.managers[index]? = some manager
    → manager.task.hasExited = false
    → world.dispatcher.managerOps = some index

namespace OneOwner

theorem liveManagers {world : World ρ} (owner : OneOwner world) : world.liveManagers ≤ 1 := by
  refine @Counting.countP_le_one _ _ _ world.dispatcher.managerOps
    fun index manager found live => ?_
  exact owner index manager found (by simpa using live)

/-- Where the task behind the handle has returned, no live task is left. -/
theorem none_live {world : World ρ} (owner : OneOwner world) (gone : world.attached = false)
    {index : Nat} {manager : Manager} (found : world.managers[index]? = some manager)
    : manager.task.hasExited = true := by
  by_contra live
  have handle := owner index manager found (by simpa using live)
  exact live (exited_of_unattached gone handle found)

/-- Dropping the sender of an op channel starts no task. -/
theorem none_live_dropOps {world : World ρ} (owner : OneOwner world)
    (gone : world.attached = false) {index : Nat} {manager : Manager}
    (found : world.dropOps.managers[index]? = some manager)
    : manager.task.hasExited = true := by
  unfold dropOps at found
  split at found
  · exact owner.none_live gone found
  · rw [List.getElem?_modify] at found
    obtain ⟨old, listed, changed⟩ := Option.map_eq_some_iff.mp found
    have exited := owner.none_live gone listed
    rw [← changed]
    split <;> exact exited

/-- One step: a new task is the one behind the new handle, and the others have returned. -/
theorem change {world after : World ρ} {detaches : Bool} (owner : OneOwner world)
    (change : Change world after detaches) (returned : detaches = true → world.attached = false)
    : OneOwner after := by
  intro index manager found live
  cases change with
  | kept managers handle =>
      rw [handle]
      exact owner index manager (managers ▸ found) live
  | moved other old next listed managers ended dispatcher =>
      rw [managers, List.getElem?_set] at found
      rw [dispatcher]
      split at found
      · next same =>
          subst same
          split at found
          · obtain rfl := Option.some.inj found
            refine owner other old listed ?_
            by_contra exited
            rw [ended (by simpa using exited)] at live
            cases live
          · cases found
      · exact owner index manager found live
  | accepted other op managers handle =>
      rw [managers, List.getElem?_modify] at found
      obtain ⟨old, listed, changed⟩ := Option.map_eq_some_iff.mp found
      rw [handle]
      refine owner index old listed ?_
      rw [← changed] at live
      split at live <;> exact live
  | died gone managers =>
      rw [owner.none_live gone (managers ▸ found)] at live
      cases live
  | loggedOut managers =>
      rw [owner.none_live_dropOps (returned rfl) (managers ▸ found)] at live
      cases live
  | spawned managers handle =>
      rw [handle]
      rw [managers] at found
      by_cases old : index < world.dropOps.managers.length
      · rw [List.getElem?_append_left old] at found
        rw [owner.none_live_dropOps (returned rfl) found] at live
        cases live
      · rw [List.getElem?_append_right (Nat.le_of_not_lt old)] at found
        have first : index - world.dropOps.managers.length < 1 := by
          simpa using (List.getElem?_eq_some_iff.mp found).1
        congr 1
        omega

end OneOwner

end World

/-- In a run whose logouts and adoptions find the task behind the dispatcher's handle returned,
at most one manager task is live in every state.
-/
theorem single_live_manager (platform : Platform) (format : RecordFormat ρ)
    (inner : InnerBackend) (inputs : List (WorldInput ρ))
    (returned
      : Runs.Guarded? (World.step platform format) World.DetachesReturned (.start inner) inputs)
    (done : List (WorldInput ρ)) (world : World ρ) (before : done <+: inputs)
    (reached : Runs.run? (World.step platform format) (.start inner) done = some world)
    : world.liveManagers ≤ 1 := by
  obtain ⟨rest, rfl⟩ := before
  have vacant : World.OneOwner (.start inner : World ρ) := fun _ _ found => by
    simp [World.start] at found
  have owner : world.OneOwner :=
    returned.left.invariant
      (fun _ _ _ returned stepped owner => owner.change (World.step_change stepped) returned)
      reached vacant
  exact owner.liveManagers

/-- A logout while the contacts are being synced, then a new link: the first task still
waits for the server when the second one is spawned.
-/
theorem two_live_managers
    : let inputs : List (WorldInput UInt8) :=
        [.dispatcher (.loaded (.ok ⟨"xas", "aci", "phone"⟩)), .dispatcherDelivers,
          .dispatcher .adopt, .dispatcher (.cmd .syncContacts), .dispatcher .forward,
          .manager 0 (.wake 0 .insertion), .manager 0 .recv,
          .dispatcher (.cmd .logout), .dispatcherDelivers,
          .dispatcher (.cmd (.linkDevice "xas")),
          .dispatcher (.linked (.ok ⟨"xas", "aci", "phone"⟩)), .dispatcherDelivers,
          .dispatcher .linkReturned]
      ∃ world,
        Runs.run? (World.step (.knowing ⟨1⟩) .oneByte) (.start { map := ∅ }) inputs
          = some world
        ∧ world.liveManagers = 2 := by
  refine ⟨_, rfl, ?_⟩
  rfl

/-- The first task leaves when the server reports another device; only then the logout and the
new link come, and the second task is the only live one.
-/
theorem single_live_manager_relinked
    : let inputs : List (WorldInput UInt8) :=
        [.dispatcher (.loaded (.ok ⟨"xas", "aci", "phone"⟩)), .dispatcherDelivers,
          .dispatcher .adopt, .dispatcher (.cmd .startReceive), .dispatcher .forward,
          .manager 0 (.wake 0 .insertion), .manager 0 .recv, .manager 0 (.wake 0 .insertion),
          .manager 0 (.opened (.error "HTTP 409") (some 4409)), .managerDelivers 0,
          .manager 0 .proceed, .dispatcher (.cmd .logout), .dispatcherDelivers,
          .dispatcher (.cmd (.linkDevice "xas")),
          .dispatcher (.linked (.ok ⟨"xas", "aci", "phone"⟩)), .dispatcherDelivers,
          .dispatcher .linkReturned]
      ∃ world,
        Runs.run? (World.step (.knowing ⟨1⟩) .oneByte) (.start { map := ∅ }) inputs
          = some world
        ∧ world.managers.length = 2 ∧ world.liveManagers ≤ 1 := by
  intro inputs
  have returned : Runs.Guarded? (World.step (.knowing ⟨1⟩) .oneByte) World.DetachesReturned
      (.start { map := ∅ }) inputs := by decide +kernel
  refine ⟨_, rfl, rfl, ?_⟩
  exact single_live_manager (.knowing ⟨1⟩) .oneByte _ inputs returned inputs _ List.prefix_rfl rfl

end XousAppSignal.Worker
