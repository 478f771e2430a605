import XousAppSignal.Worker.ManagerLifetime

/-! What `AccountInfo(Ok)` says about the manager task. A registration loaded for the answer is
handed to a task at once, but an answer from the cache does not look at the task.
-/

namespace XousAppSignal.Worker

open Store (InnerBackend RecordFormat)

variable {ρ : Type}

namespace World

/-- An op for the manager task is not refused: the handle is there, and the channel takes
the op when it has room.
-/
def handsOn (op : WorkerOp) (world : World ρ) : Prop :=
  world.forwardOp op = world.goTo (.forwarding op)
  ∧ ∀ after, (world.goTo (.forwarding op)).forward op = some after
      → after.dispatcher.outbox = world.dispatcher.outbox
        ∧ ∃ index, after.managers = world.managers.modify index (Manager.accept op)

/-- An attached task is handed every op. -/
theorem handsOn_of_attached {world : World ρ} (live : world.attached = true) (op : WorkerOp)
    : world.handsOn op := by
  unfold attached at live
  split at live
  · cases live
  · next index held =>
      obtain ⟨manager, found, running⟩ := (Option.any_eq_true _ _).mp live
      refine ⟨?_, fun after forwarded => ?_⟩
      · simp only [forwardOp, held]
      · have exited : manager.task.hasExited = false := by simpa using running
        simp only [forward, goTo, held, found, Option.bind_some, Option.map_some, exited,
          Bool.false_eq_true, if_false] at forwarded
        split at forwarded
        · obtain rfl := Option.some.inj forwarded
          exact ⟨rfl, index, rfl⟩
        · cases forwarded

/-- The handle always leads to a task, and whenever there is a handle the account is cached;
the registration is loaded for an answer only while it is not.
-/
structure Linked (world : World ρ) : Prop where
  spawned : ∀ index, world.dispatcher.managerOps = some index → index < world.managers.length
  cached
    : world.dispatcher.managerOps.isSome = true
        → world.dispatcher.cachedAccountInfo.isSome = true
  asking
    : world.dispatcher.control = .askingAccountInfo
        → world.dispatcher.cachedAccountInfo = none

/-- The step neither gives an `AccountInfo(Ok)` answer nor starts to look for one. -/
def Silent (world after : World ρ) : Prop :=
  (∀ info, .accountInfo (.ok info) ∈ after.dispatcher.outbox.map Emit.event
    → .accountInfo (.ok info) ∈ world.dispatcher.outbox.map Emit.event)
  ∧ after.dispatcher.control ≠ .askingAccountInfo

theorem silent_goTo (world : World ρ) {control : DispatcherControl}
    (other : control ≠ .askingAccountInfo)
    : Silent world (world.goTo control) :=
  ⟨fun _ answered => answered, other⟩

theorem silent_reply {world source : World ρ} {emit : Emit} {control : DispatcherControl}
    (kept : ∀ event ∈ source.dispatcher.outbox, event ∈ world.dispatcher.outbox)
    (notice : ∀ info, .accountInfo (.ok info) ≠ emit.event)
    (other : control ≠ .askingAccountInfo)
    : Silent world (source.reply emit control) := by
  refine ⟨fun info answered => ?_, other⟩
  simp only [World.reply, List.map_append, List.mem_append, List.map_cons, List.map_nil,
    List.mem_singleton] at answered
  rcases answered with earlier | same
  · obtain ⟨sent, listed, event⟩ := List.mem_map.mp earlier
    exact List.mem_map.mpr ⟨sent, kept sent listed, event⟩
  · exact absurd same (notice info)

/-- Only `GetAccountInfo` is answered from the cache or sets the dispatcher looking. -/
theorem Handled.silent {world after : World ρ} {cmd : Cmd} (handled : Handled world cmd after)
    (ready : world.dispatcher.control = .ready) (other : cmd ≠ .getAccountInfo)
    : Silent world after := by
  have same : ∀ event ∈ world.dispatcher.outbox, event ∈ world.dispatcher.outbox :=
    fun _ listed => listed
  cases handled with
  | greeted => exact silent_reply same (by simp) (by simp)
  | asksWhoami => exact silent_goTo world (by simp)
  | linkRefused deviceName => exact silent_reply same (by simp) (by simp)
  | linkStarted deviceName => exact ⟨fun _ answered => answered, by simp [goTo]⟩
  | nothingToCancel => exact ⟨fun _ answered => answered, by simp [ready]⟩
  | accountCached info | accountAsked => exact absurd rfl other
  | opRefused cmd op carried =>
      exact silent_reply same (by cases op <;> simp [WorkerOp.refused]) (by simp)
  | opForwarded cmd op carried => exact silent_goTo world (by simp)
  | loggedOut => exact silent_reply same (by simp) (by simp)
  | stopping => exact silent_reply same (by simp) (by simp)

/-- A step that says nothing about the account apart, there are two: the command itself, and
the registration loaded for it.
-/
theorem Dispatched.answers {world after : World ρ} {input : DispatcherInput}
    (dispatched : Dispatched world input after)
    : Silent world after
      ∨ after = world.handleCmd .getAccountInfo
      ∨ world.dispatcher.control = .askingAccountInfo
        ∧ ∃ result, after = world.accountInfoLoaded result := by
  have same : ∀ event ∈ world.dispatcher.outbox, event ∈ world.dispatcher.outbox :=
    fun _ listed => listed
  have ignored (control : Bool → DispatcherControl) (cancelled : Bool) (cmd : Cmd)
      (other : ∀ cancelled, control cancelled ≠ .askingAccountInfo)
      : Silent world (world.linkingCmd control cancelled cmd) := by
    cases cmd with
    | shutdown => exact silent_reply (by simp) (by simp) (by simp)
    | _ => exact silent_goTo world (other _)
  cases dispatched with
  | commandWhileLinking cancelled cmd => exact .inl (ignored _ _ _ (by simp))
  | commandWhileEnding cancelled linked cmd => exact .inl (ignored _ _ _ (by simp))
  | closed => exact .inl (silent_goTo world (by simp))
  | cancelledWhileLinking => exact .inl (silent_reply (by simp) (by simp) (by simp))
  | cancelledWhileEnding linked => exact .inl (silent_reply (by simp) (by simp) (by simp))
  | registrationLoaded attempts result =>
      left
      rcases registrationLoaded_cases attempts result world with
        ⟨info, moved⟩ | ⟨control, rfl | rfl, moved⟩ <;> rw [moved]
      · exact silent_reply same (by simp) (by simp)
      · exact silent_goTo world (by simp)
      · exact silent_goTo world (by simp)
  | adopted info => exact .inl ⟨fun _ answered => answered, by simp [adopt, goTo]⟩
  | command cmd ready =>
      by_cases asks : cmd = .getAccountInfo
      · exact .inr (.inl (by rw [asks]))
      · exact .inl ((handleCmd_cases cmd world).silent ready asks)
  | whoami answer => exact .inl (silent_reply same (by simp) (by simp))
  | accountInfoLoaded result asking => exact .inr (.inr ⟨asking, result, rfl⟩)
  | forwarded op after control taken forwarded =>
      left
      rcases forward_cases forwarded with rfl | ⟨index, rfl⟩
      · exact silent_reply same (by cases op <;> simp [WorkerOp.refused]) (by simp)
      · exact ⟨fun _ answered => answered, by simp [goTo]⟩
  | linkUrl cancelled url => exact .inl (silent_reply same (by simp) (by simp))
  | linkEnded cancelled result =>
      left
      unfold World.linkEnded
      split <;> exact silent_reply same (by simp) (by simp)
  | linkReturned cancelled linked =>
      left
      cases linked with
      | none => exact silent_goTo world (by simp)
      | some info =>
          exact ⟨fun _ answered => answered, by simp [World.linkReturned, adopt, goTo]⟩
  | stopped => exact .inl (silent_goTo world (by simp))

/-- The account stays cached for as long as there is a handle. -/
theorem Linked.change {world after : World ρ} {spawns : Bool} (linked : Linked world)
    (change : Change world after spawns)
    : (∀ index, after.dispatcher.managerOps = some index → index < after.managers.length)
      ∧ (after.dispatcher.managerOps.isSome = true
          → after.dispatcher.cachedAccountInfo.isSome = true) := by
  cases change with
  | kept managers handle cache =>
      rw [managers, handle]
      refine ⟨linked.spawned, fun held => ?_⟩
      rcases cache with same | some
      · rw [same]
        exact linked.cached held
      · exact some
  | moved index manager next found managers ended dispatcher =>
      rw [managers, dispatcher, List.length_set]
      exact ⟨linked.spawned, linked.cached⟩
  | accepted index op managers handle cache =>
      rw [managers, handle, cache, List.length_modify]
      exact ⟨linked.spawned, linked.cached⟩
  | died returned managers handle cache => simp [handle]
  | loggedOut managers handle => simp [handle]
  | spawned managers handle cache =>
      rw [managers, handle]
      refine ⟨fun index held => ?_, fun _ => cache⟩
      obtain rfl := Option.some.inj held
      simp

theorem Dispatched.asking {world after : World ρ} {input : DispatcherInput}
    (dispatched : Dispatched world input after)
    (asking : after.dispatcher.control = .askingAccountInfo)
    : after.dispatcher.cachedAccountInfo = none := by
  rcases dispatched.answers with silent | rfl | ⟨-, result, rfl⟩
  · exact absurd asking silent.2
  · simp only [handleCmd] at asking ⊢
    split at asking
    · simp [World.reply] at asking
    · next none => exact none
  · cases result <;> simp [World.accountInfoLoaded, World.reply] at asking

theorem Linked.step {platform : Platform} {format : RecordFormat ρ} {world after : World ρ}
    {input : WorldInput ρ} (stepped : world.step platform format input = some after)
    (linked : Linked world)
    : Linked after := by
  obtain ⟨spawned, cached⟩ := linked.change (step_change stepped)
  refine ⟨spawned, cached, fun asking => ?_⟩
  cases step_cases stepped with
  | dispatched dispatched => exact dispatched.asking asking
  | hungUp first rest => simp [goTo] at asking
  | _ => exact linked.asking asking

/-- A freshly spawned task is attached. -/
theorem attached_spawnManagerTask (world : World ρ)
    : world.spawnManagerTask.attached = true := by
  simp [attached, spawnManagerTask, Task.hasExited]

/-- An answer from the cache changes nothing about the task, and one from the loaded
registration spawns a task, as there was no handle while nothing was cached.
-/
theorem Linked.attached_iff {world after : World ρ} {input : DispatcherInput}
    {info : AccountInfoData} (linked : Linked world)
    (dispatched : Dispatched world input after)
    (answers : .accountInfo (.ok info) ∈ after.dispatcher.outbox.map Emit.event)
    (fresh : .accountInfo (.ok info) ∉ world.dispatcher.outbox.map Emit.event)
    : after.attached = true
      ↔ world.dispatcher.cachedAccountInfo = none ∨ world.attached = true := by
  rcases dispatched.answers with silent | rfl | ⟨asking, result, rfl⟩
  · exact absurd (silent.1 info answers) fresh
  · cases cached : world.dispatcher.cachedAccountInfo with
    | none =>
        simp only [handleCmd, cached] at answers
        exact absurd answers fresh
    | some info' =>
        have same : (world.handleCmd .getAccountInfo).attached = world.attached := by
          simp [handleCmd, cached, attached, World.reply]
        simp [same]
  · have empty := linked.asking asking
    have free : world.dispatcher.managerOps = none := by
      cases held : world.dispatcher.managerOps with
      | none => rfl
      | some index =>
          have cached := linked.cached (by rw [held]; rfl)
          simp [empty] at cached
    cases result with
    | error message =>
        simp only [accountInfoLoaded, World.reply, List.map_append, List.map_cons,
          List.map_nil, List.mem_append, List.mem_singleton] at answers
        rcases answers with earlier | other
        · exact absurd earlier fresh
        · cases other
    | ok info' =>
        refine ⟨fun _ => .inl empty, fun _ => ?_⟩
        simp only [accountInfoLoaded, free, Option.isNone_none, if_true]
        exact attached_spawnManagerTask _

end World

/-- In every run of the worker, an `AccountInfo(Ok)` answer leaves a live task attached that
takes the next op, exactly if the account was not answered from the cache or the task
attached so far is still live.
-/
theorem account_info_usable_iff (platform : Platform) (format : RecordFormat ρ)
    (inner : InnerBackend) (inputs : List (WorldInput ρ)) (world after : World ρ)
    (input : DispatcherInput) (info : AccountInfoData)
    (reached : Runs.run? (World.step platform format) (.start inner) inputs = some world)
    (stepped : world.step platform format (.dispatcher input) = some after)
    (answers : .accountInfo (.ok info) ∈ after.dispatcher.outbox.map Emit.event)
    (fresh : .accountInfo (.ok info) ∉ world.dispatcher.outbox.map Emit.event)
    : after.attached = true ∧ (∀ op, after.handsOn op)
      ↔ world.dispatcher.cachedAccountInfo = none ∨ world.attached = true := by
  have linked : World.Linked world :=
    Runs.run?_invariant (fun _ _ _ => World.Linked.step) reached
      ⟨fun _ held => (by cases held), fun held => (by cases held), fun _ => rfl⟩
  obtain ⟨dispatched⟩ := World.step_cases stepped
  rw [← linked.attached_iff dispatched answers fresh]
  exact ⟨fun usable => usable.1, fun live => ⟨live, World.handsOn_of_attached live⟩⟩

/-- The server ends the receive stream with 4409 and the task returns. The account is still
answered from the cache, and the `StartReceive` that follows is refused.
-/
theorem account_info_of_ended_task
    : let info : AccountInfoData := ⟨"xas", "aci", "phone"⟩
      let inputs : List (WorldInput UInt8) :=
        [.dispatcher (.loaded (.ok info)), .dispatcherDelivers, .dispatcher .adopt,
          .dispatcher (.cmd .startReceive), .dispatcher .forward,
          .manager 0 (.wake 0 .insertion), .manager 0 .recv, .manager 0 (.wake 0 .insertion),
          .manager 0 (.opened (.error "HTTP 409") (some 4409)), .managerDelivers 0,
          .manager 0 .proceed, .dispatcher (.cmd .getAccountInfo)]
      let next : List (WorldInput UInt8) :=
        [.dispatcherDelivers, .dispatcher (.cmd .startReceive), .dispatcher .forward]
      ∃ world after,
        Runs.run? (World.step (.knowing ⟨1⟩) .oneByte) (.start { map := ∅ }) inputs
          = some world
        ∧ world.dispatcher.outbox.map Emit.event = [.accountInfo (.ok info)]
        ∧ world.attached = false
        ∧ Runs.run? (World.step (.knowing ⟨1⟩) .oneByte) world next = some after
        ∧ after.dispatcher.outbox.map Emit.event = [.receiveError "manager task died"] := by
  refine ⟨_, _, rfl, rfl, rfl, rfl, rfl⟩

/-- The account is answered from the cache while its task is parked. -/
theorem account_info_usable_parked
    : let info : AccountInfoData := ⟨"xas", "aci", "phone"⟩
      let inputs : List (WorldInput UInt8) :=
        [.dispatcher (.loaded (.ok info)), .dispatcherDelivers, .dispatcher .adopt,
          .manager 0 (.wake 0 .insertion)]
      ∃ world after,
        Runs.run? (World.step (.knowing ⟨1⟩) .oneByte) (.start { map := ∅ }) inputs
          = some world
        ∧ world.step (.knowing ⟨1⟩) .oneByte (.dispatcher (.cmd .getAccountInfo)) = some after
        ∧ after.attached = true ∧ (∀ op, after.handsOn op) := by
  intro info inputs
  refine ⟨_, _, rfl, rfl, ?_⟩
  exact (account_info_usable_iff (.knowing ⟨1⟩) .oneByte { map := ∅ } inputs _ _
    (.cmd .getAccountInfo) info rfl rfl (List.mem_singleton.mpr rfl) List.not_mem_nil).mpr
    (.inr rfl)

end XousAppSignal.Worker
