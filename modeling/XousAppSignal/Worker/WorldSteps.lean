import XousAppSignal.Worker.Dispatcher

/-! What one step of the worker can do, said once: a case for each branch of the dispatcher,
and on top of it a case for each kind of turn. Facts about runs of the worker are derived from
these cases.
-/

namespace XousAppSignal.Worker

open Store (RecordFormat TraitCall)

variable {ρ : Type}

/-- The op for the manager task that a command carries. -/
def Cmd.op? : Cmd → Option WorkerOp
  | .startReceive => some .startReceive
  | .sendMessage recipient body timestamp => some (.send ⟨recipient, body, timestamp⟩)
  | .syncContacts => some .syncContacts
  | .resolveUsername username => some (.resolveUsername username)
  | _ => none

namespace World

/-- A step of the dispatcher by the branch it takes. -/
inductive Dispatched (world : World ρ) : DispatcherInput → World ρ → Prop where
  | commandWhileLinking (cancelled : Bool) (cmd : Cmd)
      (control : world.dispatcher.control = .linking cancelled)
      : Dispatched world (.cmd cmd) (world.linkingCmd .linking cancelled cmd)
  | commandWhileEnding (cancelled : Bool) (linked : Option AccountInfoData) (cmd : Cmd)
      (control : world.dispatcher.control = .linkEnding cancelled linked)
      (waiting : world.dispatcher.outbox ≠ [])
      : Dispatched world (.cmd cmd)
          (world.linkingCmd (fun cancelled => .linkEnding cancelled linked) cancelled cmd)
  | closed : Dispatched world .cmdClosed (world.goTo .stopped)
  | cancelledWhileLinking (control : world.dispatcher.control = .linking true)
      : Dispatched world .linkCancelled world.cancelLink
  | cancelledWhileEnding (linked : Option AccountInfoData)
      (control : world.dispatcher.control = .linkEnding true linked)
      (waiting : world.dispatcher.outbox ≠ [])
      : Dispatched world .linkCancelled world.cancelLink
  | registrationLoaded (attempts : Nat) (result : Except String AccountInfoData)
      (control : world.dispatcher.control = .loading attempts)
      (taken : world.dispatcher.outbox = [])
      : Dispatched world (.loaded result) (world.registrationLoaded attempts result)
  | adopted (info : AccountInfoData) (control : world.dispatcher.control = .adopting info)
      (taken : world.dispatcher.outbox = [])
      : Dispatched world .adopt (world.adopt info)
  | command (cmd : Cmd) (control : world.dispatcher.control = .ready)
      (taken : world.dispatcher.outbox = [])
      : Dispatched world (.cmd cmd) (world.handleCmd cmd)
  | whoami (answer : Except String String)
      (control : world.dispatcher.control = .askingWhoami)
      (taken : world.dispatcher.outbox = [])
      : Dispatched world (.whoami answer)
          (world.reply { event := .whoami answer, vital := true } .ready)
  | accountInfoLoaded (result : Except String AccountInfoData)
      (control : world.dispatcher.control = .askingAccountInfo)
      (taken : world.dispatcher.outbox = [])
      : Dispatched world (.loaded result) (world.accountInfoLoaded result)
  | forwarded (op : WorkerOp) (after : World ρ)
      (control : world.dispatcher.control = .forwarding op)
      (taken : world.dispatcher.outbox = []) (forwarded : world.forward op = some after)
      : Dispatched world .forward after
  | linkUrl (cancelled : Bool) (url : String)
      (control : world.dispatcher.control = .linking cancelled)
      (taken : world.dispatcher.outbox = [])
      : Dispatched world (.linkUrl url)
          (world.reply { event := .linkUrl url } (.linking cancelled))
  | linkEnded (cancelled : Bool) (result : Except String AccountInfoData)
      (control : world.dispatcher.control = .linking cancelled)
      (taken : world.dispatcher.outbox = [])
      : Dispatched world (.linked result) (world.linkEnded cancelled result)
  | linkReturned (cancelled : Bool) (linked : Option AccountInfoData)
      (control : world.dispatcher.control = .linkEnding cancelled linked)
      (taken : world.dispatcher.outbox = [])
      : Dispatched world .linkReturned (world.linkReturned linked)
  | stopped (control : world.dispatcher.control = .stopping)
      (taken : world.dispatcher.outbox = [])
      : Dispatched world .stop (world.goTo .stopped)

/-- Every step of the dispatcher takes one of the listed branches. -/
theorem dispatch_cases {world after : World ρ} {input : DispatcherInput}
    (stepped : world.dispatch input = some after)
    : Dispatched world input after := by
  unfold dispatch at stepped
  split at stepped
  · next cancelled cmd control =>
      cases stepped
      exact .commandWhileLinking cancelled cmd control
  · cases stepped
    exact .closed
  · next control =>
      cases stepped
      exact .cancelledWhileLinking control
  · next cancelled linked cmd control =>
      split at stepped
      · cases stepped
      · next waiting =>
          cases stepped
          exact .commandWhileEnding cancelled linked cmd control (by simpa using waiting)
  · split at stepped
    · cases stepped
    · cases stepped
      exact .closed
  · next linked control =>
      split at stepped
      · cases stepped
      · next waiting =>
          cases stepped
          exact .cancelledWhileEnding linked control (by simpa using waiting)
  · split at stepped
    · cases stepped
    · next empty =>
        have taken : world.dispatcher.outbox = [] := by simpa using empty
        split at stepped
        case h_7 op control _ _ _ _ _ _ => exact .forwarded op after control taken stepped
        all_goals cases stepped
        case h_1 attempts result control _ _ _ _ _ _ =>
          exact .registrationLoaded attempts result control taken
        case h_2 info control _ _ _ _ _ _ => exact .adopted info control taken
        case h_3 cmd control _ _ _ _ _ _ => exact .command cmd control taken
        case h_4 => exact .closed
        case h_5 answer control _ _ _ _ _ _ => exact .whoami answer control taken
        case h_6 result control _ _ _ _ _ _ => exact .accountInfoLoaded result control taken
        case h_8 cancelled url control _ _ _ _ _ _ => exact .linkUrl cancelled url control taken
        case h_9 cancelled result control _ _ _ _ _ _ =>
          exact .linkEnded cancelled result control taken
        case h_10 cancelled linked control _ _ _ _ _ _ =>
          exact .linkReturned cancelled linked control taken
        case h_11 control _ _ _ _ _ _ => exact .stopped control taken

/-- A command taken up in the main loop, by what it comes to. -/
inductive Handled (world : World ρ) : Cmd → World ρ → Prop where
  | greeted : Handled world .hello (world.reply { event := .pong, vital := true } .ready)
  | asksWhoami : Handled world .getWhoami (world.goTo .askingWhoami)
  | linkRefused (deviceName : String)
      : Handled world (.linkDevice deviceName)
          (World.reply { event := .staleStoreDetected, vital := true } .ready
            { world with store := world.store.hasAccountState.2 })
  | linkStarted (deviceName : String)
      : Handled world (.linkDevice deviceName)
          (World.goTo (.linking false) { world with store := world.store.hasAccountState.2 })
  | nothingToCancel : Handled world .linkCancel world
  | accountCached (info : AccountInfoData)
      (cached : world.dispatcher.cachedAccountInfo = some info)
      : Handled world .getAccountInfo
          (world.reply { event := .accountInfo (.ok info), vital := true } .ready)
  | accountAsked (unknown : world.dispatcher.cachedAccountInfo = none)
      : Handled world .getAccountInfo (world.goTo .askingAccountInfo)
  | opRefused (cmd : Cmd) (op : WorkerOp) (carried : cmd.op? = some op)
      : Handled world cmd
          (world.reply { event := op.refused "not linked yet — send Cmd::LinkDevice first" }
            .ready)
  | opForwarded (cmd : Cmd) (op : WorkerOp) (carried : cmd.op? = some op)
      : Handled world cmd (world.goTo (.forwarding op))
  | loggedOut : Handled world .logout world.logout
  | stopping : Handled world .shutdown (world.reply { event := .shuttingDown } .stopping)

theorem forwardOp_cases {cmd : Cmd} {op : WorkerOp} (carried : cmd.op? = some op)
    (world : World ρ)
    : Handled world cmd (world.forwardOp op) := by
  unfold forwardOp
  split
  · exact .opRefused cmd op carried
  · exact .opForwarded cmd op carried

/-- Every command comes to one of these. -/
theorem handleCmd_cases (cmd : Cmd) (world : World ρ)
    : Handled world cmd (world.handleCmd cmd) := by
  cases cmd with
  | hello => exact .greeted
  | getWhoami => exact .asksWhoami
  | linkDevice deviceName =>
      simp only [handleCmd, linkDevice]
      split
      · exact .linkRefused deviceName
      · exact .linkStarted deviceName
  | linkCancel => exact .nothingToCancel
  | getAccountInfo =>
      simp only [handleCmd]
      split
      · next info cached => exact .accountCached info cached
      · next unknown => exact .accountAsked unknown
  | startReceive => exact forwardOp_cases rfl world
  | sendMessage recipient body timestamp => exact forwardOp_cases rfl world
  | logout => exact .loggedOut
  | syncContacts => exact forwardOp_cases rfl world
  | resolveUsername username => exact forwardOp_cases rfl world
  | shutdown => exact .stopping

/-- An attempt to load the registration announces the account or only moves on. -/
theorem registrationLoaded_cases (attempts : Nat) (result : Except String AccountInfoData)
    (world : World ρ)
    : (∃ info,
        world.registrationLoaded attempts result
          = world.reply { event := .linkComplete info.deviceName info.aci info.phone }
              (.adopting info))
      ∨ ∃ control, (control = .ready ∨ control = .loading (attempts + 1))
          ∧ world.registrationLoaded attempts result = world.goTo control := by
  cases result with
  | ok info => exact .inl ⟨info, rfl⟩
  | error message =>
      right
      simp only [registrationLoaded]
      split
      · exact ⟨_, .inl rfl, rfl⟩
      · split
        · exact ⟨_, .inl rfl, rfl⟩
        · exact ⟨_, .inr rfl, rfl⟩

/-- An op goes through the handle: it is refused where the task behind it has returned, or handed
over.
-/
theorem forward_some {world after : World ρ} {op : WorkerOp}
    (forwarded : world.forward op = some after)
    : ∃ index manager,
      world.dispatcher.managerOps = some index
      ∧ world.managers[index]? = some manager
      ∧ (manager.task.hasExited = true
          ∧ after
            = World.reply { event := op.refused "manager task died" } .ready
                { world with dispatcher := { world.dispatcher with managerOps := none } }
        ∨ after
            = World.goTo .ready
                { world with
                  managers := world.managers.modify index (Manager.accept op) }) := by
  unfold forward at forwarded
  split at forwarded
  · cases forwarded
  · next index manager found =>
      obtain ⟨held, handle, reached⟩ := Option.bind_eq_some_iff.mp found
      obtain ⟨other, listed, same⟩ := Option.map_eq_some_iff.mp reached
      obtain ⟨rfl, rfl⟩ := Prod.mk.inj same
      refine ⟨held, other, handle, listed, ?_⟩
      split at forwarded
      · next ended =>
          cases forwarded
          exact .inl ⟨ended, rfl⟩
      · split at forwarded
        · cases forwarded
          exact .inr rfl
        · cases forwarded

/-- The op is either refused, as the task is gone, or handed over. -/
theorem forward_cases {world after : World ρ} {op : WorkerOp}
    (forwarded : world.forward op = some after)
    : after
        = World.reply { event := op.refused "manager task died" } .ready
            { world with dispatcher := { world.dispatcher with managerOps := none } }
      ∨ ∃ index,
          after
            = World.goTo .ready
                { world with
                  managers := world.managers.modify index (Manager.accept op) } := by
  obtain ⟨index, manager, -, -, outcome⟩ := forward_some forwarded
  exact outcome.imp And.right (⟨index, ·⟩)

/-- The event channel is as it was, and what was sent on it. -/
structure SameChannel (world after : World ρ) : Prop where
  isOpen : after.isOpen = world.isOpen
  log : after.log = world.log

theorem Handled.channel {world after : World ρ} {cmd : Cmd} (handled : Handled world cmd after)
    : SameChannel world after := by
  cases handled <;> exact ⟨rfl, rfl⟩

/-- The dispatcher sends nothing by itself: its events wait in the outbox. -/
theorem Dispatched.channel {world after : World ρ} {input : DispatcherInput}
    (dispatched : Dispatched world input after)
    : SameChannel world after := by
  cases dispatched with
  | commandWhileLinking cancelled cmd | commandWhileEnding cancelled linked cmd =>
      cases cmd <;> exact ⟨rfl, rfl⟩
  | registrationLoaded attempts result =>
      rcases registrationLoaded_cases attempts result world with
        ⟨info, moved⟩ | ⟨control, -, moved⟩ <;> exact moved ▸ ⟨rfl, rfl⟩
  | command cmd => exact (handleCmd_cases cmd world).channel
  | accountInfoLoaded result =>
      cases result with
      | error message => exact ⟨rfl, rfl⟩
      | ok info =>
          simp only [World.accountInfoLoaded]
          split <;> exact ⟨rfl, rfl⟩
  | forwarded op after control taken forwarded =>
      rcases forward_cases forwarded with rfl | ⟨index, rfl⟩ <;> exact ⟨rfl, rfl⟩
  | linkEnded cancelled result =>
      cases result <;> exact ⟨rfl, rfl⟩
  | linkReturned cancelled linked =>
      cases linked <;> exact ⟨rfl, rfl⟩
  | _ => exact ⟨rfl, rfl⟩

/-- A step of the worker by whose turn it is. -/
inductive Stepped (platform : Platform) (format : RecordFormat ρ) (world : World ρ)
    : WorldInput ρ → World ρ → Prop where
  | dispatched {input : DispatcherInput} {after : World ρ}
      (dispatched : Dispatched world input after)
      : Stepped platform format world (.dispatcher input) after
  | delivered (first : Emit) (rest : List Emit)
      (queued : world.dispatcher.outbox = first :: rest) (isOpen : world.isOpen = true)
      : Stepped platform format world .dispatcherDelivers
          { world with
            dispatcher := { world.dispatcher with outbox := rest }
            log := world.log ++ [first.event] }
  | dropped (first : Emit) (rest : List Emit)
      (queued : world.dispatcher.outbox = first :: rest) (closed : world.isOpen = false)
      : Stepped platform format world .dispatcherDelivers
          { world with dispatcher := { world.dispatcher with outbox := rest } }
  | hungUp (first : Emit) (rest : List Emit)
      (queued : world.dispatcher.outbox = first :: rest) (closed : world.isOpen = false)
      : Stepped platform format world .dispatcherDelivers
          (World.goTo .stopped
            { world with dispatcher := { world.dispatcher with outbox := rest } })
  | advanced (index : Nat) (input : TaskInput) (manager : Manager) (task : Task)
      (found : world.managers[index]? = some manager)
      (agrees : input.agrees world.store = true)
      (stepped : manager.task.step platform input = some task)
      : Stepped platform format world (.manager index input)
          { world with
            managers := world.managers.set index { manager with task }
            store := input.onStore platform format manager.task.control world.store }
  | managerDelivered (index : Nat) (manager : Manager) (event : Option Event) (task : Task)
      (found : world.managers[index]? = some manager)
      (taken : manager.task.deliver world.isOpen = some (event, task))
      : Stepped platform format world (.managerDelivers index)
          { world with
            managers :=
              world.managers.set index
                { manager with task, sent := manager.sent ++ event.toList }
            log := world.log ++ event.toList }
  | library (call : TraitCall ρ)
      : Stepped platform format world (.library call)
          { world with store := call.perform format world.store }
  | uiGone : Stepped platform format world .uiGone { world with isOpen := false }

/-- Every step of the worker is one of the listed turns. -/
theorem step_cases {platform : Platform} {format : RecordFormat ρ} {world after : World ρ}
    {input : WorldInput ρ} (stepped : world.step platform format input = some after)
    : Stepped platform format world input after := by
  unfold step at stepped
  split at stepped
  · cases stepped
  · cases input with
    | dispatcher input => exact .dispatched (dispatch_cases stepped)
    | dispatcherDelivers =>
        change world.dispatcherDelivers = some after at stepped
        unfold World.dispatcherDelivers at stepped
        split at stepped
        · cases stepped
        · next first rest queued =>
            dsimp only at stepped
            split at stepped
            · next isOpen =>
                cases stepped
                exact .delivered first rest queued isOpen
            · next closed =>
                have closed : world.isOpen = false := by simpa using closed
                split at stepped
                · cases stepped
                  exact .hungUp first rest queued closed
                · cases stepped
                  exact .dropped first rest queued closed
    | manager index input =>
        change world.managerAdvances platform format index input = some after at stepped
        unfold managerAdvances at stepped
        split at stepped
        · cases stepped
        · next manager found =>
            split at stepped
            · next agrees =>
                obtain ⟨next, advanced, rfl⟩ := Option.map_eq_some_iff.mp stepped
                obtain ⟨task, moved, rfl⟩ := Option.map_eq_some_iff.mp advanced
                exact .advanced index input manager task found agrees moved
            · cases stepped
    | managerDelivers index =>
        change world.managerDelivers index = some after at stepped
        unfold managerDelivers at stepped
        split at stepped
        · cases stepped
        · next manager found =>
            obtain ⟨⟨event, next⟩, delivered, rfl⟩ := Option.map_eq_some_iff.mp stepped
            obtain ⟨⟨event', task⟩, taken, same⟩ := Option.map_eq_some_iff.mp delivered
            cases same
            exact .managerDelivered index manager event task found taken
    | library call =>
        cases stepped
        exact .library call
    | uiGone =>
        cases stepped
        exact .uiGone

/-- The log only grows. -/
theorem Stepped.log {platform : Platform} {format : RecordFormat ρ} {world after : World ρ}
    {input : WorldInput ρ} (stepped : Stepped platform format world input after)
    : ∃ sent, after.log = world.log ++ sent := by
  cases stepped with
  | dispatched dispatched => exact ⟨[], by rw [dispatched.channel.log, List.append_nil]⟩
  | delivered first rest => exact ⟨[first.event], rfl⟩
  | managerDelivered index manager event task => exact ⟨event.toList, rfl⟩
  | _ => exact ⟨[], (List.append_nil _).symm⟩

end World

end XousAppSignal.Worker
