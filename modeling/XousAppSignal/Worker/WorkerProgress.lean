import XousAppSignal.Worker.BatchOwnership
import XousAppSignal.Worker.OpChannels
import XousAppSignal.Worker.TaskProgress

/-! The worker comes to rest. The dispatcher waits for a task only while the task's op channel
is full, and a task waits for nobody: so from every state, however the awaited calls end, the
worker gets back to its main loop with all ops worked off.
-/

namespace XousAppSignal.Worker

open Runs (Leads CanEnd)
open Store (InnerBackend RecordFormat)

variable {ρ : Type}

/-- What the dispatcher waits for besides commands. -/
inductive DispatcherAwait where
  | loaded
  | adopt
  | whoami
  | forward
  | linkUrl
  | linked
  | linkCancelled
  | linkReturned
  | stop

def DispatcherInput.await : DispatcherInput → Option DispatcherAwait
  | .loaded _ => some .loaded
  | .adopt => some .adopt
  | .whoami _ => some .whoami
  | .cmd _ => none
  | .cmdClosed => none
  | .forward => some .forward
  | .linkUrl _ => some .linkUrl
  | .linked _ => some .linked
  | .linkCancelled => some .linkCancelled
  | .linkReturned => some .linkReturned
  | .stop => some .stop

/-- What the worker waits for by itself. -/
inductive WorldAwait where
  | dispatcher (await : DispatcherAwait)
  | delivery
  | task (index : Nat) (await : TaskAwait)

def WorldInput.await : WorldInput ρ → Option WorldAwait
  | .dispatcher input => input.await.map .dispatcher
  | .dispatcherDelivers => some .delivery
  | .manager index input => some (.task index input.await)
  | .managerDelivers index => some (.task index .delivery)
  | .library _ => none
  | .uiGone => none

/-- How the await of the dispatcher may end. A link that was cancelled is not waited for. -/
def DispatcherControl.answer : DispatcherControl → DispatcherInput
  | .loading _ => .loaded (.error "")
  | .adopting _ => .adopt
  | .ready => .stop
  | .askingWhoami => .whoami (.error "")
  | .askingAccountInfo => .loaded (.error "")
  | .forwarding _ => .forward
  | .linking true => .linkCancelled
  | .linking false => .linked (.error "")
  | .linkEnding _ _ => .linkReturned
  | .stopping => .stop
  | .stopped => .stop

theorem DispatcherControl.answer_await (control : DispatcherControl)
    : ∃ await, control.answer.await = some await := by
  cases control with
  | linking cancelled => cases cancelled <;> exact ⟨_, rfl⟩
  | _ => exact ⟨_, rfl⟩

namespace World

variable {platform : Platform} {format : RecordFormat ρ} {world : World ρ}

-----------------------------------------------------------------------------------------
-- A task comes to rest beside the others
-----------------------------------------------------------------------------------------

/-- Only this task has moved, and it is here now. -/
structure Beside (index : Nat) (world : World ρ) (task : Task) (after : World ρ) : Prop where
  dispatcher : after.dispatcher = world.dispatcher
  size : after.managers.length = world.managers.length
  others : ∀ other, other ≠ index → after.managers[other]? = world.managers[other]?
  found : ∃ manager, after.managers[index]? = some manager ∧ manager.task = task

theorem Beside.set {index : Nat} {task : Task} {next : World ρ} {manager : Manager}
    (beside : Beside index world task next) {after : World ρ} (moved : Manager)
    (found : next.managers[index]? = some manager)
    (managers : after.managers = next.managers.set index moved)
    (dispatcher : after.dispatcher = next.dispatcher)
    : Beside index world moved.task after where
  dispatcher := dispatcher.trans beside.dispatcher
  size := by rw [managers, List.length_set, beside.size]
  others other apart := by
    rw [managers, List.getElem?_set_ne (Ne.symm apart), beside.others other apart]
  found := by
    refine ⟨moved, ?_, rfl⟩
    rw [managers, List.getElem?_set_self (List.getElem?_eq_some_iff.mp found).1]

theorem deliver_isSome (task : Task) (isOpen : Bool)
    : (task.deliver isOpen).isSome = !task.outbox.isEmpty := by
  unfold Task.deliver
  cases task.outbox with
  | nil => rfl
  | cons first rest =>
      dsimp only
      repeat' split
      all_goals rfl

/-- The store answers `begin_send_batch` one way or the other, and the task takes both. -/
theorem advance_begun (task : Task) (result result' : Except Store.Error Unit)
    : (task.advance platform (.begun result)).isSome
      = (task.advance platform (.begun result')).isSome := by
  unfold Task.advance
  cases task.control with
  | attempting send attempt => cases result <;> cases result' <;> rfl
  | _ => rfl

/-- Some answer to an await of the task is one that the store can give. -/
theorem step_agreed {task : Task} {input : TaskInput} (store : Store.StoreOp.Buffered ρ)
    (stepped : (task.step platform input).isSome = true)
    : ∃ agreed : TaskInput, agreed.await = input.await ∧ agreed.agrees store = true
        ∧ (task.step platform agreed).isSome = true := by
  cases input with
  | begun result =>
      refine ⟨.begun store.beginSendBatch.1, rfl, ?_, ?_⟩
      · cases answer : store.beginSendBatch.1 with
        | ok => simp [TaskInput.agrees, answer, Except.isOk, Except.toBool]
        | error e => simp [TaskInput.agrees, answer]
      · unfold Task.step at stepped ⊢
        split
        · next taken =>
            rw [if_pos taken] at stepped
            exact (advance_begun task _ result).trans stepped
        · next waiting =>
            rw [if_neg waiting] at stepped
            cases stepped
  | _ => exact ⟨_, rfl, rfl, stepped⟩

/-- A turn that the task can take it can take in the worker. -/
theorem canEnd_task {index : Nat} {task : Task} {next : World ρ} {await : TaskAwait}
    (running : world.running = true) (beside : Beside index world task next)
    (ends : CanEnd (Task.turn platform) TaskTurn.await task await)
    : CanEnd (World.step platform format) WorldInput.await next (.task index await) := by
  obtain ⟨turn, moved, answers, stepped⟩ := ends
  obtain ⟨manager, found, rfl⟩ := beside.found
  have running : next.running = true := by
    rw [World.running, beside.dispatcher]
    exact running
  cases turn with
  | deliver isOpen =>
      obtain rfl := Option.some.inj answers
      have waiting : (manager.task.deliver next.isOpen).isSome = true := by
        obtain ⟨taken, delivered, -⟩ := Option.map_eq_some_iff.mp stepped
        rw [deliver_isSome, ← deliver_isSome manager.task isOpen, delivered]
        rfl
      have answers : (WorldInput.managerDelivers index : WorldInput ρ).await
          = some (.task index .delivery) := rfl
      refine Runs.canEnd_of_isSome answers ?_
      simpa only [World.step, running, Bool.not_true, Bool.false_eq_true, if_false,
        World.managerDelivers, found, Manager.deliver, Option.isSome_map] using waiting
  | advance input =>
      obtain rfl := Option.some.inj answers
      obtain ⟨agreed, same, agrees, moves⟩ :=
        step_agreed next.store (Option.isSome_iff_exists.mpr ⟨moved, stepped⟩)
      have answers : (WorldInput.manager index agreed : WorldInput ρ).await
          = some (.task index input.await) := by rw [WorldInput.await, same]
      refine Runs.canEnd_of_isSome answers ?_
      simpa only [World.step, running, Bool.not_true, Bool.false_eq_true, if_false,
        World.managerAdvances, found, agrees, if_true, Manager.advance,
        Option.isSome_map] using moves

/-- The worker takes no other turn with the task than the task takes by itself. -/
theorem follows_task {index : Nat} {task : Task} {next after : World ρ} {await : TaskAwait}
    {input : WorldInput ρ} (beside : Beside index world task next)
    (answers : input.await = some (.task index await))
    (stepped : next.step platform format input = some after)
    : ∃ turn moved, TaskTurn.await turn = some await ∧ task.turn platform turn = some moved
        ∧ Beside index world moved after := by
  obtain ⟨manager, found, rfl⟩ := beside.found
  cases step_cases stepped with
  | dispatched =>
      obtain ⟨_, _, same⟩ := Option.map_eq_some_iff.mp answers
      cases same
  | advanced other input manager' task listed agrees moved =>
      cases answers
      obtain rfl := Option.some.inj (found.symm.trans listed)
      exact ⟨.advance input, task, rfl, moved, beside.set { manager with task } found rfl rfl⟩
  | managerDelivered other manager' event task listed taken =>
      cases answers
      obtain rfl := Option.some.inj (found.symm.trans listed)
      refine ⟨.deliver next.isOpen, task, rfl, ?_, ?_⟩
      · rw [Task.turn, taken]
        rfl
      · exact beside.set { manager with task, sent := manager.sent ++ event.toList } found rfl rfl
  | _ => cases answers

/-- The task comes to rest while everything else stays as it is. -/
theorem leads_settled {index : Nat} {manager : Manager} (running : world.running = true)
    (found : world.managers[index]? = some manager)
    : Leads (World.step platform format) WorldInput.await
        (fun after => ∃ task, task.Settled ∧ Beside index world task after) world :=
  (Task.settles platform manager.task).lift (WorldAwait.task index)
    (fun _ _ _ beside => canEnd_task running beside)
    (fun _ _ _ _ _ beside => follows_task beside)
    (fun task _ beside settled => ⟨task, settled, beside⟩)
    ⟨rfl, rfl, fun _ _ => rfl, manager, found, rfl⟩

-----------------------------------------------------------------------------------------
-- The dispatcher comes back to its main loop
-----------------------------------------------------------------------------------------

/-- The dispatcher waits for the next command with all its events taken, or it has ended. -/
def Idle (world : World ρ) : Prop :=
  world.running = false ∨ world.dispatcher.control = .ready ∧ world.dispatcher.outbox = []

/-- The dispatcher gets there. -/
def Returns (platform : Platform) (format : RecordFormat ρ) (world : World ρ) : Prop :=
  Leads (World.step platform format) WorldInput.await Idle world

theorem returns_ended (ended : world.running = false) : Returns platform format world :=
  .there (.inl ended)

/-- The world after the event channel took, or dropped, what the dispatcher had sent. -/
def drained (log : List Event) (world : World ρ) : World ρ :=
  { world with dispatcher := { world.dispatcher with outbox := [] }, log }

/-- The events go out first, by induction on them. -/
theorem returns_of_drained (later : ∀ log, Returns platform format (world.drained log))
    : Returns platform format world := by
  by_cases ended : world.running = false
  · exact returns_ended ended
  have running : world.running = true := by simpa using ended
  generalize waiting : world.dispatcher.outbox = emits
  induction emits generalizing world with
  | nil =>
      have same := later world.log
      rw [drained, ← waiting] at same
      exact same
  | cons first rest ih =>
      have ends : (world.step platform format .dispatcherDelivers).isSome = true := by
        simp only [World.step, running, Bool.not_true, Bool.false_eq_true, if_false,
          World.dispatcherDelivers, waiting]
        repeat' split
        all_goals rfl
      have answers : (WorldInput.dispatcherDelivers : WorldInput ρ).await = some .delivery := rfl
      refine .turn .delivery (Runs.canEnd_of_isSome answers ends) ?_
      intro input after answers stepped
      cases step_cases stepped with
      | dispatched =>
          obtain ⟨_, _, same⟩ := Option.map_eq_some_iff.mp answers
          cases same
      | delivered first rest queued | dropped first rest queued =>
          obtain ⟨rfl, rfl⟩ := List.cons.inj (waiting.symm.trans queued)
          exact ih (fun log => later log) ended running rfl
      | hungUp => exact returns_ended rfl
      | advanced | managerDelivered => cases answers
      | _ => cases answers

/-- A dispatcher that is not idle has an await that can end, if an op to forward finds room. -/
theorem dispatch_answer (world : World ρ) (taken : world.dispatcher.outbox = [])
    (room : ∀ op, world.dispatcher.control = .forwarding op → (world.forward op).isSome = true)
    : world.Idle ∨ (world.dispatch world.dispatcher.control.answer).isSome = true := by
  unfold dispatch
  cases control : world.dispatcher.control with
  | ready => exact .inl (.inr ⟨control, taken⟩)
  | stopped => exact .inl (.inl (by rw [World.running, control]))
  | forwarding op =>
      simp only [DispatcherControl.answer, taken]
      exact .inr (room op control)
  | linking cancelled => cases cancelled <;> simp [DispatcherControl.answer, taken]
  | _ => simp [DispatcherControl.answer, taken]

/-- The await of the dispatcher ends, however it does. -/
theorem returns_of_dispatch
    (room
      : ∀ log op, world.dispatcher.control = .forwarding op
          → ((world.drained log).forward op).isSome = true)
    (next
      : ∀ log input after, input.await = world.dispatcher.control.answer.await
          → Dispatched (world.drained log) input after → Returns platform format after)
    : Returns platform format world := by
  refine returns_of_drained fun log => ?_
  by_cases ended : (world.drained log).running = false
  · exact returns_ended ended
  rcases dispatch_answer (world.drained log) rfl (room log) with idle | ends
  · exact .there idle
  · have running : (world.drained log).running = true := by simpa using ended
    obtain ⟨await, awaited⟩ := world.dispatcher.control.answer_await
    have answers : (WorldInput.dispatcher world.dispatcher.control.answer : WorldInput ρ).await
        = some (.dispatcher await) := by rw [WorldInput.await, awaited, Option.map_some]
    have ends : ((world.drained log).dispatch world.dispatcher.control.answer).isSome = true := ends
    refine .turn _ (Runs.canEnd_of_isSome answers ?_) fun input after same stepped => ?_
    · simpa only [World.step, running, Bool.not_true, Bool.false_eq_true, if_false] using ends
    · cases step_cases stepped with
      | dispatched dispatched =>
          obtain ⟨other, ended, same⟩ := Option.map_eq_some_iff.mp same
          cases same
          exact next log _ after (ended.trans awaited.symm) dispatched
      | _ => cases same

theorem returns_ready (control : world.dispatcher.control = .ready)
    : Returns platform format world :=
  returns_of_drained fun _ => .there (.inr ⟨control, rfl⟩)

theorem returns_stopping (control : world.dispatcher.control = .stopping)
    : Returns platform format world := by
  refine returns_of_dispatch (by simp [control]) fun log input after same dispatched => ?_
  cases dispatched with
  | stopped => exact returns_ended rfl
  | _ => simp_all [drained, DispatcherControl.answer, DispatcherInput.await]

theorem returns_adopting {info : AccountInfoData} (control : world.dispatcher.control = .adopting info)
    : Returns platform format world := by
  refine returns_of_dispatch (by simp [control]) fun log input after same dispatched => ?_
  cases dispatched with
  | adopted => exact returns_ready rfl
  | _ => simp_all [drained, DispatcherControl.answer, DispatcherInput.await]

/-- Loading the registration is given up in the end, by induction on the attempts left. -/
theorem returns_loading {attempts : Nat} (control : world.dispatcher.control = .loading attempts)
    : Returns platform format world := by
  induction allowed : loadMaxAttempts - attempts using Nat.strong_induction_on
    generalizing world attempts with
  | _ allowed ih =>
      refine returns_of_dispatch (by simp [control]) fun log input after same dispatched => ?_
      cases dispatched with
      | registrationLoaded attempts result control' =>
          cases control.symm.trans control'
          cases result with
          | ok info => exact returns_adopting rfl
          | error message =>
              simp only [registrationLoaded]
              split
              · exact returns_ready rfl
              · split
                · exact returns_ready rfl
                · next more => exact ih _ (by omega) rfl rfl
      | _ => simp_all [drained, DispatcherControl.answer, DispatcherInput.await]

theorem returns_askingWhoami (control : world.dispatcher.control = .askingWhoami)
    : Returns platform format world := by
  refine returns_of_dispatch (by simp [control]) fun log input after same dispatched => ?_
  cases dispatched with
  | whoami => exact returns_ready rfl
  | _ => simp_all [drained, DispatcherControl.answer, DispatcherInput.await]

theorem returns_askingAccountInfo (control : world.dispatcher.control = .askingAccountInfo)
    : Returns platform format world := by
  refine returns_of_dispatch (by simp [control]) fun log input after same dispatched => ?_
  cases dispatched with
  | accountInfoLoaded result => cases result <;> exact returns_ready rfl
  | _ => simp_all [drained, DispatcherControl.answer, DispatcherInput.await]

theorem returns_linkEnding {cancelled : Bool} {linked : Option AccountInfoData}
    (control : world.dispatcher.control = .linkEnding cancelled linked)
    : Returns platform format world := by
  refine returns_of_dispatch (by simp [control]) fun log input after same dispatched => ?_
  cases dispatched with
  | linkReturned cancelled linked => cases linked <;> exact returns_ready rfl
  | _ => simp_all [drained, DispatcherControl.answer, DispatcherInput.await]

theorem returns_linking {cancelled : Bool} (control : world.dispatcher.control = .linking cancelled)
    : Returns platform format world := by
  refine returns_of_dispatch (by simp [control]) fun log input after same dispatched => ?_
  cases cancelled <;> cases dispatched with
  | cancelledWhileLinking => exact returns_linkEnding rfl
  | linkEnded cancelled result => cases result <;> exact returns_linkEnding rfl
  | _ => simp_all [drained, DispatcherControl.answer, DispatcherInput.await]

/-- With room for the op, or without the task, the dispatcher is done with it. -/
theorem returns_forwarding_of {op : WorkerOp} (control : world.dispatcher.control = .forwarding op)
    (room : ∀ log, ((world.drained log).forward op).isSome = true)
    : Returns platform format world := by
  refine returns_of_dispatch ?_ fun log input after same dispatched => ?_
  · rintro log op' same
    cases control.symm.trans same
    exact room log
  · cases dispatched with
    | forwarded op after control' taken forwarded =>
        rcases forward_cases forwarded with rfl | ⟨index, rfl⟩ <;> exact returns_ready rfl
    | _ => simp_all [drained, DispatcherControl.answer, DispatcherInput.await]

/-- A task at rest takes the op or is gone. -/
theorem forward_settled {index : Nat} {manager : Manager} (op : WorkerOp)
    (held : world.dispatcher.managerOps = some index)
    (found : world.managers[index]? = some manager) (settled : manager.task.Settled)
    : (world.forward op).isSome = true := by
  unfold forward
  simp only [held, found, Option.bind_some, Option.map_some]
  split
  · rfl
  · next running =>
      rcases settled with ended | ⟨isOpen, empty, -, -⟩
      · exact absurd ended running
      · have room : manager.canAccept = true := by
          simp [Manager.canAccept, isOpen, empty, running, opChannelCapacity]
        rw [if_pos room]
        rfl

/-- While the channel of the task is full, the task works it off. -/
theorem returns_forwarding {op : WorkerOp} (wired : Wired world)
    (control : world.dispatcher.control = .forwarding op)
    : Returns platform format world := by
  obtain ⟨index, held⟩ := Option.isSome_iff_exists.mp (wired.forwarding op control)
  have found := List.getElem?_eq_getElem (wired.spawned index held)
  have running : world.running = true := by rw [running, control]
  refine (leads_settled running found).andThen fun after reached => ?_
  obtain ⟨task, settled, beside⟩ := reached
  obtain ⟨manager, listed, rfl⟩ := beside.found
  rw [← beside.dispatcher] at held control
  exact returns_forwarding_of control fun log => forward_settled op held listed settled

/-- Wherever the dispatcher stands. -/
theorem Wired.returns (wired : Wired world) : Returns platform format world := by
  cases control : world.dispatcher.control with
  | loading attempts => exact returns_loading control
  | adopting info => exact returns_adopting control
  | ready => exact returns_ready control
  | askingWhoami => exact returns_askingWhoami control
  | askingAccountInfo => exact returns_askingAccountInfo control
  | forwarding op => exact returns_forwarding wired control
  | linking cancelled => exact returns_linking control
  | linkEnding cancelled linked => exact returns_linkEnding control
  | stopping => exact returns_stopping control
  | stopped => exact returns_ended (by rw [running, control])

-----------------------------------------------------------------------------------------
-- All tasks come to rest
-----------------------------------------------------------------------------------------

/-- The worker has ended, or is back in its main loop: its events are taken, no write batch is
open, and at most one task has not ended, the one the handle leads to, which waits for ops.
-/
def AtRest (world : World ρ) : Prop :=
  world.running = false
  ∨ world.dispatcher.control = .ready ∧ world.dispatcher.outbox = []
    ∧ world.isBatching = false
    ∧ ∀ index manager, world.managers[index]? = some manager
        → manager.task.hasExited = false
        → world.dispatcher.managerOps = some index ∧ manager.task.Settled

/-- The tasks below the bound are at rest. -/
def SettledBelow (bound : Nat) (world : World ρ) : Prop :=
  ∀ index manager, index < bound → world.managers[index]? = some manager → manager.task.Settled

/-- One task after the other, by induction on them. -/
theorem leads_settledBelow (ready : world.dispatcher.control = .ready) (bound : Nat)
    : Leads (World.step platform format) WorldInput.await
        (fun after => after.dispatcher = world.dispatcher
          ∧ after.managers.length = world.managers.length ∧ after.SettledBelow bound) world := by
  induction bound with
  | zero => exact .there ⟨rfl, rfl, fun _ _ below => absurd below (Nat.not_lt_zero _)⟩
  | succ bound ih =>
      refine ih.andThen fun middle reached => ?_
      obtain ⟨dispatcher, size, settled⟩ := reached
      cases found : middle.managers[bound]? with
      | none =>
          refine .there ⟨dispatcher, size, fun index manager below listed => ?_⟩
          rcases Nat.lt_succ_iff_lt_or_eq.mp below with earlier | rfl
          · exact settled index manager earlier listed
          · rw [found] at listed
            cases listed
      | some manager =>
          have running : middle.running = true := by rw [running, dispatcher, ready]
          refine (leads_settled running found).andThen fun after reached => ?_
          obtain ⟨task, rests, beside⟩ := reached
          refine .there ⟨beside.dispatcher.trans dispatcher, beside.size.trans size, ?_⟩
          intro index manager below listed
          by_cases same : index = bound
          · subst same
            obtain ⟨manager', found', rfl⟩ := beside.found
            rw [found'] at listed
            obtain rfl := Option.some.inj listed
            exact rests
          · rw [beside.others index same] at listed
            exact settled index manager (by omega) listed

/-- A task at rest holds no guard of a write batch. -/
theorem settled_free {task : Task} (settled : task.Settled) : task.control.holdsGuard = false := by
  rcases settled with ended | ⟨-, -, -, parked | pumping⟩
  · unfold Task.hasExited at ended
    split at ended
    · next exited => rw [exited]; rfl
    · cases ended
  · rw [parked]; rfl
  · rw [pumping]; rfl

theorem atRest_of_settled (wired : Wired world) (owned : world.Owned)
    (ready : world.dispatcher.control = .ready) (taken : world.dispatcher.outbox = [])
    (settled : world.SettledBelow world.managers.length)
    : world.AtRest := by
  have settled (index : Nat) (manager : Manager) (found : world.managers[index]? = some manager)
      : manager.task.Settled :=
    settled index manager (List.getElem?_eq_some_iff.mp found).1 found
  refine .inr ⟨ready, taken, ?_, fun index manager found running => ?_⟩
  · by_contra opened
    obtain ⟨index, manager, found, holds⟩ := owned.holder (by simpa using opened)
    rw [Manager.holdsGuard, settled_free (settled index manager found)] at holds
    cases holds
  · have rests := settled index manager found
    refine ⟨wired.served index manager found ?_, rests⟩
    rcases rests with ended | ⟨isOpen, -⟩
    · rw [ended] at running
      cases running
    · simp [Manager.isServed, isOpen, running]

/-- What holds of every world that the worker can get into, as far as its rest depends on it. -/
structure Sound (world : World ρ) : Prop where
  wired : world.Wired
  owned : world.Owned

theorem sound_start (inner : InnerBackend) : Sound (.start inner : World ρ) :=
  ⟨wired_start inner, owned_start inner⟩

theorem Sound.step {after : World ρ} {input : WorldInput ρ}
    (stepped : world.step platform format input = some after) (sound : Sound world)
    : Sound after :=
  ⟨sound.wired.step stepped, sound.owned.step stepped⟩

/-- First the dispatcher, then the tasks. -/
theorem Sound.rests (sound : Sound world)
    : Leads (World.step platform format) WorldInput.await AtRest world := by
  have stable (state : World ρ) (input : WorldInput ρ) (next : World ρ) (await : WorldAwait)
      (_ : input.await = some await) (stepped : state.step platform format input = some next)
      (sound : Sound state) :=
    sound.step stepped
  refine (sound.wired.returns.within stable sound).andThen fun state reached => ?_
  obtain ⟨idle, sound⟩ := reached
  rcases idle with ended | ⟨ready, taken⟩
  · exact .there (.inl ended)
  · have settles :=
      @leads_settledBelow ρ platform format state ready state.managers.length
    refine (settles.within stable sound).andThen fun last reached => ?_
    obtain ⟨kept, sound⟩ := reached
    obtain ⟨dispatcher, size, settled⟩ := kept
    rw [← dispatcher] at ready taken
    exact .there (atRest_of_settled sound.wired sound.owned ready taken (size ▸ settled))

end World

/-- From every state that the worker can get into, it comes to rest: some order of ending what
it waits for takes it there, however the server, the store and the event channel answer, and
without a further command.
-/
theorem worker_comes_to_rest (platform : Platform) (format : RecordFormat ρ)
    (inner : InnerBackend) (inputs : List (WorldInput ρ)) (world : World ρ)
    (reached : Runs.run? (World.step platform format) (.start inner) inputs = some world)
    : Leads (World.step platform format) WorldInput.await World.AtRest world :=
  (Runs.run?_invariant (fun _ _ _ => World.Sound.step) reached (World.sound_start inner)).rests

/-- The task sends one message while the next eight fill its channel, and the dispatcher waits
for room for one more.
-/
theorem worker_comes_to_rest_full
    : let send : WorldInput UInt8 := .dispatcher (.cmd (.sendMessage "aci" "hi" 7))
      let inputs : List (WorldInput UInt8) :=
        [.dispatcher (.loaded (.ok ⟨"xas", "aci", "phone"⟩)), .dispatcherDelivers,
          .dispatcher .adopt, send, .dispatcher .forward, .manager 0 (.wake 0 .insertion),
          .manager 0 .recv]
        ++ (List.replicate 8 [send, .dispatcher .forward]).flatten ++ [send]
      ∃ world,
        Runs.run? (World.step (.knowing ⟨1⟩) .oneByte) (.start { map := ∅ }) inputs
          = some world
        ∧ world.step (.knowing ⟨1⟩) .oneByte (.dispatcher .forward) = none
        ∧ Leads (World.step (.knowing ⟨1⟩) .oneByte) WorldInput.await World.AtRest world := by
  intro send inputs
  refine ⟨_, rfl, rfl, ?_⟩
  exact worker_comes_to_rest (.knowing ⟨1⟩) .oneByte { map := ∅ } inputs _ rfl

end XousAppSignal.Worker
