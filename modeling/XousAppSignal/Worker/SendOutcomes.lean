import Mathlib.Algebra.Order.BigOperators.Group.List
import XousAppSignal.Library.Counting
import XousAppSignal.Worker.TaskReplies
import XousAppSignal.Worker.WorldSteps

/-! At most one outcome for each send. The outcomes already sent, the events on their way,
the deferred sends and the ops queued or in hand are counted together, for the dispatcher
and every manager task; only a new command adds to the count.
-/

namespace XousAppSignal.Worker

open Store (InnerBackend RecordFormat)

/-- The op a dispatcher is about to forward. -/
def DispatcherControl.inHand : DispatcherControl → PumpExit
  | .forwarding op => .op op
  | _ => .shutdown

def Dispatcher.owes (reply : Reply) (dispatcher : Dispatcher) : Nat :=
  dispatcher.control.inHand.owed reply + answered reply (dispatcher.outbox.map Emit.event)

/-- The reply a command asks the worker for. -/
def Cmd.asks (reply : Reply) : Cmd → Bool
  | .sendMessage _ _ timestamp => reply = .send timestamp
  | .syncContacts => reply = .sync
  | .resolveUsername _ => reply = .resolve
  | _ => false

def WorldInput.asks {ρ : Type} (reply : Reply) : WorldInput ρ → Bool
  | .dispatcher (.cmd cmd) => cmd.asks reply
  | _ => false

variable {ρ : Type}

namespace World

/-- How often a reply was given or is still to be given, anywhere in the worker. -/
def owes (reply : Reply) (world : World ρ) : Nat :=
  answered reply world.log + world.dispatcher.owes reply
    + (world.managers.map (fun manager => manager.task.owes reply)).sum

theorem owes_goTo (reply : Reply) (control : DispatcherControl) (world : World ρ)
    : (world.goTo control).owes reply + world.dispatcher.control.inHand.owed reply
      = world.owes reply + control.inHand.owed reply := by
  simp only [owes, goTo, Dispatcher.owes]
  omega

theorem owes_reply (reply : Reply) (emit : Emit) (control : DispatcherControl)
    (world : World ρ)
    : (world.reply emit control).owes reply + world.dispatcher.control.inHand.owed reply
      = world.owes reply + control.inHand.owed reply
        + if emit.event.answers reply then 1 else 0 := by
  simp only [owes, World.reply, Dispatcher.owes, List.map_append, List.map_cons, List.map_nil,
    Task.answered_append, Task.answered_singleton]
  omega

/-- Dropping a sender owes no less and no more. -/
theorem owes_dropOps (reply : Reply) (world : World ρ)
    : world.dropOps.owes reply ≤ world.owes reply
      ∧ world.dropOps.dispatcher.control = world.dispatcher.control := by
  refine ⟨?_, rfl⟩
  have dropped : (world.dropOps.managers.map (fun manager => manager.task.owes reply)).sum
      ≤ (world.managers.map (fun manager => manager.task.owes reply)).sum := by
    simp only [dropOps]
    split
    · exact le_refl _
    · next index fed =>
        exact @Counting.sum_map_modify_le _ (fun manager : Manager => manager.task.owes reply)
          Manager.dropSender 0 (fun _ => le_refl _) world.managers index
  have same : world.dropOps.dispatcher.owes reply = world.dispatcher.owes reply := rfl
  have log : world.dropOps.log = world.log := rfl
  simp only [owes, same, log]
  omega

theorem owes_spawn (reply : Reply) (world : World ρ)
    : world.spawnManagerTask.owes reply ≤ world.owes reply
      ∧ world.spawnManagerTask.dispatcher.control = world.dispatcher.control := by
  refine ⟨?_, rfl⟩
  have dropped := (owes_dropOps reply world).1
  have fresh : ({} : Task).owes reply = 0 := by
    cases reply <;> simp [Task.owes, deferredOwed, PendingSends.owed, Control.inHand,
      PumpExit.owed]
  have same : world.spawnManagerTask.owes reply = world.dropOps.owes reply := by
    simp only [owes, spawnManagerTask, Dispatcher.owes, List.map_append, List.map_cons,
      List.map_nil, List.sum_append, List.sum_cons, List.sum_nil, fresh, Nat.add_zero]
  omega

/-- An op that is refused gets its answer. -/
theorem refused_answers (reply : Reply) (reason : String) (op : WorkerOp)
    : (op.refused reason).answers reply = op.asks reply := by
  cases op <;> rfl

/-- The dispatcher moves on to a point where no op is in hand. -/
theorem owes_goTo_le {world : World ρ} {control : DispatcherControl}
    (free : control.inHand = .shutdown) (reply : Reply)
    : (world.goTo control).owes reply ≤ world.owes reply := by
  have moved := owes_goTo reply control world
  rw [free] at moved
  simp only [PumpExit.owed] at moved
  omega

/-- Events that answer no op owe nothing. -/
theorem owes_notice_le {world : World ρ} {emit : Emit} {control : DispatcherControl}
    (notice : ∀ reply, emit.event.answers reply = false) (free : control.inHand = .shutdown)
    (reply : Reply)
    : (world.reply emit control).owes reply ≤ world.owes reply := by
  have told := owes_reply reply emit control world
  rw [free] at told
  simp only [notice, PumpExit.owed, Bool.false_eq_true, if_false] at told
  omega

theorem owes_logout_le (reply : Reply) (world : World ρ)
    : world.logout.owes reply ≤ world.owes reply :=
  (owes_notice_le (fun _ => rfl) rfl reply).trans (owes_dropOps reply world).1

theorem asks_op (reply : Reply) {cmd : Cmd} {op : WorkerOp} (carried : cmd.op? = some op)
    : op.owed reply = if cmd.asks reply then 1 else 0 := by
  cases cmd <;> cases carried <;> rfl

/-- A command adds the reply it asks for. -/
theorem Handled.owes_le {world after : World ρ} {cmd : Cmd} (handled : Handled world cmd after)
    (free : world.dispatcher.control.inHand = .shutdown) (reply : Reply)
    : after.owes reply ≤ world.owes reply + if cmd.asks reply then 1 else 0 := by
  cases handled with
  | opRefused cmd op carried =>
      have told := owes_reply reply
        { event := op.refused "not linked yet — send Cmd::LinkDevice first" } .ready world
      rw [free] at told
      simp only [refused_answers, DispatcherControl.inHand, PumpExit.owed] at told
      rw [← asks_op reply carried]
      simp only [WorkerOp.owed]
      omega
  | opForwarded cmd op carried =>
      have moved := owes_goTo reply (.forwarding op) world
      rw [free] at moved
      simp only [DispatcherControl.inHand, PumpExit.owed] at moved
      rw [← asks_op reply carried]
      omega
  | greeted | accountCached info | stopping =>
      exact (owes_notice_le (fun _ => rfl) rfl reply).trans (Nat.le_add_right _ _)
  | asksWhoami | accountAsked => exact (owes_goTo_le rfl reply).trans (Nat.le_add_right _ _)
  | linkRefused deviceName =>
      exact (@owes_notice_le _ { world with store := world.store.hasAccountState.2 } _ _
        (fun _ => rfl) rfl reply).trans (Nat.le_add_right _ _)
  | linkStarted deviceName =>
      exact (@owes_goTo_le _ { world with store := world.store.hasAccountState.2 } _ rfl
        reply).trans (Nat.le_add_right _ _)
  | nothingToCancel => exact Nat.le_add_right _ _
  | loggedOut => exact (owes_logout_le reply world).trans (Nat.le_add_right _ _)

/-- An op that is forwarded moves from the dispatcher into the queue, or is answered. -/
theorem owes_forward {world after : World ρ} {op : WorkerOp}
    (held : world.dispatcher.control.inHand = .op op)
    (forwarded : world.forward op = some after) (reply : Reply)
    : after.owes reply ≤ world.owes reply := by
  have free : DispatcherControl.ready.inHand = .shutdown := rfl
  rcases forward_cases forwarded with rfl | ⟨index, rfl⟩
  · simp only [owes, World.reply, Dispatcher.owes, List.map_append, List.map_cons,
      List.map_nil, Task.answered_append, Task.answered_singleton, held, free,
      refused_answers, PumpExit.owed, WorkerOp.owed]
    omega
  · have queued : ∀ manager : Manager,
        (manager.accept op).task.owes reply ≤ manager.task.owes reply + op.owed reply := by
      intro manager
      simp only [Manager.accept, Task.owes, List.countP_append, List.countP_cons,
        List.countP_nil, WorkerOp.owed]
      omega
    have counted := Counting.sum_map_modify_le
      (fun manager : Manager => manager.task.owes reply) queued world.managers index
    simp only [owes, goTo, Dispatcher.owes, held, free, PumpExit.owed]
    omega

theorem owes_registrationLoaded_le (reply : Reply) (attempts : Nat)
    (result : Except String AccountInfoData) (world : World ρ)
    : (world.registrationLoaded attempts result).owes reply ≤ world.owes reply := by
  rcases registrationLoaded_cases attempts result world with
    ⟨info, moved⟩ | ⟨control, rfl | rfl, moved⟩ <;> rw [moved]
  · exact owes_notice_le (fun _ => rfl) rfl reply
  · exact owes_goTo_le rfl reply
  · exact owes_goTo_le rfl reply

theorem owes_accountInfoLoaded_le (reply : Reply) (result : Except String AccountInfoData)
    (world : World ρ)
    : (world.accountInfoLoaded result).owes reply ≤ world.owes reply := by
  cases result with
  | error message => exact owes_notice_le (fun _ => rfl) rfl reply
  | ok info =>
      simp only [accountInfoLoaded]
      refine (owes_notice_le (fun _ => rfl) rfl reply).trans ?_
      split
      · exact (owes_spawn reply
          { world with
            dispatcher := { world.dispatcher with cachedAccountInfo := some info } }).1
      · exact le_refl _

theorem owes_linkEnded_le (reply : Reply) (cancelled : Bool)
    (result : Except String AccountInfoData) (world : World ρ)
    : (world.linkEnded cancelled result).owes reply ≤ world.owes reply := by
  cases result <;> exact owes_notice_le (fun _ => rfl) rfl reply

/-- Events that are dropped from the outbox are no longer owed. -/
theorem owes_emptied_le (reply : Reply) (world : World ρ)
    : { world with dispatcher := { world.dispatcher with outbox := [] } }.owes reply
      ≤ world.owes reply := by
  simp only [owes, Dispatcher.owes, List.map_nil, Task.answered_nil]
  omega

theorem owes_linkingCmd_le (reply : Reply) {control : Bool → DispatcherControl}
    (free : ∀ cancelled, (control cancelled).inHand = .shutdown) (cancelled : Bool)
    (cmd : Cmd) (world : World ρ)
    : (world.linkingCmd control cancelled cmd).owes reply ≤ world.owes reply := by
  cases cmd with
  | shutdown =>
      exact (owes_notice_le (fun _ => rfl) rfl reply).trans (owes_emptied_le reply world)
  | linkCancel => exact owes_goTo_le (free _) reply
  | _ => exact owes_goTo_le (free _) reply

theorem owes_cancelLink_le (reply : Reply) (world : World ρ)
    : world.cancelLink.owes reply ≤ world.owes reply :=
  (owes_notice_le (fun _ => rfl) rfl reply).trans (owes_emptied_le reply world)

theorem owes_adopt_le (reply : Reply) (info : AccountInfoData) (world : World ρ)
    : (world.adopt info).owes reply ≤ world.owes reply :=
  (owes_goTo_le rfl reply).trans (owes_spawn reply _).1

/-- A dispatcher step adds at most the reply its command asks for. -/
theorem Dispatched.owes_le {world after : World ρ} {input : DispatcherInput}
    (dispatched : Dispatched world input after) (reply : Reply)
    : after.owes reply
      ≤ world.owes reply + if (WorldInput.dispatcher input : WorldInput ρ).asks reply
          then 1 else 0 := by
  cases dispatched with
  | command cmd control => exact (handleCmd_cases cmd world).owes_le (by rw [control]; rfl) reply
  | commandWhileLinking cancelled cmd =>
      exact (owes_linkingCmd_le reply (fun _ => rfl) _ _ world).trans (Nat.le_add_right _ _)
  | commandWhileEnding cancelled linked cmd =>
      exact (owes_linkingCmd_le reply (fun _ => rfl) _ _ world).trans (Nat.le_add_right _ _)
  | closed => exact (owes_goTo_le rfl reply).trans (Nat.le_add_right _ _)
  | cancelledWhileLinking => exact (owes_cancelLink_le reply world).trans (Nat.le_add_right _ _)
  | cancelledWhileEnding linked =>
      exact (owes_cancelLink_le reply world).trans (Nat.le_add_right _ _)
  | registrationLoaded attempts result =>
      exact (owes_registrationLoaded_le reply _ _ world).trans (Nat.le_add_right _ _)
  | adopted info => exact (owes_adopt_le reply _ world).trans (Nat.le_add_right _ _)
  | whoami answer =>
      exact (owes_notice_le (fun _ => rfl) rfl reply).trans (Nat.le_add_right _ _)
  | accountInfoLoaded result =>
      exact (owes_accountInfoLoaded_le reply _ world).trans (Nat.le_add_right _ _)
  | forwarded op after control taken forwarded =>
      exact (owes_forward (by rw [control]; rfl) forwarded reply).trans (Nat.le_add_right _ _)
  | linkUrl cancelled url =>
      exact (owes_notice_le (fun _ => rfl) rfl reply).trans (Nat.le_add_right _ _)
  | linkEnded cancelled result =>
      exact (owes_linkEnded_le reply _ _ world).trans (Nat.le_add_right _ _)
  | linkReturned cancelled linked =>
      refine le_trans ?_ (Nat.le_add_right _ _)
      cases linked with
      | none => exact owes_goTo_le rfl reply
      | some info => exact owes_adopt_le reply info world
  | stopped => exact (owes_goTo_le rfl reply).trans (Nat.le_add_right _ _)

/-- What is in the outbox is owed event by event. -/
theorem owes_outbox {world : World ρ} {first : Emit} {rest : List Emit}
    (queued : world.dispatcher.outbox = first :: rest) (reply : Reply)
    : world.owes reply
      = answered reply [first.event]
        + { world with dispatcher := { world.dispatcher with outbox := rest } }.owes reply := by
  simp only [owes, Dispatcher.owes, queued, List.map_cons]
  rw [← List.singleton_append, Task.answered_append]
  omega

end World

/-- What the task delivers is no longer owed. -/
theorem Task.deliver_owes {task after : Task} {isOpen : Bool} {event : Option Event}
    (delivered : task.deliver isOpen = some (event, after)) (reply : Reply)
    : answered reply event.toList + after.owes reply ≤ task.owes reply := by
  unfold deliver at delivered
  split at delivered
  · cases delivered
  · next first rest queued =>
      have before : task.owes reply
          = task.queue.countP (WorkerOp.asks reply) + task.control.inHand.owed reply
            + deferredOwed reply task.pendingUnconfirmedSends
            + (answered reply [first.event] + answered reply (rest.map Emit.event)) := by
        simp only [owes, queued, List.map_cons]
        rw [← answered_append]
        rfl
      rw [before]
      split at delivered
      · cases delivered
        simp only [owes, Option.toList_some]
        omega
      · split at delivered
        · cases delivered
          simp only [owes, Option.toList_none, answered_nil, List.map_nil, Control.inHand,
            PumpExit.owed]
          omega
        · cases delivered
          simp only [owes, Option.toList_none, answered_nil]
          omega

namespace World

/-- Only what the moved task owes changes. -/
theorem owes_moved {world : World ρ} {index : Nat} {manager : Manager}
    (found : world.managers[index]? = some manager) (next : Manager) (reply : Reply)
    : { world with managers := world.managers.set index next }.owes reply
        + manager.task.owes reply
      = world.owes reply + next.task.owes reply := by
  have counted := Counting.sum_map_set
    (fun manager : Manager => manager.task.owes reply) found next
  simp only [owes]
  omega

/-- One step of the worker adds at most the reply its command asks for. -/
theorem owes_step {platform : Platform} {format : RecordFormat ρ} {world after : World ρ}
    {input : WorldInput ρ} (stepped : world.step platform format input = some after)
    (reply : Reply)
    : after.owes reply ≤ world.owes reply + if input.asks reply then 1 else 0 := by
  cases step_cases stepped with
  | dispatched dispatched => exact dispatched.owes_le reply
  | delivered first rest queued =>
      rw [owes_outbox queued]
      simp only [owes, Task.answered_append]
      omega
  | dropped first rest queued =>
      rw [owes_outbox queued]
      omega
  | hungUp first rest queued =>
      rw [owes_outbox queued]
      refine le_trans (owes_goTo_le rfl reply) ?_
      omega
  | advanced index input manager task found agrees moved =>
      have kept : task.owes reply ≤ manager.task.owes reply := by
        simp only [Task.step, List.isEmpty_iff] at moved
        split at moved
        · next taken => exact (Task.advance_keeps taken moved).most reply
        · cases moved
      have counted := owes_moved found { manager with task } reply
      simp only [owes] at counted ⊢
      omega
  | managerDelivered index manager event task found taken =>
      have kept := Task.deliver_owes taken reply
      have counted := owes_moved found
        { manager with task, sent := manager.sent ++ event.toList } reply
      simp only [owes, Task.answered_append] at counted ⊢
      omega
  | library call => exact Nat.le_add_right _ _
  | uiGone => exact Nat.le_add_right _ _

/-- Over a whole run the replies given and still owed never exceed those asked for. -/
theorem owes_run {platform : Platform} {format : RecordFormat ρ} {world after : World ρ}
    {inputs : List (WorldInput ρ)}
    (reached : Runs.run? (World.step platform format) world inputs = some after) (reply : Reply)
    : after.owes reply ≤ world.owes reply + inputs.countP (WorldInput.asks reply) := by
  induction inputs generalizing world with
  | nil =>
      obtain rfl := Option.some.inj reached
      simp
  | cons input rest ih =>
      obtain ⟨next, stepped, reached⟩ := Option.bind_eq_some_iff.mp reached
      have first := owes_step stepped reply
      have later := ih reached
      rw [List.countP_cons]
      omega

end World

/-- The timestamp of a `SendMessage` command. -/
def WorldInput.sendTimestamp : WorldInput ρ → Option UInt64
  | .dispatcher (.cmd (.sendMessage _ _ timestamp)) => some timestamp
  | _ => none

/-- Commands with distinct timestamps ask for each send outcome at most once. -/
theorem countP_asks_send {inputs : List (WorldInput ρ)}
    (distinct : (inputs.filterMap WorldInput.sendTimestamp).Nodup) (timestamp : UInt64)
    : inputs.countP (WorldInput.asks (.send timestamp)) ≤ 1 := by
  have counted : inputs.countP (WorldInput.asks (.send timestamp))
      = (inputs.filterMap WorldInput.sendTimestamp).count timestamp := by
    rw [List.count, List.countP_filterMap]
    congr 1
    funext input
    cases input with
    | dispatcher input =>
        cases input with
        | cmd cmd =>
            cases cmd with
            | sendMessage recipient body sent =>
                simp [WorldInput.asks, Cmd.asks, WorldInput.sendTimestamp, beq_eq_decide,
                  eq_comm]
            | _ => rfl
        | _ => rfl
    | _ => rfl
  rw [counted]
  exact List.nodup_iff_count_le_one.mp distinct timestamp

/-- In every run of the worker whose sends have distinct timestamps, each timestamp gets at
most one outcome, and a deferred send has had none.
-/
theorem at_most_one_outcome (platform : Platform) (format : RecordFormat ρ)
    (inner : InnerBackend) (inputs : List (WorldInput ρ)) (world : World ρ)
    (reached : Runs.run? (World.step platform format) (.start inner) inputs = some world)
    (distinct : (inputs.filterMap WorldInput.sendTimestamp).Nodup) (timestamp : UInt64)
    : world.log.countP (Event.settles timestamp) ≤ 1
      ∧ ∀ manager ∈ world.managers,
          (manager.task.pendingUnconfirmedSends.lookup timestamp).isSome
          → world.log.countP (Event.settles timestamp) = 0 := by
  have bounded : world.owes (.send timestamp) ≤ 1 := by
    have run := World.owes_run reached (.send timestamp)
    have asked := countP_asks_send distinct timestamp
    have fresh : (World.start inner : World ρ).owes (.send timestamp) = 0 := rfl
    omega
  have settled : answered (.send timestamp) world.log
      = world.log.countP (Event.settles timestamp) := by
    rw [answered, funext (answers_send timestamp)]
  rw [World.owes, settled] at bounded
  refine ⟨by omega, fun manager listed deferred => ?_⟩
  have owed : 1 ≤ manager.task.owes (.send timestamp) := by
    have one : deferredOwed (.send timestamp) manager.task.pendingUnconfirmedSends = 1 :=
      if_pos deferred
    simp only [Task.owes, one]
    omega
  have counted : manager.task.owes (.send timestamp)
      ≤ (world.managers.map (fun manager => manager.task.owes (.send timestamp))).sum :=
    List.le_sum_of_mem (List.mem_map_of_mem listed)
  omega

/-- A registered worker sends one message: the outcome is in the log once. -/
theorem at_most_one_outcome_sent
    : let inputs : List (WorldInput UInt8) :=
        [.dispatcher (.loaded (.ok ⟨"xas", "aci", "phone"⟩)), .dispatcherDelivers,
          .dispatcher .adopt,
          .dispatcher (.cmd (.sendMessage (⟨1⟩ : Uuid).toString "hi" 5)),
          .dispatcher .forward, .manager 0 (.wake 0 .insertion), .manager 0 .recv,
          .manager 0 (.contacts (.ok [])), .manager 0 (.begun (.ok ())),
          .manager 0 (.sendReturned .ok 0 .insertion .insertion), .managerDelivers 0]
      ∃ world,
        Runs.run? (World.step (.knowing ⟨1⟩) .oneByte) (.start { map := ∅ }) inputs = some world
        ∧ world.log.countP (Event.settles 5) = 1
        ∧ world.log.countP (Event.settles 5) ≤ 1 := by
  intro inputs
  refine ⟨_, rfl, rfl, ?_⟩
  exact (at_most_one_outcome (.knowing ⟨1⟩) .oneByte { map := ∅ } inputs _ rfl (by decide) 5).1

end XousAppSignal.Worker
