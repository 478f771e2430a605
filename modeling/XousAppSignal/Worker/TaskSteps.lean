import XousAppSignal.Worker.ManagerTask

/-! What one step of the manager task can do, said once: a case for each await point and each
way its await can end. Facts about runs of the task are derived from these cases.
-/

namespace XousAppSignal.Worker

open Store (Bytes Error)

/-- The op in hand at an await point. -/
def Control.inHand : Control → PumpExit
  | .fetching _ exit => exit
  | .retrieving _ _ exit => exit
  | .starting send => .op (.send send)
  | .attempting send _ => .op (.send send)
  | .sending send _ => .op (.send send)
  | .sleeping send _ => .op (.send send)
  | .syncing => .op .syncContacts
  | .resolving input => .op (.resolveUsername input)
  | _ => .shutdown

/-- The send that is being attempted. -/
def Control.underWay : Control → Option InnerSend
  | .attempting send _ => some send
  | .sending send _ => some send
  | .sleeping send _ => some send
  | _ => none

/-- The pump ends for no op that has a reply. -/
def PumpExit.isSilent : PumpExit → Bool
  | .op taken => taken = .startReceive
  | .reopen _ => true
  | .shutdown => true

/-- Events about the connection and the contacts, which answer no op. -/
def Event.isNotice : Event → Bool
  | .receiveStarted => true
  | .receiveError _ => true
  | .contactResolved _ _ => true
  | .signalAuthExpired _ => true
  | .signalConflictingDevice _ => true
  | _ => false

namespace Task

/-- A step of the task by the await it ends. -/
inductive Advanced (platform : Platform) (task : Task) : TaskInput → Task → Prop where
  | woke (now : Nat) (order : HashOrder) (control : task.control = .head)
      : Advanced platform task (.wake now order) (task.outerHead order now)
  | parkedTick (control : task.control = .parked)
      : Advanced platform task .tick { task with control := .head }
  | parkedOp (op : WorkerOp) (rest : List WorkerOp) (control : task.control = .parked)
      (queued : task.queue = op :: rest)
      : Advanced platform task .recv (({ task with queue := rest } : Task).parkedOp op)
  | parkedClosed (control : task.control = .parked) (empty : task.queue = [])
      : Advanced platform task .recv { task with control := .leaving }
  | backoffElapsed (control : task.control = .backingOff)
      : Advanced platform task .slept task.backoffElapsed
  | streamOpened (closeCode : Option Nat) (control : task.control = .opening)
      : Advanced platform task (.opened (.ok ()) closeCode) task.streamOpened
  | openFailed (err : String) (closeCode : Option Nat) (control : task.control = .opening)
      : Advanced platform task (.opened (.error err) closeCode) (task.openFailed err closeCode)
  | swept (now : Nat) (order : HashOrder) (control : task.control = .pumpHead)
      : Advanced platform task (.wake now order) (task.sweep order now .pumping)
  | itemReceived (item : Received) (contact : Option Contact) (order : Store.FlushOrder)
      (control : task.control = .pumping)
      : Advanced platform task (.item item contact order) (task.itemReceived item contact)
  | streamEnded (control : task.control = .pumping)
      : Advanced platform task .streamEnded (task.endPump (.reopen "stream ended"))
  | pumpedOp (op : WorkerOp) (rest : List WorkerOp) (control : task.control = .pumping)
      (queued : task.queue = op :: rest)
      : Advanced platform task .recv (({ task with queue := rest } : Task).pumpedOp op)
  | pumpedClosed (control : task.control = .pumping) (empty : task.queue = [])
      : Advanced platform task .recv (task.endPump .shutdown)
  | pumpedTick (control : task.control = .pumping)
      : Advanced platform task .tick { task with control := .pumpHead }
  | nextFetch (drained : List (Uuid × Bytes)) (exit : PumpExit)
      (control : task.control = .fetching drained exit)
      : Advanced platform task .fetchNext (task.nextFetch drained exit)
  | profileFetched (aci : Uuid) (rest : List (Uuid × Bytes)) (exit : PumpExit)
      (result : Except String (Option ProfileName))
      (control : task.control = .retrieving aci rest exit)
      : Advanced platform task (.profile result) (task.profileFetched aci rest exit result)
  | unknownRecipient (send : InnerSend) (contacts : Contacts) (reason : String)
      (control : task.control = .starting send)
      (failed : resolveRecipient platform contacts send.recipient = .error reason)
      : Advanced platform task (.contacts contacts)
          (task.emit [.sendError reason (some send.timestamp)] .head)
  | knownRecipient (send : InnerSend) (contacts : Contacts) (uuid : Uuid)
      (control : task.control = .starting send)
      (resolved : resolveRecipient platform contacts send.recipient = .ok uuid)
      : Advanced platform task (.contacts contacts)
          { task with control := .attempting send 1 }
  | refused (send : InnerSend) (attempt : Nat) (e : Error)
      (control : task.control = .attempting send attempt)
      : Advanced platform task (.begun (.error e))
          (task.emit
            [.sendError ("internal: begin_send_batch: " ++ e.display) (some send.timestamp)]
            .head)
  | begun (send : InnerSend) (attempt : Nat) (control : task.control = .attempting send attempt)
      : Advanced platform task (.begun (.ok ())) { task with control := .sending send attempt }
  | attemptReturned (send : InnerSend) (attempt : Nat) (outcome : SendOutcome) (now : Nat)
      (flushOrder : Store.FlushOrder) (commitOrder : HashOrder)
      (control : task.control = .sending send attempt)
      : Advanced platform task (.sendReturned outcome now flushOrder commitOrder)
          (task.attemptReturned platform send attempt outcome now)
  | retried (send : InnerSend) (attempt : Nat) (control : task.control = .sleeping send attempt)
      : Advanced platform task .slept { task with control := .attempting send (attempt + 1) }
  | failed (control : task.control = .failing)
      : Advanced platform task .proceed { task with control := .head }
  | synced (control : task.control = .syncing)
      : Advanced platform task (.synced (.ok ())) (task.emit [.syncComplete] .head)
  | syncFailed (reason : String) (control : task.control = .syncing)
      : Advanced platform task (.synced (.error reason)) (task.emit [.syncError reason] .head)
  | usernameResolved (input : String) (result : Except String (Option Uuid))
      (control : task.control = .resolving input)
      : Advanced platform task (.resolved result)
          (task.emit [.usernameResolveResult result] .head)
  | left (control : task.control = .leaving)
      : Advanced platform task .proceed { task with control := .exited }

/-- An op was queued, or the channel is closed and empty. -/
theorem receiveOp_cases {handle : WorkerOp → Task → Task} {shutdown : Task → Task}
    {task after : Task} (received : task.receiveOp handle shutdown = some after)
    : (∃ op rest, task.queue = op :: rest ∧ after = handle op { task with queue := rest })
      ∨ task.queue = [] ∧ after = shutdown task := by
  unfold receiveOp at received
  split at received
  · next op rest queued =>
      cases received
      exact .inl ⟨op, rest, queued, rfl⟩
  · next empty =>
      split at received
      · cases received
      · cases received
        exact .inr ⟨empty, rfl⟩

/-- Every step of the task is one of the listed ones. -/
theorem advance_cases {platform : Platform} {task after : Task} {input : TaskInput}
    (stepped : task.advance platform input = some after)
    : Advanced platform task input after := by
  unfold advance at stepped
  split at stepped
  case h_2 control =>
    split at stepped
    · cases stepped
    · cases stepped
      exact .parkedTick control
  case h_3 control =>
    rcases receiveOp_cases stepped with ⟨op, rest, queued, rfl⟩ | ⟨empty, rfl⟩
    · exact .parkedOp op rest control queued
    · exact .parkedClosed control empty
  case h_10 control =>
    rcases receiveOp_cases stepped with ⟨op, rest, queued, rfl⟩ | ⟨empty, rfl⟩
    · exact .pumpedOp op rest control queued
    · exact .pumpedClosed control empty
  case h_14 send contacts control =>
    split at stepped
    · next reason failed =>
        cases stepped
        exact .unknownRecipient send contacts reason control failed
    · next uuid resolved =>
        cases stepped
        exact .knownRecipient send contacts uuid control resolved
  case h_15 send attempt result control =>
    split at stepped
    · cases stepped
      exact .refused send attempt _ control
    · cases stepped
      exact .begun send attempt control
  case h_19 result control =>
    split at stepped
    · cases stepped
      exact .synced control
    · cases stepped
      exact .syncFailed _ control
  all_goals cases stepped
  case h_1 now order control => exact .woke now order control
  case h_4 control => exact .backoffElapsed control
  case h_5 closeCode control => exact .streamOpened closeCode control
  case h_6 err closeCode control => exact .openFailed err closeCode control
  case h_7 now order control => exact .swept now order control
  case h_8 item contact order control => exact .itemReceived item contact order control
  case h_9 control => exact .streamEnded control
  case h_11 control => exact .pumpedTick control
  case h_12 drained exit control => exact .nextFetch drained exit control
  case h_13 aci rest exit result control => exact .profileFetched aci rest exit result control
  case h_16 send attempt outcome now flushOrder commitOrder control =>
    exact .attemptReturned send attempt outcome now flushOrder commitOrder control
  case h_17 send attempt control => exact .retried send attempt control
  case h_18 control => exact .failed control
  case h_20 input result control => exact .usernameResolved input result control
  case h_21 control => exact .left control

-----------------------------------------------------------------------------------------
-- Steps between the sends
-----------------------------------------------------------------------------------------

/-- The task goes on with an op in hand: it takes and defers no op, attempts no send, has not
ended, and tells the UI no more than notices.
-/
structure Goes (held : PumpExit) (task after : Task) : Prop where
  queue : after.queue = task.queue
  pending : after.pendingUnconfirmedSends = task.pendingUnconfirmedSends
  inHand
    : after.control.inHand = held ∨ held.isSilent = true ∧ after.control.inHand = .shutdown
  underWay : after.control.underWay = none
  running : after.hasExited = false
  notices : ∃ emits, after.outbox = task.outbox ++ emits
    ∧ ∀ emit ∈ emits, emit.event.isNotice = true

variable {held : PumpExit} {task middle after : Task}

/-- Fields that none of this depends on may change on the way. -/
theorem Goes.congr (goes : Goes held middle after) (queue : middle.queue = task.queue)
    (pending : middle.pendingUnconfirmedSends = task.pendingUnconfirmedSends)
    (outbox : middle.outbox = task.outbox)
    : Goes held task after :=
  ⟨goes.queue.trans queue, goes.pending.trans pending, goes.inHand, goes.underWay,
    goes.running, outbox ▸ goes.notices⟩

/-- Moving on without an event. -/
theorem goes_control (control : Control)
    (inHand : control.inHand = held ∨ held.isSilent = true ∧ control.inHand = .shutdown)
    (underWay : control.underWay = none) (running : control ≠ .exited) (task : Task)
    : Goes held task { task with control := control } := by
  refine ⟨rfl, rfl, inHand, underWay, ?_, [], by simp, by simp⟩
  cases control <;> first | rfl | exact absurd rfl running

theorem goes_notice {event : Event} (control : Control) (notice : event.isNotice = true)
    (inHand : control.inHand = held ∨ held.isSilent = true ∧ control.inHand = .shutdown)
    (underWay : control.underWay = none) (running : control ≠ .exited) (task : Task)
    : Goes held task (task.emit [event] control) :=
  { goes_control control inHand underWay running task with
    notices := ⟨[{ event }], rfl, by simp [notice]⟩ }

theorem runManagerOp_goes (op : WorkerOp) (task : Task)
    : Goes (.op op) task (task.runManagerOp op) := by
  cases op with
  | startReceive => exact goes_control .head (.inr ⟨rfl, rfl⟩) rfl nofun task
  | send send => exact goes_control (.starting send) (.inl rfl) rfl nofun task
  | syncContacts => exact goes_control .syncing (.inl rfl) rfl nofun task
  | resolveUsername input => exact goes_control (.resolving input) (.inl rfl) rfl nofun task

theorem endPump_goes (exit : PumpExit) (task : Task) : Goes exit task (task.endPump exit) := by
  let drained : Task := { task with pendingProfileFetches := [] }
  exact (goes_control (.fetching task.pendingProfileFetches exit) (.inl rfl) rfl nofun
    drained).congr rfl rfl rfl

theorem parkedOp_goes (op : WorkerOp) (task : Task)
    : Goes (.op op) task (parkedOp op task) := by
  cases op with
  | startReceive =>
      let receiving : Task := { task with receiving := true }
      exact (goes_control .head (.inr ⟨rfl, rfl⟩) rfl nofun receiving).congr rfl rfl rfl
  | _ => exact runManagerOp_goes _ task

theorem pumpedOp_goes (op : WorkerOp) (task : Task)
    : Goes (.op op) task (pumpedOp op task) := by
  cases op with
  | startReceive => exact goes_control .pumpHead (.inr ⟨rfl, rfl⟩) rfl nofun task
  | _ => exact endPump_goes _ task

theorem backoffElapsed_goes (task : Task) : Goes .shutdown task task.backoffElapsed := by
  unfold backoffElapsed
  split
  · exact goes_notice .leaving rfl (.inl rfl) rfl nofun task
  · exact goes_control .opening (.inl rfl) rfl nofun task

theorem reportFirstFailure_goes (silent : held.isSilent = true) (reason : String)
    (task : Task)
    : Goes held task (task.reportFirstFailure reason) := by
  unfold reportFirstFailure
  split
  · exact goes_notice .head rfl (.inr ⟨silent, rfl⟩) rfl nofun task
  · exact goes_control .head (.inr ⟨silent, rfl⟩) rfl nofun task

theorem openFailed_goes (err : String) (closeCode : Option Nat) (task : Task)
    : Goes .shutdown task (task.openFailed err closeCode) := by
  unfold openFailed
  dsimp only
  split
  · exact (goes_notice .leaving rfl (.inl rfl) rfl nofun _).congr rfl rfl rfl
  · split
    · split
      · exact (goes_notice .leaving rfl (.inl rfl) rfl nofun _).congr rfl rfl rfl
      · exact (reportFirstFailure_goes rfl _ _).congr rfl rfl rfl
    · exact (reportFirstFailure_goes rfl _ _).congr rfl rfl rfl

theorem afterPump_goes (exit : PumpExit) (task : Task)
    : Goes exit task (task.afterPump exit) := by
  cases exit with
  | op op => exact runManagerOp_goes op task
  | reopen reason => exact (reportFirstFailure_goes rfl _ _).congr rfl rfl rfl
  | shutdown => exact goes_control .leaving (.inl rfl) rfl nofun task

theorem nextFetch_goes (drained : List (Uuid × Bytes)) (exit : PumpExit) (task : Task)
    : Goes exit task (task.nextFetch drained exit) := by
  cases drained with
  | nil => exact afterPump_goes exit task
  | cons first rest =>
      simp only [nextFetch]
      split
      · exact goes_control (.fetching rest exit) (.inl rfl) rfl nofun task
      · let tried : Task := { task with fetchedOrFailed := first.1 :: task.fetchedOrFailed }
        exact (goes_control (.retrieving first.1 rest exit) (.inl rfl) rfl nofun tried).congr
          rfl rfl rfl

theorem profileFetched_goes (aci : Uuid) (rest : List (Uuid × Bytes)) (exit : PumpExit)
    (result : Except String (Option ProfileName)) (task : Task)
    : Goes exit task (task.profileFetched aci rest exit result) := by
  cases result with
  | error reason => exact goes_control (.fetching rest exit) (.inl rfl) rfl nofun task
  | ok name =>
      simp only [profileFetched]
      split
      · exact goes_control (.fetching rest exit) (.inl rfl) rfl nofun task
      · exact goes_notice (.fetching rest exit) rfl (.inl rfl) rfl nofun task

/-- The greeting goes out once the events before it were taken. -/
theorem streamOpened_goes (taken : task.outbox = [])
    : Goes .shutdown task task.streamOpened := by
  simp only [streamOpened]
  split
  · exact goes_control .pumpHead (.inl rfl) rfl nofun task
  · exact ⟨rfl, rfl, .inl rfl, rfl, rfl, _, by rw [taken, List.nil_append],
      by simp [Event.isNotice]⟩

end Task

end XousAppSignal.Worker
