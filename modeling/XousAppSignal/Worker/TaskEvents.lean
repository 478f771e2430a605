import XousAppSignal.Worker.TaskSteps

/-! The events a manager task can send. None of them answers an account query and none belongs
to a link attempt: these come from the dispatcher alone.
-/

namespace XousAppSignal.Worker

/-- The events of a manager task. -/
def Event.fromTask : Event → Bool
  | .receiveStarted => true
  | .receiveError _ => true
  | .message .. => true
  | .sendComplete _ => true
  | .sendError _ _ => true
  | .contactResolved _ _ => true
  | .syncComplete => true
  | .syncError _ => true
  | .usernameResolveResult _ => true
  | .signalAuthExpired _ => true
  | .signalConflictingDevice _ => true
  | _ => false

namespace Task

/-- The events waiting in the outbox are events of a task. -/
structure Speaks (task : Task) : Prop where
  own : ∀ emit ∈ task.outbox, emit.event.fromTask = true

theorem speaks_emit {task : Task} (speaks : task.Speaks) {events : List Event}
    (own : ∀ event ∈ events, event.fromTask = true) (control : Control)
    : (task.emit events control).Speaks := by
  refine ⟨fun emit listed => ?_⟩
  rcases List.mem_append.mp listed with earlier | new
  · exact speaks.own emit earlier
  · obtain ⟨event, sent, rfl⟩ := List.mem_map.mp new
    exact own event sent

theorem speaks_notice {task : Task} (speaks : task.Speaks) {event : Event}
    (own : event.fromTask = true) (control : Control)
    : (task.emit [event] control).Speaks :=
  speaks_emit speaks (fun _ listed => List.mem_singleton.mp listed ▸ own) control

/-- Notices are events of a task. -/
theorem Goes.speaks {held : PumpExit} {task after : Task} (goes : Goes held task after)
    (speaks : task.Speaks)
    : after.Speaks := by
  refine ⟨fun emit listed => ?_⟩
  obtain ⟨emits, outbox, notices⟩ := goes.notices
  rw [outbox] at listed
  rcases List.mem_append.mp listed with earlier | new
  · exact speaks.own emit earlier
  · have notice := notices emit new
    cases event : emit.event <;> first | rfl | simp [event, Event.isNotice] at notice

theorem speaks_sweep {task : Task} (speaks : task.Speaks) (order : HashOrder) (now : Nat)
    (control : Control)
    : (task.sweep order now control).Speaks := by
  have swept (pending : PendingSends)
      : { task with pendingUnconfirmedSends := pending : Task }.Speaks :=
    ⟨speaks.own⟩
  refine speaks_emit (swept _) ?_ control
  intro event listed
  obtain ⟨timestamp, -, rfl⟩ := List.mem_map.mp listed
  rfl

theorem speaks_attemptReturned (platform : Platform) {task : Task} (speaks : task.Speaks)
    (send : InnerSend) (attempt : Nat) (outcome : SendOutcome) (now : Nat)
    : (task.attemptReturned platform send attempt outcome now).Speaks := by
  unfold attemptReturned
  split
  · exact speaks_notice speaks rfl _
  · exact ⟨speaks.own⟩
  · exact ⟨speaks.own⟩
  · exact speaks_notice speaks rfl _

theorem speaks_itemReceived (item : Received) (contact : Option Contact) (task : Task)
    : (task.itemReceived item contact).Speaks := by
  refine ⟨fun emit listed => ?_⟩
  obtain ⟨event, emitted, rfl⟩ := List.mem_map.mp listed
  rcases processReceived_events emitted with ⟨timestamp, rfl⟩ | message
  · rfl
  · cases event <;> first | rfl | cases message

/-- One step of the task keeps the outbox to events of a task. -/
theorem advance_speaks {platform : Platform} {task after : Task} {input : TaskInput}
    (stepped : task.advance platform input = some after) (speaks : task.Speaks)
    : after.Speaks := by
  cases advance_cases stepped with
  | woke now order =>
      unfold outerHead
      split
      · exact speaks_sweep speaks ..
      · split <;> exact ⟨speaks.own⟩
  | parkedOp op | pumpedOp op =>
      cases op <;> exact ⟨speaks.own⟩
  | backoffElapsed => exact (backoffElapsed_goes task).speaks speaks
  | streamOpened =>
      unfold streamOpened
      split
      · exact ⟨speaks.own⟩
      · refine ⟨fun emit listed => ?_⟩
        rw [List.mem_singleton.mp listed]
        rfl
  | openFailed err closeCode => exact (openFailed_goes err closeCode task).speaks speaks
  | swept now order => exact speaks_sweep speaks ..
  | itemReceived item contact => exact speaks_itemReceived ..
  | nextFetch drained exit => exact (nextFetch_goes drained exit task).speaks speaks
  | profileFetched aci rest exit result =>
      exact (profileFetched_goes aci rest exit result task).speaks speaks
  | attemptReturned send attempt outcome now => exact speaks_attemptReturned platform speaks ..
  | unknownRecipient send contacts reason => exact speaks_notice speaks rfl _
  | refused send attempt e => exact speaks_notice speaks rfl _
  | synced => exact speaks_notice speaks rfl _
  | syncFailed reason => exact speaks_notice speaks rfl _
  | usernameResolved input result => exact speaks_notice speaks rfl _
  | _ => exact ⟨speaks.own⟩

theorem step_speaks {platform : Platform} {task after : Task} {input : TaskInput}
    (stepped : task.step platform input = some after) (speaks : task.Speaks)
    : after.Speaks := by
  unfold step at stepped
  split at stepped
  · exact advance_speaks stepped speaks
  · cases stepped

/-- What the channel takes from the task is an event of a task. -/
theorem deliver_speaks {task after : Task} {isOpen : Bool} {event : Option Event}
    (delivered : task.deliver isOpen = some (event, after)) (speaks : task.Speaks)
    : (∀ sent ∈ event, sent.fromTask = true) ∧ after.Speaks := by
  unfold deliver at delivered
  split at delivered
  · cases delivered
  · next first rest queued =>
      have later : ∀ emit ∈ rest, emit.event.fromTask = true := fun emit listed =>
        speaks.own emit (by rw [queued]; exact List.mem_cons_of_mem first listed)
      split at delivered
      · cases delivered
        refine ⟨fun sent same => ?_, ⟨later⟩⟩
        cases same
        exact speaks.own first (by simp [queued])
      · split at delivered
        · cases delivered
          exact ⟨by simp, ⟨by simp⟩⟩
        · cases delivered
          exact ⟨by simp, ⟨later⟩⟩

end Task

end XousAppSignal.Worker
