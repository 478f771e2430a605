import XousAppSignal.Library.Leads
import XousAppSignal.Worker.TaskSteps

/-! The manager task comes to rest. Whatever the server and the store answer, it works off what
is queued for it, and then either waits for the next op or, its channel closed, ends: no loop
of its own keeps it from that.
-/

namespace XousAppSignal.Worker

open Runs (Leads CanEnd)

/-- What the task can wait for: the event channel, or one of its awaits. -/
inductive TaskAwait where
  | delivery
  | wake
  | tick
  | recv
  | slept
  | opened
  | item
  | streamEnded
  | fetchNext
  | profile
  | contacts
  | begun
  | sendReturned
  | synced
  | resolved
  | proceed

/-- The await that this input ends, whatever its answer. -/
def TaskInput.await : TaskInput → TaskAwait
  | .wake _ _ => .wake
  | .tick => .tick
  | .recv => .recv
  | .slept => .slept
  | .opened _ _ => .opened
  | .item _ _ _ => .item
  | .streamEnded => .streamEnded
  | .fetchNext => .fetchNext
  | .profile _ => .profile
  | .contacts _ => .contacts
  | .begun _ => .begun
  | .sendReturned _ _ _ _ => .sendReturned
  | .synced _ => .synced
  | .resolved _ => .resolved
  | .proceed => .proceed

/-- How the await of the task may end; where several awaits race, the one for its next op. -/
def Control.answer : Control → TaskInput
  | .head => .wake 0 .insertion
  | .parked => .recv
  | .backingOff => .slept
  | .opening => .opened (.ok ()) none
  | .pumpHead => .wake 0 .insertion
  | .pumping => .recv
  | .fetching _ _ => .fetchNext
  | .retrieving _ _ _ => .profile (.ok none)
  | .starting _ => .contacts (.error ())
  | .attempting _ _ => .begun (.ok ())
  | .sending _ _ => .sendReturned .ok 0 .insertion .insertion
  | .sleeping _ _ => .slept
  | .failing => .proceed
  | .syncing => .synced (.ok ())
  | .resolving _ => .resolved (.ok none)
  | .leaving => .proceed
  | .exited => .proceed

/-- A turn of the task by itself. -/
inductive TaskTurn : Type 1 where
  | deliver (isOpen : Bool)
  | advance (input : TaskInput)

def TaskTurn.await : TaskTurn → Option TaskAwait
  | .deliver _ => some .delivery
  | .advance input => some input.await

namespace Task

def turn (platform : Platform) (task : Task) : TaskTurn → Option Task
  | .deliver isOpen => (task.deliver isOpen).map Prod.snd
  | .advance input => task.step platform input

/-- The task has ended, or has nothing to do until the next op comes. -/
def Settled (task : Task) : Prop :=
  task.hasExited = true
  ∨ task.senderOpen = true ∧ task.queue = [] ∧ task.outbox = []
    ∧ (task.control = .parked ∨ task.control = .pumping)

/-- The task comes to rest. -/
def Settles (platform : Platform) (task : Task) : Prop :=
  Leads (turn platform) TaskTurn.await Settled task

variable {platform : Platform} {task : Task}

theorem settles_ended (ended : task.hasExited = true) : Settles platform task :=
  .there (.inl ended)

/-- The events go out first, by induction on them. -/
theorem settles_of_drained (drained : Settles platform { task with outbox := [] })
    : Settles platform task := by
  generalize waiting : task.outbox = emits
  induction emits generalizing task with
  | nil =>
      rw [← waiting] at drained
      exact drained
  | cons first rest ih =>
      have taken (isOpen : Bool) : ∃ after, task.turn platform (.deliver isOpen) = some after
          ∧ (after = { task with outbox := rest }
            ∨ after = { task with control := .exited, outbox := [] }) := by
        simp only [turn, deliver, waiting]
        split
        · exact ⟨_, rfl, .inl rfl⟩
        · split
          · exact ⟨_, rfl, .inr rfl⟩
          · exact ⟨_, rfl, .inl rfl⟩
      obtain ⟨after, stepped, -⟩ := taken true
      refine .turn .delivery ⟨.deliver true, after, rfl, stepped⟩ fun input after same moved => ?_
      cases input with
      | advance input => cases input <;> cases same
      | deliver isOpen =>
          obtain ⟨after', stepped, shape⟩ := taken isOpen
          obtain rfl := Option.some.inj (stepped.symm.trans moved)
          rcases shape with rfl | rfl
          · exact ih drained rfl
          · exact settles_ended rfl

/-- A task that is not at rest has an await that can end. -/
theorem advance_answer (task : Task) (taken : task.outbox = [])
    : task.Settled ∨ (task.advance platform task.control.answer).isSome = true := by
  unfold advance
  cases control : task.control with
  | parked | pumping =>
      simp only [Control.answer, receiveOp]
      split
      · exact .inr rfl
      · next empty =>
          cases isOpen : task.senderOpen with
          | false => exact .inr rfl
          | true => exact .inl (.inr ⟨isOpen, empty, taken, by simp [control]⟩)
  | starting send =>
      simp only [Control.answer]
      split <;> exact .inr rfl
  | exited => exact .inl (.inl (by simp [hasExited, control]))
  | _ => exact .inr rfl

/-- The await of the task ends, however it does. -/
theorem settles_of_await
    (next
      : ∀ input after, input.await = task.control.answer.await
          → Advanced platform { task with outbox := [] } input after
          → Settles platform after)
    : Settles platform task := by
  refine settles_of_drained ?_
  rcases @advance_answer platform { task with outbox := [] } rfl with settled | ends
  · exact .there settled
  · have answers : (TaskTurn.advance task.control.answer).await = some _ := rfl
    refine .turn task.control.answer.await (Runs.canEnd_of_isSome answers ends) ?_
    intro turn after same moved
    cases turn with
    | deliver isOpen => cases moved
    | advance input => exact next input after (Option.some.inj same) (advance_cases moved)

theorem settles_leaving (control : task.control = .leaving) : Settles platform task := by
  refine settles_of_await fun input after same advanced => ?_
  cases advanced with
  | left => exact settles_ended rfl
  | _ => simp_all

theorem profileFetched_keeps (aci : Uuid) (rest : List (Uuid × Store.Bytes)) (exit : PumpExit)
    (result : Except String (Option ProfileName)) (task : Task)
    : (task.profileFetched aci rest exit result).queue = task.queue
      ∧ (task.profileFetched aci rest exit result).control = .fetching rest exit := by
  refine ⟨(profileFetched_goes aci rest exit result task).queue, ?_⟩
  cases result with
  | error reason => rfl
  | ok name =>
      simp only [profileFetched]
      split <;> rfl

theorem settles_retrieving {aci : Uuid} {rest : List (Uuid × Store.Bytes)} {exit : PumpExit}
    (further
      : ∀ after : Task, after.queue = task.queue → after.control = .fetching rest exit
          → Settles platform after)
    (control : task.control = .retrieving aci rest exit)
    : Settles platform task := by
  refine settles_of_await fun input after same advanced => ?_
  cases advanced with
  | profileFetched aci rest exit result control' =>
      cases control.symm.trans control'
      obtain ⟨queue, fetching⟩ := profileFetched_keeps aci rest exit result { task with outbox := [] }
      exact further _ queue fetching
  | _ => simp_all

/-- The profile fetches come to an end, by induction on those that are left. -/
theorem settles_fetching {exit : PumpExit}
    (afterPump : ∀ after : Task, after.queue = task.queue → Settles platform (after.afterPump exit))
    (drained : List (Uuid × Store.Bytes)) (control : task.control = .fetching drained exit)
    : Settles platform task := by
  induction drained generalizing task with
  | nil =>
      refine settles_of_await fun input after same advanced => ?_
      cases advanced with
      | nextFetch drained exit control' =>
          cases control.symm.trans control'
          exact afterPump { task with outbox := [] } rfl
      | _ => simp_all
  | cons first rest ih =>
      refine settles_of_await fun input after same advanced => ?_
      cases advanced with
      | nextFetch drained exit control' =>
          cases control.symm.trans control'
          simp only [nextFetch]
          split
          · exact ih afterPump rfl
          · refine settles_retrieving (fun after queue fetching => ?_) rfl
            refine ih (fun last same => afterPump last (same.trans queue)) fetching
      | _ => simp_all

/-- A pause after a failure, where reopening the stream comes to rest. -/
theorem settles_backingOff_of
    (opening
      : ∀ after : Task, after.queue = task.queue
          → after.consecutiveFailures = task.consecutiveFailures
          → task.consecutiveFailures < maxConsecutiveFailures
          → after.control = .opening
          → Settles platform after)
    (control : task.control = .backingOff)
    : Settles platform task := by
  refine settles_of_await fun input after same advanced => ?_
  cases advanced with
  | backoffElapsed =>
      unfold backoffElapsed
      split
      · exact settles_leaving rfl
      · next few => exact opening _ rfl rfl (Nat.lt_of_not_le few) rfl
  | _ => simp_all

/-- A pause after an attempt, where another attempt comes to rest. -/
theorem settles_sleeping_of {send : InnerSend} {attempt : Nat}
    (again
      : ∀ after : Task, after.queue = task.queue
          → after.control = .attempting send (attempt + 1) → Settles platform after)
    (control : task.control = .sleeping send attempt)
    : Settles platform task := by
  refine settles_of_await fun input after same advanced => ?_
  cases advanced with
  | retried send attempt control' =>
      cases control.symm.trans control'
      exact again _ rfl rfl
  | _ => simp_all

-----------------------------------------------------------------------------------------
-- The loops, while a shorter queue comes to rest
-----------------------------------------------------------------------------------------

section Loops

variable {bound : Nat}
variable (shorter : ∀ task : Task, task.queue.length < bound → Settles platform task)

include shorter

/-- The next op is taken, or there is none. -/
theorem settles_parked (enough : task.queue.length ≤ bound) (control : task.control = .parked)
    : Settles platform task := by
  refine settles_of_await fun input after same advanced => ?_
  cases advanced with
  | parkedOp op rest control' queued =>
      refine shorter _ ?_
      rw [(parkedOp_goes op _).queue]
      exact Nat.lt_of_lt_of_le (by simp [show task.queue = op :: rest from queued]) enough
  | parkedClosed => exact settles_leaving rfl
  | _ => simp_all [TaskInput.await, Control.answer]

/-- The same while the stream is open. -/
theorem settles_pumping (enough : task.queue.length ≤ bound) (control : task.control = .pumping)
    : Settles platform task := by
  refine settles_of_await fun input after same advanced => ?_
  cases advanced with
  | pumpedOp op rest control' queued =>
      refine shorter _ ?_
      rw [(pumpedOp_goes op _).queue]
      exact Nat.lt_of_lt_of_le (by simp [show task.queue = op :: rest from queued]) enough
  | pumpedClosed =>
      refine settles_fetching (fun after queue => ?_) _ rfl
      exact settles_leaving rfl
  | _ => simp_all [TaskInput.await, Control.answer]

theorem settles_pumpHead (enough : task.queue.length ≤ bound) (control : task.control = .pumpHead)
    : Settles platform task := by
  refine settles_of_await fun input after same advanced => ?_
  cases advanced with
  | swept now order => exact settles_pumping shorter enough rfl
  | _ => simp_all

/-- The top of the outer loop, where reopening the stream comes to rest. -/
theorem settles_head_of (enough : task.queue.length ≤ bound)
    (opening
      : ∀ after : Task, after.queue = task.queue
          → after.consecutiveFailures = task.consecutiveFailures
          → (task.consecutiveFailures = 0 ∨ task.consecutiveFailures < maxConsecutiveFailures)
          → after.control = .opening
          → Settles platform after)
    (control : task.control = .head)
    : Settles platform task := by
  refine settles_of_await fun input after same advanced => ?_
  cases advanced with
  | woke now order =>
      unfold outerHead
      split
      · exact settles_parked shorter enough rfl
      · split
        · refine settles_backingOff_of (fun after queue failures few => ?_) rfl
          exact opening after queue failures (.inr few)
        · next none => exact opening _ rfl rfl (.inl (Nat.eq_zero_of_not_pos none)) rfl
  | _ => simp_all

/-- Reopening the stream succeeds or is given up, by induction on the failures still allowed. -/
theorem settles_opening (enough : task.queue.length ≤ bound) (control : task.control = .opening)
    : Settles platform task := by
  induction allowed : maxConsecutiveFailures - task.consecutiveFailures using
    Nat.strong_induction_on generalizing task with
  | _ allowed ih =>
      refine settles_of_await fun input after same advanced => ?_
      have again (after : Task) (queue : after.queue = task.queue)
          (failed : after.consecutiveFailures = task.consecutiveFailures + 1)
          (head : after.control = .head)
          : Settles platform after := by
        refine settles_head_of shorter (queue ▸ enough) ?_ head
        intro next kept counted few opening
        refine ih _ ?_ (kept.trans queue ▸ enough) opening rfl
        omega
      cases advanced with
      | streamOpened =>
          unfold streamOpened
          split <;> exact settles_pumpHead shorter enough rfl
      | openFailed err closeCode =>
          unfold openFailed
          dsimp only
          split
          · exact settles_leaving rfl
          · split
            · split
              · exact settles_leaving rfl
              · unfold reportFirstFailure
                split <;> exact again _ rfl rfl rfl
            · unfold reportFirstFailure
              split <;> exact again _ rfl rfl rfl
      | _ => simp_all

theorem settles_backingOff (enough : task.queue.length ≤ bound)
    (control : task.control = .backingOff)
    : Settles platform task :=
  settles_backingOff_of
    (fun _ queue _ _ opening => settles_opening shorter (queue ▸ enough) opening) control

theorem settles_head (enough : task.queue.length ≤ bound) (control : task.control = .head)
    : Settles platform task :=
  settles_head_of shorter enough
    (fun _ queue _ _ opening => settles_opening shorter (queue ▸ enough) opening) control

theorem settles_failing (enough : task.queue.length ≤ bound) (control : task.control = .failing)
    : Settles platform task := by
  refine settles_of_await fun input after same advanced => ?_
  cases advanced with
  | failed => exact settles_head shorter enough rfl
  | _ => simp_all

/-- The answers of one attempt, where another attempt comes to rest. -/
theorem settles_sending_of {send : InnerSend} {attempt : Nat} (enough : task.queue.length ≤ bound)
    (again
      : attempt < sendMaxAttempts → ∀ after : Task, after.queue = task.queue
          → after.control = .attempting send (attempt + 1) → Settles platform after)
    (control : task.control = .sending send attempt)
    : Settles platform task := by
  refine settles_of_await fun input after same advanced => ?_
  cases advanced with
  | attemptReturned send attempt outcome now flushOrder commitOrder control' =>
      cases control.symm.trans control'
      unfold attemptReturned
      split
      · exact settles_head shorter enough rfl
      · next retry => exact settles_sleeping_of (again (judge_retry retry)) rfl
      · exact settles_head shorter enough rfl
      · exact settles_failing shorter enough rfl
  | _ => simp_all

/-- A send ends after its last attempt, by induction on the attempts still allowed. -/
theorem settles_attempting {send : InnerSend} {attempt : Nat} (enough : task.queue.length ≤ bound)
    (control : task.control = .attempting send attempt)
    : Settles platform task := by
  induction allowed : sendMaxAttempts - attempt using Nat.strong_induction_on
    generalizing task attempt with
  | _ allowed ih =>
      refine settles_of_await fun input after same advanced => ?_
      cases advanced with
      | refused => exact settles_head shorter enough rfl
      | begun send attempt control' =>
          cases control.symm.trans control'
          refine settles_sending_of shorter enough (fun left next queue starts => ?_) rfl
          exact ih _ (by omega) (queue ▸ enough) starts rfl
      | _ => simp_all

theorem settles_sending {send : InnerSend} {attempt : Nat} (enough : task.queue.length ≤ bound)
    (control : task.control = .sending send attempt)
    : Settles platform task :=
  settles_sending_of shorter enough
    (fun _ _ queue starts => settles_attempting shorter (queue ▸ enough) starts) control

theorem settles_sleeping {send : InnerSend} {attempt : Nat} (enough : task.queue.length ≤ bound)
    (control : task.control = .sleeping send attempt)
    : Settles platform task :=
  settles_sleeping_of
    (fun _ queue starts => settles_attempting shorter (queue ▸ enough) starts) control

theorem settles_starting {send : InnerSend} (enough : task.queue.length ≤ bound)
    (control : task.control = .starting send)
    : Settles platform task := by
  refine settles_of_await fun input after same advanced => ?_
  cases advanced with
  | unknownRecipient => exact settles_head shorter enough rfl
  | knownRecipient => exact settles_attempting shorter enough rfl
  | _ => simp_all

theorem settles_syncing (enough : task.queue.length ≤ bound) (control : task.control = .syncing)
    : Settles platform task := by
  refine settles_of_await fun input after same advanced => ?_
  cases advanced with
  | synced | syncFailed => exact settles_head shorter enough rfl
  | _ => simp_all

theorem settles_resolving {input : String} (enough : task.queue.length ≤ bound)
    (control : task.control = .resolving input)
    : Settles platform task := by
  refine settles_of_await fun input after same advanced => ?_
  cases advanced with
  | usernameResolved => exact settles_head shorter enough rfl
  | _ => simp_all

theorem settles_runManagerOp (enough : task.queue.length ≤ bound) (op : WorkerOp)
    : Settles platform (task.runManagerOp op) := by
  unfold runManagerOp
  cases op with
  | startReceive => exact settles_head shorter enough rfl
  | send send => exact settles_starting shorter enough rfl
  | syncContacts => exact settles_syncing shorter enough rfl
  | resolveUsername input => exact settles_resolving shorter enough rfl

theorem settles_afterPump (enough : task.queue.length ≤ bound) (exit : PumpExit)
    : Settles platform (task.afterPump exit) := by
  cases exit with
  | op op => exact settles_runManagerOp shorter enough op
  | reopen reason =>
      simp only [afterPump, reportFirstFailure]
      split <;> exact settles_head shorter enough rfl
  | shutdown => exact settles_leaving rfl

/-- Wherever the task stands. -/
theorem settles_of_shorter (enough : task.queue.length ≤ bound) : Settles platform task := by
  have afterPump (exit : PumpExit) (after : Task) (queue : after.queue = task.queue) :=
    settles_afterPump shorter (queue ▸ enough) exit
  cases control : task.control with
  | head => exact settles_head shorter enough control
  | parked => exact settles_parked shorter enough control
  | backingOff => exact settles_backingOff shorter enough control
  | opening => exact settles_opening shorter enough control
  | pumpHead => exact settles_pumpHead shorter enough control
  | pumping => exact settles_pumping shorter enough control
  | fetching drained exit => exact settles_fetching (afterPump exit) drained control
  | retrieving aci rest exit =>
      refine settles_retrieving (fun after queue fetching => ?_) control
      exact settles_fetching (fun last same => afterPump exit last (same.trans queue)) rest fetching
  | starting send => exact settles_starting shorter enough control
  | attempting send attempt => exact settles_attempting shorter enough control
  | sending send attempt => exact settles_sending shorter enough control
  | sleeping send attempt => exact settles_sleeping shorter enough control
  | failing => exact settles_failing shorter enough control
  | syncing => exact settles_syncing shorter enough control
  | resolving input => exact settles_resolving shorter enough control
  | leaving => exact settles_leaving control
  | exited => exact settles_ended (by simp [hasExited, control])

end Loops

/-- The task comes to rest from everywhere, by induction on the ops that are queued for it. -/
theorem settles (platform : Platform) (task : Task) : Settles platform task := by
  induction queued : task.queue.length using Nat.strong_induction_on generalizing task with
  | _ bound ih =>
      exact settles_of_shorter (fun next fewer => ih _ fewer next rfl) (Nat.le_of_eq queued)

end Task

end XousAppSignal.Worker
