import XousAppSignal.Worker.TaskReplies

/-! What becomes of accepted ops when the manager task ends. The task answers everything it
takes from its channel, but none of its exits looks at what is still queued or deferred.
-/

namespace XousAppSignal.Worker

namespace Task

/-- The task ends in one place only: after its last event was taken. -/
theorem advance_exits {platform : Platform} {task after : Task} {input : TaskInput}
    (stepped : task.advance platform input = some after) (exited : after.hasExited = true)
    : task.control = .leaving ∧ input = .proceed
      ∧ after = { task with control := .exited } := by
  have stays (running : after.hasExited = false)
      : task.control = .leaving ∧ input = .proceed
        ∧ after = { task with control := .exited } := by
    rw [running] at exited
    cases exited
  cases advance_cases stepped with
  | left control => exact ⟨control, rfl, rfl⟩
  | woke now order =>
      apply stays
      unfold outerHead
      repeat' split
      all_goals rfl
  | parkedOp op => exact stays (parkedOp_goes op _).running
  | pumpedOp op => exact stays (pumpedOp_goes op _).running
  | backoffElapsed => exact stays (backoffElapsed_goes task).running
  | streamOpened =>
      apply stays
      unfold streamOpened
      split <;> rfl
  | openFailed err closeCode => exact stays (openFailed_goes err closeCode task).running
  | nextFetch drained exit => exact stays (nextFetch_goes drained exit task).running
  | profileFetched aci rest exit result =>
      exact stays (profileFetched_goes aci rest exit result task).running
  | attemptReturned send attempt outcome now =>
      apply stays
      unfold attemptReturned
      split <;> rfl
  | _ => exact stays rfl

end Task

namespace Manager

/-- When the task ends, it owes no reply: nothing that asks for one is queued, and no send is
deferred.
-/
def LeavesSettled (manager : Manager) : ManagerInput → Prop
  | .advance .proceed =>
      manager.task.control = .leaving → ∀ reply, manager.task.owes reply = 0
  | _ => True

/-- Every accepted op is answered or still owed its reply, and a task that has ended owes
nothing.
-/
structure Accounted (manager : Manager) : Prop where
  sends
    : ∀ reply, 0 < manager.accepted.countP (WorkerOp.asks reply)
        → 0 < answered reply manager.sent + manager.task.owes reply
  exact
    : ∀ reply, (∀ timestamp, reply ≠ .send timestamp)
        → manager.accepted.countP (WorkerOp.asks reply)
          ≤ answered reply manager.sent + manager.task.owes reply
  settled
    : manager.task.hasExited = true
        → manager.task.outbox = [] ∧ ∀ reply, manager.task.owes reply = 0

theorem accounted_start : Accounted {} :=
  ⟨fun _ asked => by simp at asked, fun _ _ => by simp, fun exited => by cases exited⟩

/-- A delivered event moves from the outbox to the events sent. -/
theorem Accounted.deliver {manager after : Manager} (accounted : Accounted manager)
    {event : Option Event} (delivered : manager.deliver true = some (event, after))
    : Accounted after := by
  obtain ⟨⟨event', task⟩, taken, same⟩ := Option.map_eq_some_iff.mp delivered
  cases same
  unfold Task.deliver at taken
  split at taken
  · cases taken
  · next first rest queued =>
      simp only [if_true, Option.some.injEq, Prod.mk.injEq] at taken
      obtain ⟨rfl, rfl⟩ := taken
      have moved (reply : Reply)
          : answered reply (manager.sent ++ [first.event])
              + { manager.task with outbox := rest }.owes reply
            = answered reply manager.sent + manager.task.owes reply := by
        have counted : answered reply (manager.task.outbox.map Emit.event)
            = answered reply [first.event] + answered reply (rest.map Emit.event) := by
          rw [queued, List.map_cons, ← Task.answered_append]
          rfl
        simp only [Task.owes, Task.answered_append, counted]
        omega
      refine ⟨fun reply asked => ?_, fun reply other => ?_, fun exited => ?_⟩
      · exact (moved reply).symm ▸ accounted.sends reply asked
      · exact (moved reply).symm ▸ accounted.exact reply other
      · have empty := (accounted.settled exited).1
        rw [queued] at empty
        cases empty

theorem Accounted.accept {manager : Manager} (accounted : Accounted manager)
    (room : manager.canAccept = true) (op : WorkerOp)
    : Accounted (manager.accept op) := by
  have queued (reply : Reply)
      : (manager.accept op).task.owes reply = manager.task.owes reply + op.owed reply := by
    simp only [Manager.accept, Task.owes, List.countP_append, List.countP_cons,
      List.countP_nil, WorkerOp.owed]
    omega
  have asked (reply : Reply)
      : (manager.accept op).accepted.countP (WorkerOp.asks reply)
        = manager.accepted.countP (WorkerOp.asks reply) + op.owed reply := by
    simp [Manager.accept, WorkerOp.owed, List.countP_append, List.countP_cons]
  have sent : (manager.accept op).sent = manager.sent := rfl
  refine ⟨fun reply some => ?_, fun reply other => ?_, fun exited => ?_⟩
  · have before := accounted.sends reply
    rw [asked] at some
    rw [queued, sent]
    omega
  · have before := accounted.exact reply other
    rw [asked, queued, sent]
    omega
  · have running : manager.task.hasExited = false := by
      simp only [canAccept, Bool.and_eq_true, Bool.not_eq_true'] at room
      exact room.1.2
    have same : (manager.accept op).task.hasExited = manager.task.hasExited := rfl
    rw [same, running] at exited
    cases exited

theorem Accounted.advance {platform : Platform} {manager after : Manager}
    (accounted : Accounted manager) {input : TaskInput}
    (leaves : manager.LeavesSettled (.advance input))
    (stepped : manager.advance platform input = some after)
    : Accounted after := by
  obtain ⟨task, moved, rfl⟩ := Option.map_eq_some_iff.mp stepped
  simp only [Task.step, List.isEmpty_iff] at moved
  split at moved
  · next taken =>
      have keeps := Task.advance_keeps taken moved
      refine ⟨fun reply asked => ?_, fun reply other => ?_, fun exited => ?_⟩
      · have before := accounted.sends reply asked
        have still := keeps.some reply
        dsimp only
        omega
      · have before := accounted.exact reply other
        rw [← keeps.exact reply other] at before
        exact before
      · obtain ⟨leaving, rfl, rfl⟩ := Task.advance_exits moved exited
        exact ⟨taken, fun reply => Nat.eq_zero_of_le_zero (leaves leaving reply ▸ keeps.most reply)⟩
  · cases moved

/-- One step keeps the accounts, as long as the event channel is open and the task does not
end with a reply to give.
-/
theorem Accounted.step {platform : Platform} {manager after : Manager}
    (accounted : Accounted manager) {input : ManagerInput}
    (channel : input ≠ .deliver false) (leaves : manager.LeavesSettled input)
    (stepped : manager.step platform input = some after)
    : Accounted after := by
  cases input with
  | accept op =>
      simp only [Manager.step] at stepped
      split at stepped
      · next room =>
          obtain rfl := Option.some.inj stepped
          exact accounted.accept room op
      · cases stepped
  | dropSender =>
      obtain rfl := Option.some.inj stepped
      exact ⟨accounted.sends, accounted.exact, accounted.settled⟩
  | advance input => exact accounted.advance leaves stepped
  | deliver isOpen =>
      cases isOpen with
      | false => exact absurd rfl channel
      | true =>
          obtain ⟨⟨event, next⟩, delivered, rfl⟩ := Option.map_eq_some_iff.mp stepped
          exact accounted.deliver delivered

/-- An ended task with settled accounts has answered every op its channel accepted. -/
theorem Accounted.answered_all {manager : Manager} (accounted : Accounted manager)
    (exited : manager.task.hasExited = true)
    : (∀ send, .send send ∈ manager.accepted
        → ∃ event ∈ manager.sent, event.settles send.timestamp = true)
      ∧ manager.accepted.countP (WorkerOp.asks .sync) ≤ answered .sync manager.sent
      ∧ manager.accepted.countP (WorkerOp.asks .resolve) ≤ answered .resolve manager.sent := by
  have nothing := (accounted.settled exited).2
  refine ⟨fun send accepted => ?_, ?_, ?_⟩
  · have asked : 0 < manager.accepted.countP (WorkerOp.asks (.send send.timestamp)) :=
      List.countP_pos_iff.mpr ⟨.send send, accepted, by simp [WorkerOp.asks]⟩
    have told := accounted.sends _ asked
    rw [nothing, Nat.add_zero] at told
    obtain ⟨event, sent, answers⟩ := List.countP_pos_iff.mp told
    exact ⟨event, sent, (answers_send send.timestamp event) ▸ answers⟩
  · have told := accounted.exact .sync (by simp)
    rwa [nothing, Nat.add_zero] at told
  · have told := accounted.exact .resolve (by simp)
    rwa [nothing, Nat.add_zero] at told

/-- A guarded run keeps the accounts, by induction on the inputs. -/
theorem Accounted.run {platform : Platform} {start manager : Manager}
    {inputs : List ManagerInput} (accounted : start.Accounted)
    (reached : Runs.run? (Manager.step platform) start inputs = some manager)
    (channelOpen : ∀ input ∈ inputs, input ≠ .deliver false)
    (settled : Runs.Guarded? (Manager.step platform) LeavesSettled start inputs)
    : manager.Accounted := by
  induction inputs generalizing start with
  | nil => exact Option.some.inj reached ▸ accounted
  | cons input rest ih =>
      obtain ⟨next, stepped, later⟩ := Option.bind_eq_some_iff.mp reached
      exact ih (accounted.step (channelOpen input (by simp)) settled.1 stepped) later
        (fun other member => channelOpen other (by simp [member])) (settled.2 next stepped)

end Manager

/-- In every run of the manager task with the event channel open, if the task ends only when it
owes no reply, then every op it accepted has had its reply.
-/
theorem ended_task_answered (platform : Platform) (inputs : List ManagerInput)
    (manager : Manager)
    (reached : Runs.run? (Manager.step platform) {} inputs = some manager)
    (channelOpen : ∀ input ∈ inputs, input ≠ .deliver false)
    (settled : Runs.Guarded? (Manager.step platform) Manager.LeavesSettled {} inputs)
    (exited : manager.task.hasExited = true)
    : (∀ send, .send send ∈ manager.accepted
        → ∃ event ∈ manager.sent, event.settles send.timestamp = true)
      ∧ manager.accepted.countP (WorkerOp.asks .sync) ≤ answered .sync manager.sent
      ∧ manager.accepted.countP (WorkerOp.asks .resolve) ≤ answered .resolve manager.sent := by
  exact (Manager.Accounted.run Manager.accounted_start reached channelOpen settled).answered_all
    exited

/-- The server closes the connection with 4409 while a send waits in the op queue: the task
ends and the send never gets an outcome.
-/
theorem queued_send_lost
    : let send : InnerSend := ⟨(⟨1⟩ : Uuid).toString, "hi", 5⟩
      let inputs : List ManagerInput :=
        [.accept .startReceive, .advance (.wake 0 .insertion), .advance .recv,
          .advance (.wake 0 .insertion), .accept (.send send),
          .advance (.opened (.error "HTTP 409") (some 4409)), .deliver true, .advance .proceed]
      ∃ manager,
        Runs.run? (Manager.step (.knowing ⟨1⟩)) {} inputs = some manager
        ∧ manager.task.hasExited = true
        ∧ .send send ∈ manager.accepted
        ∧ ∀ event ∈ manager.sent, event.settles 5 = false := by
  refine ⟨_, rfl, rfl, ?_, ?_⟩
  · exact List.mem_cons_of_mem _ List.mem_cons_self
  · intro event sent
    obtain rfl := List.mem_singleton.mp sent
    rfl

/-- A parked task syncs the contacts, then notices that its op channel is closed: it ends
owing nothing, and the sync was answered.
-/
theorem ended_task_answered_sync
    : let inputs : List ManagerInput :=
        [.accept .syncContacts, .advance (.wake 0 .insertion), .advance .recv,
          .advance (.synced (.ok ())), .deliver true, .dropSender,
          .advance (.wake 0 .insertion), .advance .recv, .advance .proceed]
      ∃ manager,
        Runs.run? (Manager.step (.knowing ⟨1⟩)) {} inputs = some manager
        ∧ manager.task.hasExited = true
        ∧ manager.accepted.countP (WorkerOp.asks .sync) = 1
        ∧ manager.accepted.countP (WorkerOp.asks .sync) ≤ answered .sync manager.sent := by
  intro inputs
  have settled : Runs.Guarded? (Manager.step (.knowing ⟨1⟩)) Manager.LeavesSettled {}
      inputs := by
    iterate 8
      refine ⟨trivial, fun next stepped => ?_⟩
      cases stepped
    refine ⟨fun _ reply => ?_, fun _ _ => trivial⟩
    cases reply <;> rfl
  refine ⟨_, rfl, rfl, rfl, ?_⟩
  exact (ended_task_answered (.knowing ⟨1⟩) inputs _ rfl (by simp [inputs]) settled rfl).2.1

end XousAppSignal.Worker
