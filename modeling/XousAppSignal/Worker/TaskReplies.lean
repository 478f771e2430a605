import XousAppSignal.Worker.TaskSteps

/-! Replies the manager task owes. An accepted op is queued, in hand, deferred or answered by
an event in the outbox; no step of the task answers it twice or forgets it, except that two
deferred sends of one timestamp share their answer.
-/

namespace XousAppSignal.Worker

/-- What an op asks for: the outcome of a send, a sync result, or a username lookup. -/
inductive Reply where
  | send (timestamp : UInt64)
  | sync
  | resolve
  deriving DecidableEq

def WorkerOp.asks (reply : Reply) : WorkerOp → Bool
  | .startReceive => false
  | .send request => reply = .send request.timestamp
  | .syncContacts => reply = .sync
  | .resolveUsername _ => reply = .resolve

def Event.answers (reply : Reply) : Event → Bool
  | .sendComplete timestamp => reply = .send timestamp
  | .sendError _ (some timestamp) => reply = .send timestamp
  | .syncComplete => reply = .sync
  | .syncError _ => reply = .sync
  | .usernameResolveResult _ => reply = .resolve
  | _ => false

theorem answers_send (timestamp : UInt64) (event : Event)
    : event.answers (.send timestamp) = event.settles timestamp := by
  cases event with
  | sendComplete settled => simp [Event.answers, Event.settles, eq_comm]
  | sendError reason settled =>
      cases settled <;> simp [Event.answers, Event.settles, eq_comm]
  | _ => rfl

/-- One if the op asks for this reply. -/
def WorkerOp.owed (reply : Reply) (op : WorkerOp) : Nat := if op.asks reply then 1 else 0

/-- One if the op of the pump's end asks for this reply. -/
def PumpExit.owed (reply : Reply) : PumpExit → Nat
  | .op taken => taken.owed reply
  | .reopen _ => 0
  | .shutdown => 0

/-- What asks for no reply is owed none. -/
theorem PumpExit.owed_of_isSilent {held : PumpExit} (silent : held.isSilent = true)
    (reply : Reply)
    : held.owed reply = 0 := by
  cases held with
  | op taken =>
      have start : taken = .startReceive := by simpa [isSilent] using silent
      rw [start]
      rfl
  | reopen reason => rfl
  | shutdown => rfl

/-- One if the deferred sends include the one that asks for this reply. -/
def deferredOwed (reply : Reply) (pending : PendingSends) : Nat :=
  match reply with
  | .send timestamp => pending.owed timestamp
  | .sync => 0
  | .resolve => 0

/-- How often some events answer this reply. -/
def answered (reply : Reply) (events : List Event) : Nat := events.countP (Event.answers reply)

namespace Task

/-- How often the task still has to give this reply. -/
def owes (reply : Reply) (task : Task) : Nat :=
  task.queue.countP (WorkerOp.asks reply) + task.control.inHand.owed reply
    + deferredOwed reply task.pendingUnconfirmedSends
    + answered reply (task.outbox.map Emit.event)

/-- The task owes the same replies as before, or fewer of those it still owes. -/
structure Keeps (before after : Task) : Prop where
  most : ∀ reply, after.owes reply ≤ before.owes reply
  some : ∀ reply, 0 < before.owes reply → 0 < after.owes reply
  exact : ∀ reply, (∀ timestamp, reply ≠ .send timestamp) → after.owes reply = before.owes reply

theorem Keeps.of_eq {before after : Task}
    (same : ∀ reply, after.owes reply = before.owes reply)
    : Keeps before after :=
  ⟨fun reply => (same reply).le, fun reply owed => (same reply).symm ▸ owed,
    fun reply _ => same reply⟩

@[simp]
theorem answered_nil (reply : Reply) : answered reply [] = 0 := rfl

@[simp]
theorem answered_append (reply : Reply) (left right : List Event)
    : answered reply (left ++ right) = answered reply left + answered reply right :=
  List.countP_append

@[simp]
theorem answered_singleton (reply : Reply) (event : Event)
    : answered reply [event] = if event.answers reply then 1 else 0 := by
  simp [answered, List.countP_cons]

/-- The op in hand is exchanged for another one, everything else being owed as before. -/
def Hands (held : PumpExit) (before after : Task) : Prop :=
  ∀ reply, after.owes reply + before.control.inHand.owed reply
    = before.owes reply + held.owed reply

theorem Hands.keeps {before after : Task} (hands : Hands before.control.inHand before after)
    : Keeps before after :=
  .of_eq (fun reply => Nat.add_right_cancel (hands reply))

/-- Moving on with another op in hand. -/
theorem hands_control (control : Control) (task : Task)
    : Hands control.inHand task { task with control := control } := by
  intro reply
  simp only [owes]
  omega

/-- Emitting events that answer the op in hand, and going on without it. -/
theorem hands_emit {held : PumpExit} {events : List Event} {control : Control}
    (answers : ∀ reply, answered reply events + control.inHand.owed reply = held.owed reply)
    (task : Task)
    : Hands held task (task.emit events control) := by
  intro reply
  have mapped : events.map (Emit.event ∘ fun event => { event }) = events := by
    simp [Function.comp_def]
  have here := answers reply
  simp only [owes, emit, List.map_append, List.map_map, mapped, answered_append]
  omega

/-- Without an answer the op in hand stays, or is one that asks for none. -/
theorem Goes.hands {held : PumpExit} {before after : Task} (goes : Goes held before after)
    : Hands held before after := by
  intro reply
  obtain ⟨emits, outbox, notices⟩ := goes.notices
  have unanswered : answered reply (emits.map Emit.event) = 0 := by
    rw [answered, List.countP_eq_zero]
    intro event told
    obtain ⟨emit, listed, rfl⟩ := List.mem_map.mp told
    have notice := notices emit listed
    cases event : emit.event <;> simp [event, Event.isNotice] at notice <;> simp [Event.answers]
  have inHand : after.control.inHand.owed reply = held.owed reply := by
    rcases goes.inHand with same | ⟨silent, free⟩
    · rw [same]
    · rw [free, PumpExit.owed_of_isSilent silent]
      rfl
  simp only [owes, goes.queue, goes.pending, outbox, List.map_append, answered_append,
    unanswered, inHand]
  omega

/-- Taking an op from the channel keeps what is owed: it leaves the queue and is in hand. -/
theorem hands_taken {handle : WorkerOp → Task → Task} {task : Task} {op : WorkerOp}
    {rest : List WorkerOp} (queued : task.queue = op :: rest)
    (handled : ∀ op task, Goes (.op op) task (handle op task))
    : Hands .shutdown task (handle op { task with queue := rest }) := by
  intro reply
  have here := (handled op { task with queue := rest }).hands reply
  simp only [owes, queued, List.countP_cons, PumpExit.owed, WorkerOp.owed] at here ⊢
  omega

/-- Receipts and sweeps answer the deferred sends they remove. -/
theorem answered_deferred {reply : Reply} {events : List Event} {before after : PendingSends}
    (settled : ∀ timestamp, events.countP (Event.settles timestamp) + after.owed timestamp
      = before.owed timestamp)
    (sends : ∀ event ∈ events, event.answers .sync = false ∧ event.answers .resolve = false)
    : answered reply events + deferredOwed reply after = deferredOwed reply before := by
  cases reply with
  | send timestamp =>
      have same : Event.answers (.send timestamp) = Event.settles timestamp :=
        funext (answers_send timestamp)
      simpa [answered, deferredOwed, same] using settled timestamp
  | sync => simpa [answered, deferredOwed] using fun event member => (sends event member).1
  | resolve => simpa [answered, deferredOwed] using fun event member => (sends event member).2

/-- A sweep answers what it removes. -/
theorem hands_sweep {control : Control} (free : control.inHand = .shutdown)
    (order : HashOrder) (now : Nat) (task : Task)
    : Hands .shutdown task (task.sweep order now control) := by
  intro reply
  have settled := @answered_deferred reply _ _ _
    (fun timestamp => sweep_owed timestamp order now task.pendingUnconfirmedSends)
    (by simp [sweepExpiredPendingSends, Event.answers])
  have mapped (events : List Event)
      : events.map (Emit.event ∘ fun event => { event }) = events := by
    simp [Function.comp_def]
  simp only [owes, sweep, emit, List.map_append, List.map_map, mapped, answered_append, free]
  omega

theorem hands_outerHead (order : HashOrder) (now : Nat) (task : Task)
    : Hands .shutdown task (task.outerHead order now) := by
  unfold outerHead
  split
  · exact hands_sweep rfl order now task
  · split
    · exact hands_control .backingOff task
    · exact hands_control .opening task

/-- A stream item answers the deferred sends it confirms. -/
theorem hands_itemReceived (item : Received) (contact : Option Contact) {task : Task}
    (taken : task.outbox = [])
    : Hands .shutdown task (task.itemReceived item contact) := by
  intro reply
  have sends : ∀ event ∈ (processReceived contact item task.toReceiveState).1,
      event.answers .sync = false ∧ event.answers .resolve = false := by
    intro event emitted
    rcases processReceived_events emitted with ⟨timestamp, rfl⟩ | message
    · exact ⟨rfl, rfl⟩
    · cases event <;> first | exact ⟨rfl, rfl⟩ | cases message
  have settled := @answered_deferred reply _ _ _
    (fun timestamp => processReceived_owed timestamp contact item task.toReceiveState) sends
  have mapped (events : List Event)
      : events.map (Emit.event ∘ fun event => { event, vital := true }) = events := by
    simp [Function.comp_def]
  simp only [owes, itemReceived, taken, List.map_nil, List.map_map, mapped, answered_nil,
    Control.inHand]
  omega

/-- An op is done with one event that answers it. -/
theorem hands_answer {event : Event} {op : WorkerOp} {control : Control}
    (outcome : ∀ reply, event.answers reply = op.asks reply)
    (free : control.inHand = .shutdown) (task : Task)
    : Hands (.op op) task (task.emit [event] control) := by
  apply hands_emit
  intro reply
  simp [outcome, free, PumpExit.owed, WorkerOp.owed]

/-- A deferred send is owed through the map; a timestamp that was deferred before stays
owed once.
-/
theorem keeps_deferred {send : InnerSend} {task : Task} (deadline : Nat)
    (sending : task.control.inHand = .op (.send send))
    : Keeps task
        { task with
          pendingUnconfirmedSends :=
            task.pendingUnconfirmedSends.insert send.timestamp deadline
          control := .head } := by
  have deferred (reply : Reply)
      : deferredOwed reply (task.pendingUnconfirmedSends.insert send.timestamp deadline)
        = if reply = .send send.timestamp then 1
          else deferredOwed reply task.pendingUnconfirmedSends := by
    cases reply with
    | send timestamp => simp [deferredOwed, PendingSends.owed_insert]
    | sync => simp [deferredOwed]
    | resolve => simp [deferredOwed]
  let rest (reply : Reply) : Nat :=
    task.queue.countP (WorkerOp.asks reply) + answered reply (task.outbox.map Emit.event)
  have before (reply : Reply)
      : task.owes reply
        = rest reply + (if reply = .send send.timestamp then 1 else 0)
          + deferredOwed reply task.pendingUnconfirmedSends := by
    simp only [owes, sending, PumpExit.owed, WorkerOp.owed, WorkerOp.asks, decide_eq_true_eq,
      rest]
    omega
  refine ⟨fun reply => ?_, fun reply owed => ?_, fun reply other => ?_⟩
  all_goals
    have after : { task with
          pendingUnconfirmedSends :=
            task.pendingUnconfirmedSends.insert send.timestamp deadline
          control := Control.head }.owes reply
        = rest reply
          + if reply = .send send.timestamp then 1
            else deferredOwed reply task.pendingUnconfirmedSends := by
      simp only [owes, deferred, Control.inHand, PumpExit.owed, rest]
      omega
    rw [after]
  · rw [before]
    split <;> omega
  · rw [before] at owed
    split
    · omega
    · next elsewhere =>
        rw [if_neg elsewhere] at owed
        omega
  · rw [before, if_neg (other _), if_neg (other _)]
    rfl

theorem keeps_attemptReturned (platform : Platform) {send : InnerSend} {task : Task}
    (sending : task.control.inHand = .op (.send send)) (attempt : Nat)
    (outcome : SendOutcome) (now : Nat)
    : Keeps task (task.attemptReturned platform send attempt outcome now) := by
  unfold attemptReturned
  split
  · exact (sending ▸ hands_answer (fun _ => rfl) rfl task : Hands task.control.inHand _ _).keeps
  · exact (sending ▸ hands_control (.sleeping send attempt) task
      : Hands task.control.inHand _ _).keeps
  · exact keeps_deferred _ sending
  · exact (sending ▸ hands_answer (fun _ => rfl) rfl task : Hands task.control.inHand _ _).keeps

/-- One step of the task keeps what it owes, by cases on the await point. -/
theorem advance_keeps {platform : Platform} {task after : Task} {input : TaskInput}
    (taken : task.outbox = []) (stepped : task.advance platform input = some after)
    : Keeps task after := by
  -- outside the send attempts the op in hand is known from the await point
  have keep {held : PumpExit} {next : Task} (hands : Hands held task next)
      (here : ∀ reply, task.control.inHand.owed reply = held.owed reply) : Keeps task next :=
    .of_eq (fun reply => Nat.add_right_cancel ((hands reply).trans (by rw [here])))
  cases advance_cases stepped with
  | woke now order here => exact keep (hands_outerHead _ _ task) (fun _ => by rw [here]; rfl)
  | parkedTick here => exact keep (hands_control .head task) (fun _ => by rw [here]; rfl)
  | parkedOp op rest here queued =>
      exact keep (hands_taken queued parkedOp_goes) (fun _ => by rw [here]; rfl)
  | parkedClosed here => exact keep (hands_control .leaving task) (fun _ => by rw [here]; rfl)
  | backoffElapsed here => exact keep (backoffElapsed_goes task).hands (fun _ => by rw [here]; rfl)
  | streamOpened closeCode here =>
      exact keep (streamOpened_goes taken).hands (fun _ => by rw [here]; rfl)
  | openFailed err closeCode here =>
      exact keep (openFailed_goes _ _ task).hands (fun _ => by rw [here]; rfl)
  | swept now order here => exact keep (hands_sweep rfl _ _ task) (fun _ => by rw [here]; rfl)
  | itemReceived item contact order here =>
      exact keep (hands_itemReceived _ _ taken) (fun _ => by rw [here]; rfl)
  | streamEnded here => exact keep (endPump_goes _ task).hands (fun _ => by rw [here]; rfl)
  | pumpedOp op rest here queued =>
      exact keep (hands_taken queued pumpedOp_goes) (fun _ => by rw [here]; rfl)
  | pumpedClosed here => exact keep (endPump_goes .shutdown task).hands (fun _ => by rw [here]; rfl)
  | pumpedTick here => exact keep (hands_control .pumpHead task) (fun _ => by rw [here]; rfl)
  | nextFetch drained exit here =>
      exact keep (nextFetch_goes _ _ task).hands (fun _ => by rw [here]; rfl)
  | profileFetched aci rest exit result here =>
      exact keep (profileFetched_goes _ _ _ _ task).hands (fun _ => by rw [here]; rfl)
  | unknownRecipient send contacts reason here =>
      exact keep (hands_answer (fun _ => rfl) rfl task) (fun _ => by rw [here]; rfl)
  | knownRecipient send contacts uuid here =>
      exact keep (hands_control _ task) (fun _ => by rw [here]; rfl)
  | refused send attempt e here =>
      exact keep (hands_answer (fun _ => rfl) rfl task) (fun _ => by rw [here]; rfl)
  | begun send attempt here => exact keep (hands_control _ task) (fun _ => by rw [here]; rfl)
  | attemptReturned send attempt outcome now flushOrder commitOrder here =>
      exact keeps_attemptReturned platform (by rw [here]; rfl) _ _ _
  | retried send attempt here => exact keep (hands_control _ task) (fun _ => by rw [here]; rfl)
  | failed here => exact keep (hands_control .head task) (fun _ => by rw [here]; rfl)
  | synced here =>
      exact keep (hands_answer (fun _ => rfl) rfl task) (fun _ => by rw [here]; rfl)
  | syncFailed reason here =>
      exact keep (hands_answer (fun _ => rfl) rfl task) (fun _ => by rw [here]; rfl)
  | usernameResolved input result here =>
      exact keep (hands_answer (fun _ => rfl) rfl task) (fun _ => by rw [here]; rfl)
  | left here => exact keep (hands_control .exited task) (fun _ => by rw [here]; rfl)

end Task

end XousAppSignal.Worker
