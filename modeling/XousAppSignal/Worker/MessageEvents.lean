import XousAppSignal.Worker.BatchOwnership

/-! The messages a worker passes on: what a stream item shows the user, and which steps put a
message event into an outbox. The dispatcher sends none, and a task sends one for an item with
a text and for nothing else.
-/

namespace XousAppSignal.Worker

open Store (RecordFormat)

variable {ρ : Type} {platform : Platform} {format : RecordFormat ρ}

/-- The messages among some events. -/
def messages (events : List Event) : List Event := events.filter Event.isMessage

theorem messages_append (left right : List Event)
    : messages (left ++ right) = messages left ++ messages right :=
  List.filter_append ..

theorem messages_eq_nil {events : List Event} (silent : ∀ event ∈ events, event.isMessage = false)
    : messages events = [] :=
  List.filter_eq_nil_iff.mpr fun event listed => by simp [silent event listed]

/-- What an item shows the user: the text of a message, received or sent from the phone. -/
def Received.message (contact : Option Contact) : Received → Option Event
  | .content decrypted =>
      match decrypted.body.textAndGroup with
      | none => none
      | some (text, group) =>
          if text = "" then none
          else
            some (.message decrypted.sender.serviceIdString (contact.bind Contact.phoneNumber)
              (contact.bind Contact.shownName) text decrypted.timestamp group)
  | .queueEmpty => none
  | .contacts => none

/-- Processing an item makes its message an event, once, whatever the state of the loop. -/
theorem processReceived_messages (contact : Option Contact) (item : Received)
    (state : ReceiveState)
    : messages (processReceived contact item state).1 = (item.message contact).toList := by
  cases item with
  | queueEmpty => rfl
  | contacts => rfl
  | content content =>
      by_cases receipt : ∃ type timestamps, content.body = .receiptMessage type timestamps
      · obtain ⟨type, timestamps, same⟩ := receipt
        have nothing : Received.message contact (.content content) = none := by
          simp [Received.message, same, ContentBody.textAndGroup]
        rw [nothing]
        refine messages_eq_nil fun event emitted => ?_
        simp only [processReceived, same] at emitted
        split at emitted
        · obtain ⟨timestamp, rfl⟩ := confirmDelivery_events emitted
          rfl
        · cases emitted
      · rw [processReceived_text contact state (fun type timestamps same =>
          receipt ⟨type, timestamps, same⟩)]
        simp only [Received.message]
        rcases content.body.textAndGroup with _ | ⟨text, group⟩
        · rfl
        · dsimp only
          split <;> rfl

-----------------------------------------------------------------------------------------
-- Steps of a task
-----------------------------------------------------------------------------------------

/-- The message that this input brings. -/
def TaskInput.message : TaskInput → Option Event
  | .item received contact _ => received.message contact
  | _ => none

namespace Task

/-- The events that wait for the channel. -/
def waiting (task : Task) : List Event := task.outbox.map Emit.event

theorem waiting_emit (events : List Event) (control : Control) (task : Task)
    : (task.emit events control).waiting = task.waiting ++ events := by
  simp [waiting, emit, Function.comp_def]

/-- Notices are no messages. -/
theorem Goes.messages {held : PumpExit} {task after : Task} (goes : Goes held task after)
    (taken : task.outbox = [])
    : Worker.messages after.waiting = [] := by
  obtain ⟨emits, outbox, notices⟩ := goes.notices
  refine messages_eq_nil fun event listed => ?_
  rw [waiting, outbox, taken] at listed
  obtain ⟨emit, sent, rfl⟩ := List.mem_map.mp listed
  have notice := notices emit sent
  cases event : emit.event <;> first | rfl | simp [event, Event.isNotice] at notice

theorem sweep_messages (order : HashOrder) (now : Nat) (control : Control) {task : Task}
    (taken : task.outbox = [])
    : messages (task.sweep order now control).waiting = [] := by
  refine messages_eq_nil fun event listed => ?_
  rw [sweep, waiting_emit] at listed
  simp only [waiting, taken, List.map_nil, List.nil_append] at listed
  obtain ⟨timestamp, -, rfl⟩ := List.mem_map.mp listed
  rfl

/-- A step puts the message of its input into the outbox, and no other. -/
theorem step_messages {task after : Task} {input : TaskInput}
    (stepped : task.step platform input = some after)
    : task.outbox = [] ∧ messages after.waiting = input.message.toList := by
  unfold step at stepped
  split at stepped
  · next empty =>
      have taken : task.outbox = [] := List.isEmpty_iff.mp empty
      refine ⟨taken, ?_⟩
      have still {other : Task} (same : other.outbox = task.outbox)
          : messages other.waiting = [] := by
        rw [waiting, same, taken]
        rfl
      have said {event : Event} (other : event.isMessage = false) (control : Control)
          : messages (task.emit [event] control).waiting = [] := by
        rw [waiting_emit, waiting, taken]
        simp [messages, other]
      cases advance_cases stepped with
      | woke now order =>
          unfold outerHead
          split
          · exact sweep_messages order now .parked taken
          · split <;> exact still rfl
      | swept now order => exact sweep_messages order now .pumping taken
      | parkedOp op rest => exact (parkedOp_goes op { task with queue := rest }).messages taken
      | pumpedOp op rest => exact (pumpedOp_goes op { task with queue := rest }).messages taken
      | backoffElapsed => exact (backoffElapsed_goes task).messages taken
      | streamOpened => exact (streamOpened_goes taken).messages taken
      | openFailed err closeCode => exact (openFailed_goes err closeCode task).messages taken
      | nextFetch drained exit => exact (nextFetch_goes drained exit task).messages taken
      | profileFetched aci rest exit result =>
          exact (profileFetched_goes aci rest exit result task).messages taken
      | itemReceived item contact order =>
          have made := processReceived_messages contact item task.toReceiveState
          simpa [waiting, itemReceived, TaskInput.message, Function.comp_def] using made
      | attemptReturned send attempt outcome now =>
          unfold attemptReturned
          split
          · exact said rfl .head
          · exact still rfl
          · exact still rfl
          · exact said rfl .failing
      | unknownRecipient send contacts reason | refused send attempt e | synced
      | syncFailed reason | usernameResolved input result => exact said rfl .head
      | _ => exact still rfl
  · cases stepped

/-- While the channel is open, what it takes is what waited first. -/
theorem deliver_waiting {task after : Task} {event : Option Event}
    (delivered : task.deliver true = some (event, after))
    : task.waiting = event.toList ++ after.waiting := by
  unfold deliver at delivered
  split at delivered
  · cases delivered
  · next first rest queued =>
      cases delivered
      rw [waiting, queued]
      rfl

end Task

-----------------------------------------------------------------------------------------
-- The dispatcher
-----------------------------------------------------------------------------------------

namespace World

/-- No message waits at the dispatcher. -/
def Wordless (world : World ρ) : Prop :=
  ∀ emit ∈ world.dispatcher.outbox, emit.event.isMessage = false

theorem wordless_concat {outbox : List Emit}
    (wordless : ∀ emit ∈ outbox, emit.event.isMessage = false) {emit : Emit}
    (other : emit.event.isMessage = false)
    : ∀ sent ∈ outbox ++ [emit], sent.event.isMessage = false := by
  intro sent listed
  rcases List.mem_append.mp listed with earlier | new
  · exact wordless sent earlier
  · exact List.mem_singleton.mp new ▸ other

theorem refused_isMessage (reason : String) (op : WorkerOp)
    : (op.refused reason).isMessage = false := by
  cases op <;> rfl

theorem Handled.wordless {world after : World ρ} {cmd : Cmd}
    (handled : Handled world cmd after) (wordless : world.Wordless)
    : after.Wordless := by
  cases handled with
  | opRefused cmd op => exact wordless_concat wordless (refused_isMessage _ op)
  | greeted | stopping | accountCached info | linkRefused deviceName | loggedOut =>
      exact wordless_concat wordless rfl
  | _ => exact wordless

theorem linkingCmd_wordless {world : World ρ} (wordless : world.Wordless)
    (control : Bool → DispatcherControl) (cancelled : Bool) (cmd : Cmd)
    : (world.linkingCmd control cancelled cmd).Wordless := by
  unfold linkingCmd
  split
  · exact wordless
  · intro sent listed
    rw [List.mem_singleton.mp listed]
    rfl
  · exact wordless

theorem Dispatched.wordless {world after : World ρ} {input : DispatcherInput}
    (dispatched : Dispatched world input after) (wordless : world.Wordless)
    : after.Wordless := by
  cases dispatched with
  | commandWhileLinking cancelled cmd | commandWhileEnding cancelled linked cmd =>
      exact linkingCmd_wordless wordless _ _ cmd
  | cancelledWhileLinking | cancelledWhileEnding linked =>
      intro sent listed
      rw [List.mem_singleton.mp listed]
      rfl
  | registrationLoaded attempts result =>
      rcases registrationLoaded_cases attempts result world with
        ⟨info, moved⟩ | ⟨control, -, moved⟩ <;> rw [moved]
      · exact wordless_concat wordless rfl
      · exact wordless
  | command cmd => exact (handleCmd_cases cmd world).wordless wordless
  | accountInfoLoaded result =>
      cases result with
      | error message => exact wordless_concat wordless rfl
      | ok info =>
          simp only [World.accountInfoLoaded]
          split
          · exact wordless_concat wordless rfl
          · exact wordless_concat wordless rfl
  | forwarded op after control taken forwarded =>
      rcases forward_cases forwarded with rfl | ⟨index, rfl⟩
      · exact wordless_concat wordless (refused_isMessage _ op)
      · exact wordless
  | linkEnded cancelled result => cases result <;> exact wordless_concat wordless rfl
  | linkReturned cancelled linked => cases linked <;> exact wordless
  | whoami answer | linkUrl cancelled url => exact wordless_concat wordless rfl
  | _ => exact wordless

end World

end XousAppSignal.Worker
