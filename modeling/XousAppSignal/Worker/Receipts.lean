import XousAppSignal.Worker.TaskSteps

/-! Who may confirm a deferred send. The task keeps only the timestamp of a send it defers; the
recipient it was addressed to is noted here on the side.
-/

namespace XousAppSignal.Worker

open Store (ServiceId)

/-- A manager task with the account its current send goes to, and those its deferred sends
went to.
-/
structure Addressed where
  manager : Manager := {}
  addressee : Option Uuid := none
  recipientOf : UInt64 → Option Uuid := fun _ => none

namespace Addressed

/-- The account a step resolves the recipient of its send to. -/
def resolves (platform : Platform) (control : Control) : ManagerInput → Option Uuid
  | .advance (.contacts contacts) =>
      match control with
      | .starting send => (resolveRecipient platform contacts send.recipient).toOption
      | _ => none
  | _ => none

/-- The send a step defers. -/
def defers (platform : Platform) (control : Control) : ManagerInput → Option InnerSend
  | .advance (.sendReturned outcome _ _ _) =>
      match control with
      | .sending send attempt =>
          if judge platform attempt outcome = .defer then some send else none
      | _ => none
  | _ => none

/-- Only a send that is under way is deferred. -/
theorem defers_underWay {platform : Platform} {control : Control} {input : ManagerInput}
    {send : InnerSend} (deferral : defers platform control input = some send)
    : control.underWay = some send := by
  unfold defers at deferral
  split at deferral
  · split at deferral
    · split at deferral
      · cases deferral
        rfl
      · cases deferral
    · cases deferral
  · cases deferral

/-- A step of the task, noting where its sends go. -/
def step (platform : Platform) (state : Addressed) (input : ManagerInput)
    : Option Addressed :=
  (state.manager.step platform input).map (fun manager =>
    let control := state.manager.task.control
    { manager
      addressee := (resolves platform control input).or state.addressee
      recipientOf :=
        match defers platform control input with
        | none => state.recipientOf
        | some send => Function.update state.recipientOf send.timestamp state.addressee })

end Addressed

/-- What an item confirms: only delivery receipts do, only for the sends that went to the
sender of the receipt, and the other deferred sends stay as they are.
-/
structure ConfirmsOwn (recipientOf : UInt64 → Option Uuid) (item : Received)
    (before after : PendingSends) (events : List Event)
    : Prop where
  confirmed
    : ∀ timestamp, .sendComplete timestamp ∈ events
        → ∃ content type timestamps uuid,
            item = .content content
            ∧ content.body = .receiptMessage type timestamps
            ∧ type.getD 0 = 0
            ∧ recipientOf timestamp = some uuid
            ∧ content.sender = .aci uuid
  others
    : ∀ content timestamp uuid, item = .content content
        → recipientOf timestamp = some uuid → content.sender ≠ .aci uuid
        → after.lookup timestamp = before.lookup timestamp

/-- Whatever counts as a delivery receipt and names a deferred send has no type or the
delivery type, and comes from the account that send went to.
-/
def HonestReceipt (recipientOf : UInt64 → Option Uuid) (item : Received)
    (pending : PendingSends)
    : Prop :=
  ∀ content type timestamps timestamp,
    item = .content content → content.body = .receiptMessage type timestamps
    → isDelivery type = true → timestamp ∈ timestamps → (pending.lookup timestamp).isSome
    → type.getD 0 = 0
      ∧ ∃ uuid, recipientOf timestamp = some uuid ∧ content.sender = .aci uuid

/-- A receipt completes the deferred sends it names, by induction on its timestamps. -/
theorem sendComplete_mem_confirmDelivery {timestamp : UInt64} {timestamps : List UInt64}
    {pending : PendingSends}
    : .sendComplete timestamp ∈ (confirmDelivery timestamps pending).1
      ↔ timestamp ∈ timestamps ∧ (pending.lookup timestamp).isSome = true := by
  induction timestamps generalizing pending with
  | nil => simp [confirmDelivery]
  | cons first rest ih =>
      unfold confirmDelivery
      split
      · next present =>
          simp only [List.mem_cons, Event.sendComplete.injEq, ih, FiniteMap.lookup_erase']
          by_cases here : timestamp = first
          · subst here
            simp [present]
          · simp [here]
      · next absent =>
          rw [ih]
          by_cases here : timestamp = first
          · subst here
            simp [absent]
          · simp [here]

theorem lookup_confirmDelivery (timestamp : UInt64) (timestamps : List UInt64)
    (pending : PendingSends)
    : (confirmDelivery timestamps pending).2.lookup timestamp
      = if timestamp ∈ timestamps then none else pending.lookup timestamp := by
  induction timestamps generalizing pending with
  | nil => simp [confirmDelivery]
  | cons first rest ih =>
      unfold confirmDelivery
      split
      · simp only [ih, FiniteMap.lookup_erase', List.mem_cons]
        by_cases here : timestamp = first <;> by_cases later : timestamp ∈ rest <;>
          simp [here, later]
      · next absent =>
          rw [ih]
          by_cases here : timestamp = first
          · subst here
            have vacant : pending.lookup timestamp = none := by simpa using absent
            simp [vacant]
          · simp [here]

/-- Receipts apart, an item leaves the deferred sends alone and completes none. -/
theorem processReceived_pending {contact : Option Contact} {item : Received}
    {state : ReceiveState}
    (other
      : ∀ content type timestamps, item = .content content
          → content.body ≠ .receiptMessage type timestamps)
    : (processReceived contact item state).2.pendingUnconfirmedSends
        = state.pendingUnconfirmedSends
      ∧ ∀ timestamp, .sendComplete timestamp ∉ (processReceived contact item state).1 := by
  rcases processReceived_cases contact item state with
    ⟨content, type, timestamps, same, receipt, -⟩ | ⟨pending, events | ⟨event, message, events⟩⟩
  · exact absurd receipt (other content type timestamps same)
  · simp [pending, events]
  · refine ⟨pending, fun timestamp emitted => ?_⟩
    rw [events, List.mem_singleton] at emitted
    subst emitted
    cases message

/-- An item confirms its own sender's deferred sends only, exactly if it is no receipt that
counts as a delivery of somebody else's.
-/
theorem confirmsOwn_iff (recipientOf : UInt64 → Option Uuid) (contact : Option Contact)
    (item : Received) (state : ReceiveState)
    : ConfirmsOwn recipientOf item state.pendingUnconfirmedSends
        (processReceived contact item state).2.pendingUnconfirmedSends
        (processReceived contact item state).1
      ↔ HonestReceipt recipientOf item state.pendingUnconfirmedSends := by
  by_cases receipt : ∃ content type timestamps, item = .content content
      ∧ content.body = .receiptMessage type timestamps
  · obtain ⟨⟨_, sender, sent⟩, type, timestamps, rfl, rfl⟩ := receipt
    cases counts : isDelivery type with
    | false =>
        simp only [processReceived, counts, Bool.false_eq_true, if_false]
        refine ⟨fun _ => ?_, fun _ => ⟨fun _ emitted => ?_, fun _ _ _ _ _ _ => rfl⟩⟩
        · rintro _ type' timestamps' timestamp whole body delivery
          cases whole
          cases body
          rw [counts] at delivery
          cases delivery
        · cases emitted
    | true =>
        simp only [processReceived, counts, if_true]
        constructor
        · rintro confirms _ type' timestamps' timestamp whole body - named deferred
          cases whole
          cases body
          obtain ⟨_, type', timestamps', uuid, whole, body, typed, recipient, sender⟩ :=
            confirms.confirmed timestamp
              (sendComplete_mem_confirmDelivery.mpr ⟨named, deferred⟩)
          cases whole
          cases body
          exact ⟨typed, uuid, recipient, sender⟩
        · intro honest
          refine ⟨fun timestamp emitted => ?_, fun _ timestamp uuid whole recipient apart => ?_⟩
          · obtain ⟨named, deferred⟩ := sendComplete_mem_confirmDelivery.mp emitted
            obtain ⟨typed, uuid, recipient, sender⟩ :=
              honest _ type timestamps timestamp rfl rfl counts named deferred
            exact ⟨_, type, timestamps, uuid, rfl, rfl, typed, recipient, sender⟩
          · cases whole
            rw [lookup_confirmDelivery]
            split
            · next named =>
                cases deferred : state.pendingUnconfirmedSends.lookup timestamp with
                | none => rfl
                | some deadline =>
                    obtain ⟨-, other, same, sender⟩ := honest _ type timestamps timestamp rfl
                      rfl counts named (by simp [deferred])
                    rw [recipient] at same
                    cases same
                    exact absurd sender apart
            · rfl
  · have none' (content : Content) (type : Option Int) (timestamps : List UInt64)
        (whole : item = .content content)
        : content.body ≠ .receiptMessage type timestamps :=
      fun body => receipt ⟨content, type, timestamps, whole, body⟩
    obtain ⟨same, silent⟩ := @processReceived_pending contact item state none'
    rw [same]
    refine ⟨fun _ content type timestamps _ whole body => ?_, fun _ => ⟨?_, ?_⟩⟩
    · exact absurd body (none' content type timestamps whole)
    · exact fun timestamp emitted => absurd emitted (silent timestamp)
    · exact fun _ _ _ _ _ _ => rfl

-----------------------------------------------------------------------------------------
-- Over whole runs of the task
-----------------------------------------------------------------------------------------

namespace Task

/-- The pending map after a step is smaller, or has the send that was just deferred; and a
send that is under way was so before, or its recipient was just resolved.
-/
structure Traces (platform : Platform) (task after : Task) (input : TaskInput) : Prop where
  pending
    : ∀ timestamp, (after.pendingUnconfirmedSends.lookup timestamp).isSome = true
        → (task.pendingUnconfirmedSends.lookup timestamp).isSome = true
          ∨ ∃ send, Addressed.defers platform task.control (.advance input) = some send
              ∧ send.timestamp = timestamp
  underWay
    : after.control.underWay.isSome = true
        → task.control.underWay.isSome = true
          ∨ (Addressed.resolves platform task.control (.advance input)).isSome = true

/-- No send is under way after the step, and it defers none. -/
def Rests (task after : Task) : Prop :=
  after.control.underWay = none
  ∧ ∀ timestamp, (after.pendingUnconfirmedSends.lookup timestamp).isSome = true
      → (task.pendingUnconfirmedSends.lookup timestamp).isSome = true

theorem Rests.traces {platform : Platform} {task after : Task} {input : TaskInput}
    (rests : Rests task after)
    : Traces platform task after input :=
  ⟨fun timestamp deferred => .inl (rests.2 timestamp deferred),
    fun busy => by simp [rests.1] at busy⟩

theorem rests_of_same {task after : Task}
    (pending : after.pendingUnconfirmedSends = task.pendingUnconfirmedSends)
    (idle : after.control.underWay = none)
    : Rests task after :=
  ⟨idle, fun _ deferred => pending ▸ deferred⟩

theorem isSome_of_owed_le {before after : PendingSends} {timestamp : UInt64}
    (fewer : PendingSends.owed timestamp after ≤ PendingSends.owed timestamp before)
    (deferred : (after.lookup timestamp).isSome = true)
    : (before.lookup timestamp).isSome = true := by
  simp only [PendingSends.owed, deferred, if_true] at fewer
  by_contra absent
  rw [if_neg absent] at fewer
  omega

theorem Goes.rests {held : PumpExit} {task after : Task} (goes : Goes held task after)
    : Rests task after :=
  rests_of_same goes.pending goes.underWay

theorem rests_sweep (order : HashOrder) (now : Nat) {control : Control}
    (idle : control.underWay = none) (task : Task)
    : Rests task (task.sweep order now control) := by
  refine ⟨idle, fun timestamp deferred => isSome_of_owed_le ?_ deferred⟩
  have settled := sweep_owed timestamp order now task.pendingUnconfirmedSends
  change PendingSends.owed timestamp
    (sweepExpiredPendingSends order now task.pendingUnconfirmedSends).2 ≤ _
  omega

theorem rests_itemReceived (item : Received) (contact : Option Contact) (task : Task)
    : Rests task (task.itemReceived item contact) := by
  refine ⟨rfl, fun timestamp deferred => isSome_of_owed_le ?_ deferred⟩
  have settled := processReceived_owed timestamp contact item task.toReceiveState
  change PendingSends.owed timestamp
    (processReceived contact item task.toReceiveState).2.pendingUnconfirmedSends ≤ _
  omega

/-- What one step of the task does to the sends it has under way and deferred. -/
theorem advance_traces {platform : Platform} {task after : Task} {input : TaskInput}
    (stepped : task.advance platform input = some after)
    : Traces platform task after input := by
  cases advance_cases stepped with
  | woke now order =>
      apply Rests.traces
      unfold outerHead
      split
      · exact rests_sweep _ _ rfl task
      · split <;> exact rests_of_same rfl rfl
  | parkedOp op rest =>
      have goes := parkedOp_goes op { task with queue := rest }
      apply Rests.traces
      exact rests_of_same goes.pending goes.underWay
  | pumpedOp op rest =>
      have goes := pumpedOp_goes op { task with queue := rest }
      apply Rests.traces
      exact rests_of_same goes.pending goes.underWay
  | backoffElapsed => exact (backoffElapsed_goes task).rests.traces
  | streamOpened =>
      apply Rests.traces
      unfold streamOpened
      split <;> exact rests_of_same rfl rfl
  | openFailed err closeCode => exact (openFailed_goes err closeCode task).rests.traces
  | swept now order => exact (rests_sweep _ _ rfl task).traces
  | itemReceived item contact => exact (rests_itemReceived _ _ task).traces
  | nextFetch drained exit => exact (nextFetch_goes drained exit task).rests.traces
  | profileFetched aci rest exit result =>
      exact (profileFetched_goes aci rest exit result task).rests.traces
  | knownRecipient send contacts uuid starting resolved =>
      refine ⟨fun _ deferred => .inl deferred, fun _ => .inr ?_⟩
      simp [Addressed.resolves, starting, resolved, Except.toOption]
  | begun send attempt attempting =>
      exact ⟨fun _ deferred => .inl deferred, fun _ => .inl (by rw [attempting]; rfl)⟩
  | attemptReturned send attempt outcome now flushOrder commitOrder sending =>
      unfold attemptReturned
      split
      · exact Rests.traces (rests_of_same rfl rfl)
      · exact ⟨fun _ deferred => .inl deferred, fun _ => .inl (by rw [sending]; rfl)⟩
      · next deferral =>
          refine ⟨fun timestamp deferred => ?_, fun busy => by cases busy⟩
          by_cases here : timestamp = send.timestamp
          · exact .inr ⟨send, by simp [Addressed.defers, sending, deferral], here.symm⟩
          · left
            rwa [FiniteMap.lookup_insert', if_neg here] at deferred
      · exact Rests.traces (rests_of_same rfl rfl)
  | retried send attempt sleeping =>
      exact ⟨fun _ deferred => .inl deferred, fun _ => .inl (by rw [sleeping]; rfl)⟩
  | _ => exact Rests.traces (rests_of_same rfl rfl)

/-- Items are processed while the stream is pumped, and nowhere else. -/
theorem advance_item {platform : Platform} {task after : Task} {item : Received}
    {contact : Option Contact} {order : Store.FlushOrder}
    (stepped : task.advance platform (.item item contact order) = some after)
    : after = task.itemReceived item contact := by
  cases advance_cases stepped
  rfl

end Task

/-- The send under way has an addressee, and every deferred send a recipient. -/
structure Addressed.Noted (state : Addressed) : Prop where
  current
    : state.manager.task.control.underWay.isSome = true → state.addressee.isSome = true
  deferred
    : ∀ timestamp,
        (state.manager.task.pendingUnconfirmedSends.lookup timestamp).isSome = true
        → (state.recipientOf timestamp).isSome = true

theorem Addressed.Noted.advance {platform : Platform} {state : Addressed} {task : Task}
    {input : TaskInput} (noted : Noted state)
    (moved : state.manager.task.advance platform input = some task)
    {manager : Manager} (same : manager.task = task)
    : Noted
        { manager
          addressee :=
            (resolves platform state.manager.task.control (.advance input)).or state.addressee
          recipientOf :=
            match defers platform state.manager.task.control (.advance input) with
            | none => state.recipientOf
            | some send =>
                Function.update state.recipientOf send.timestamp state.addressee } := by
  obtain ⟨pending, underWay⟩ := Task.advance_traces moved
  refine ⟨fun busy => ?_, fun timestamp deferred => ?_⟩
  · rw [same] at busy
    rw [Option.isSome_or, Bool.or_eq_true]
    rcases underWay busy with before | resolved
    · exact .inr (noted.current before)
    · exact .inl resolved
  · rw [same] at deferred
    cases deferral : defers platform state.manager.task.control (.advance input) with
    | none =>
        rcases pending timestamp deferred with before | ⟨send, other, -⟩
        · exact noted.deferred timestamp before
        · rw [deferral] at other
          cases other
    | some send =>
        have busy := noted.current (by rw [defers_underWay deferral]; rfl)
        simp only [Function.update_apply]
        split
        · exact busy
        · next other =>
            rcases pending timestamp deferred with before | ⟨send', same', here⟩
            · exact noted.deferred timestamp before
            · rw [deferral] at same'
              cases same'
              exact absurd here.symm other

theorem Addressed.Noted.step {platform : Platform} {state next : Addressed}
    {input : ManagerInput} (stepped : state.step platform input = some next)
    (noted : Noted state)
    : Noted next := by
  obtain ⟨manager, moved, rfl⟩ := Option.map_eq_some_iff.mp stepped
  cases input with
  | accept op =>
      simp only [Manager.step] at moved
      split at moved
      · obtain rfl := Option.some.inj moved
        exact ⟨noted.current, noted.deferred⟩
      · cases moved
  | dropSender =>
      obtain rfl := Option.some.inj moved
      exact ⟨noted.current, noted.deferred⟩
  | advance input =>
      obtain ⟨task, advanced, rfl⟩ := Option.map_eq_some_iff.mp moved
      simp only [Task.step] at advanced
      split at advanced
      · exact noted.advance advanced rfl
      · cases advanced
  | deliver isOpen =>
      obtain ⟨⟨event, after⟩, delivered, rfl⟩ := Option.map_eq_some_iff.mp moved
      obtain ⟨⟨event', task⟩, taken, same⟩ := Option.map_eq_some_iff.mp delivered
      cases same
      unfold Task.deliver at taken
      split at taken
      · cases taken
      · split at taken
        · cases taken
          exact ⟨noted.current, noted.deferred⟩
        · split at taken
          · cases taken
            exact ⟨fun busy => (by cases busy), noted.deferred⟩
          · cases taken
            exact ⟨noted.current, noted.deferred⟩

/-- In every run of the manager task, each deferred send has a recipient on record, and an
item of the stream confirms only what its sender may confirm exactly if it is not a receipt
that counts as a delivery, names a deferred send, and has an unknown type or another sender.
-/
theorem receipt_confirms_iff (platform : Platform) (inputs : List ManagerInput)
    (state next : Addressed) (item : Received) (contact : Option Contact)
    (order : Store.FlushOrder)
    (reached : Runs.run? (Addressed.step platform) {} inputs = some state)
    (stepped : state.step platform (.advance (.item item contact order)) = some next)
    : (∀ timestamp,
        (state.manager.task.pendingUnconfirmedSends.lookup timestamp).isSome = true
        → (state.recipientOf timestamp).isSome = true)
      ∧ (ConfirmsOwn state.recipientOf item state.manager.task.pendingUnconfirmedSends
            next.manager.task.pendingUnconfirmedSends
            (next.manager.task.outbox.map Emit.event)
          ↔ HonestReceipt state.recipientOf item
              state.manager.task.pendingUnconfirmedSends) := by
  have noted : state.Noted :=
    Runs.run?_invariant (fun _ _ _ => Addressed.Noted.step) reached
      ⟨fun busy => (by cases busy), fun _ deferred => (by cases deferred)⟩
  refine ⟨noted.deferred, ?_⟩
  obtain ⟨manager, moved, rfl⟩ := Option.map_eq_some_iff.mp stepped
  obtain ⟨task, advanced, rfl⟩ := Option.map_eq_some_iff.mp moved
  simp only [Task.step] at advanced
  split at advanced
  · obtain rfl := Task.advance_item advanced
    have events : (state.manager.task.itemReceived item contact).outbox.map Emit.event
        = (processReceived contact item state.manager.task.toReceiveState).1 := by
      simp [Task.itemReceived, Function.comp_def]
    dsimp only
    rw [events]
    exact confirmsOwn_iff state.recipientOf contact item state.manager.task.toReceiveState
  · cases advanced

/-- The inputs of a send with timestamp 5 to the first account, which fails six times with a
closing connection and is deferred; then the stream is opened again.
-/
def deferredSend : List ManagerInput :=
  let closing := SendOutcome.err "websocket closing"
  let attempt : List ManagerInput :=
    [.advance (.begun (.ok ())), .advance (.sendReturned closing 0 .insertion .insertion)]
  let retry := attempt ++ [.advance .slept]
  [.accept .startReceive, .advance (.wake 0 .insertion), .advance .recv,
    .advance (.wake 0 .insertion), .advance (.opened (.ok ()) none), .deliver true,
    .advance (.wake 0 .insertion), .accept (.send ⟨(⟨1⟩ : Uuid).toString, "hi", 5⟩),
    .advance .recv, .advance .fetchNext, .advance (.contacts (.ok []))]
  ++ retry ++ retry ++ retry ++ retry ++ retry ++ attempt
  ++ [.advance (.wake 0 .insertion), .advance (.opened (.ok ()) none),
    .advance (.wake 0 .insertion)]

/-- A third account names the timestamp of somebody else's deferred send in a receipt of an
unknown type: the send is reported as complete.
-/
theorem foreign_receipt_confirms
    : let item : Received := .content ⟨.receiptMessage (some 7) [5], .aci ⟨2⟩, 9⟩
      ∃ state next,
        Runs.run? (Addressed.step (.knowing ⟨1⟩)) {} deferredSend = some state
        ∧ state.recipientOf 5 = some ⟨1⟩
        ∧ state.step (.knowing ⟨1⟩) (.advance (.item item none .insertion)) = some next
        ∧ next.manager.task.outbox.map Emit.event = [.sendComplete 5] := by
  refine ⟨_, _, rfl, rfl, rfl, rfl⟩

/-- The recipient's own delivery receipt confirms the send. -/
theorem receipt_confirms_recipient
    : ∃ state next,
        Runs.run? (Addressed.step (.knowing ⟨1⟩)) {} deferredSend = some state
        ∧ state.step (.knowing ⟨1⟩)
            (.advance (.item (.content ⟨.receiptMessage (some 0) [5], .aci ⟨1⟩, 9⟩) none
              .insertion)) = some next
        ∧ ConfirmsOwn state.recipientOf (.content ⟨.receiptMessage (some 0) [5], .aci ⟨1⟩, 9⟩)
            state.manager.task.pendingUnconfirmedSends
            next.manager.task.pendingUnconfirmedSends
            (next.manager.task.outbox.map Emit.event) := by
  have runs : (Runs.run? (Addressed.step (.knowing ⟨1⟩)) {} deferredSend).isSome = true := rfl
  have steps : (((Runs.run? (Addressed.step (.knowing ⟨1⟩)) {} deferredSend).get runs).step
      (.knowing ⟨1⟩) (.advance (.item (.content ⟨.receiptMessage (some 0) [5], .aci ⟨1⟩, 9⟩)
        none .insertion))).isSome = true :=
    rfl
  have recipient : ((Runs.run? (Addressed.step (.knowing ⟨1⟩)) {} deferredSend).get
      runs).recipientOf 5 = some ⟨1⟩ :=
    rfl
  have reached := (Option.some_get runs).symm
  have stepped := (Option.some_get steps).symm
  refine ⟨_, _, reached, stepped, ?_⟩
  refine (receipt_confirms_iff (.knowing ⟨1⟩) deferredSend _ _ _ none .insertion reached
    stepped).2.mpr ?_
  rintro _ type timestamps timestamp whole body - named -
  cases whole
  cases body
  obtain rfl := List.mem_singleton.mp named
  exact ⟨rfl, ⟨1⟩, recipient, rfl⟩

end XousAppSignal.Worker
