import XousAppSignal.Worker.HandleSend

/-! Items of the receive stream: inbound messages become events, delivery receipts confirm
deferred sends, and deferred sends whose grace window is over become errors.
-/

namespace XousAppSignal.Worker

open Store (ServiceId Bytes)

/-- The parts of a data message the worker reads. A group context may lack its key. -/
structure DataMessage where
  body : Option String := none
  groupV2 : Option (Option Bytes) := none
  profileKey : Option Bytes := none

/-- A transcript of a message sent from the linked phone. The worker reads the message only;
the destination is there to say whom it was sent to.
-/
structure Sent where
  destination : Option ServiceId := none
  message : Option DataMessage := none

/-- The body of a decrypted message; `other` stands for the kinds the worker skips. -/
inductive ContentBody where
  | dataMessage (message : DataMessage)
  | synchronizeMessage (sent : Option Sent)
  | receiptMessage (type : Option Int) (timestamps : List UInt64)
  | other

structure Content where
  body : ContentBody
  sender : ServiceId
  timestamp : UInt64

inductive Received where
  | content (content : Content)
  | queueEmpty
  | contacts

/-- Sends awaiting a delivery receipt, with their deadlines. -/
abbrev PendingSends := FiniteMap UInt64 Nat

/-- A receipt without a type, or of an unknown one, counts as a delivery receipt. -/
def isDelivery (type : Option Int) : Bool := type.getD 0 ≠ 1 && type.getD 0 ≠ 2

/-- A delivery receipt completes each deferred send it names, once. -/
def confirmDelivery : List UInt64 → PendingSends → List Event × PendingSends
  | [], pending => ([], pending)
  | timestamp :: rest, pending =>
      if (pending.lookup timestamp).isSome then
        let (events, pending) := confirmDelivery rest (pending.erase timestamp)
        (.sendComplete timestamp :: events, pending)
      else confirmDelivery rest pending

def DataMessage.text (message : DataMessage) : String := message.body.getD ""

/-- A group message without a key is tagged with the empty key. -/
def DataMessage.group (message : DataMessage) : Option Bytes :=
  message.groupV2.map (fun masterKey => masterKey.getD [])

/-- The text of a message and its group, also of one sent from the linked phone. -/
def ContentBody.textAndGroup : ContentBody → Option (String × Option Bytes)
  | .dataMessage message => some (message.text, message.group)
  | .synchronizeMessage sent =>
      match sent.bind Sent.message with
      | some message => some (message.text, message.group)
      | none => some ("", none)
  | .receiptMessage _ _ => none
  | .other => none

/-- First touch: the profile to fetch for an unnamed sender that shared its profile key. -/
def Content.profileFetch (content : Content) : Option (Uuid × Bytes) :=
  match content.body, content.sender with
  | .dataMessage message, .aci uuid =>
      message.profileKey.bind (fun key => if key.length = 32 then some (uuid, key) else none)
  | _, _ => none

/-- The name a contact is shown under, if it has one. -/
def Contact.shownName (contact : Contact) : Option String :=
  if contact.name = "" then none else some contact.name

/-- What the receive loop keeps between items. -/
structure ReceiveState where
  pendingProfileFetches : List (Uuid × Bytes) := []
  pendingUnconfirmedSends : PendingSends := ∅

/-- Process one item; `contact` is what the contacts store has on the sender. The flush of
an emptied queue is a store call and not part of this function.
-/
def processReceived (contact : Option Contact) (item : Received) (state : ReceiveState)
    : List Event × ReceiveState :=
  match item with
  | .queueEmpty => ([], state)
  | .contacts => ([], state)
  | .content content =>
      match content.body with
      | .receiptMessage type timestamps =>
          if isDelivery type then
            let (events, pending) :=
              confirmDelivery timestamps state.pendingUnconfirmedSends
            (events, { state with pendingUnconfirmedSends := pending })
          else ([], state)
      | body =>
          match body.textAndGroup with
          | none => ([], state)
          | some (text, group) =>
              if text = "" then ([], state)
              else
                let senderName := contact.bind Contact.shownName
                let fetches :=
                  if senderName.isNone then content.profileFetch.toList else []
                ([.message content.sender.serviceIdString
                    (contact.bind Contact.phoneNumber) senderName text content.timestamp group],
                  { state with
                    pendingProfileFetches := state.pendingProfileFetches ++ fetches })

def graceExpired : String :=
  "WebSocket closed during send and no delivery receipt arrived within the grace window — "
    ++ "recipient probably did not receive this message"

/-- The deferred sends whose deadline has passed, in the order the map yields them. -/
def expiredSends (order : HashOrder) (now : Nat) (pending : PendingSends) : List UInt64 :=
  (order.arrange (FiniteMap.pairs pending)).filterMap (fun entry =>
    if entry.2 ≤ now then some entry.1 else none)

/-- Each expired send is removed and reported. -/
def sweepExpiredPendingSends (order : HashOrder) (now : Nat) (pending : PendingSends)
    : List Event × PendingSends :=
  let expired := expiredSends order now pending
  (expired.map (fun timestamp => .sendError graceExpired (some timestamp)),
    expired.foldl (fun pending timestamp => pending.erase timestamp) pending)

-----------------------------------------------------------------------------------------
-- Every deferred send is answered at most once
-----------------------------------------------------------------------------------------

/-- The event reports the final outcome of the send with this timestamp. -/
def Event.settles (timestamp : UInt64) : Event → Bool
  | .sendComplete settled => settled = timestamp
  | .sendError _ (some settled) => settled = timestamp
  | _ => false

/-- One if the send is deferred. -/
def PendingSends.owed (timestamp : UInt64) (pending : PendingSends) : Nat :=
  if (pending.lookup timestamp).isSome then 1 else 0

theorem PendingSends.owed_erase (timestamp gone : UInt64) (pending : PendingSends)
    : owed timestamp (pending.erase gone)
      = if timestamp = gone then 0 else owed timestamp pending := by
  simp only [owed, FiniteMap.lookup_erase']
  split <;> simp

theorem PendingSends.owed_insert (timestamp added : UInt64) (deadline : Nat)
    (pending : PendingSends)
    : owed timestamp (pending.insert added deadline)
      = if timestamp = added then 1 else owed timestamp pending := by
  simp only [owed, FiniteMap.lookup_insert']
  split <;> simp

/-- Receipts settle exactly the deferred sends they remove, by induction on the receipt's
timestamps, duplicates included.
-/
theorem confirmDelivery_owed (timestamp : UInt64) (timestamps : List UInt64)
    (pending : PendingSends)
    : (confirmDelivery timestamps pending).1.countP (Event.settles timestamp)
        + PendingSends.owed timestamp (confirmDelivery timestamps pending).2
      = PendingSends.owed timestamp pending := by
  induction timestamps generalizing pending with
  | nil => simp [confirmDelivery]
  | cons first rest ih =>
      unfold confirmDelivery
      split
      · next present =>
          have later := ih (pending.erase first)
          rw [PendingSends.owed_erase] at later
          simp only [List.countP_cons, Event.settles, decide_eq_true_eq]
          by_cases here : timestamp = first
          · have one : PendingSends.owed timestamp pending = 1 := by
              rw [here]
              exact if_pos present
            rw [if_pos here] at later
            rw [if_pos here.symm, one]
            omega
          · rw [if_neg here] at later
            rw [if_neg (fun same => here same.symm)]
            omega
      · exact ih pending

/-- A message that is no receipt is judged by its text alone. -/
theorem processReceived_text (contact : Option Contact) {content : Content}
    (state : ReceiveState)
    (shown : ∀ type timestamps, content.body ≠ .receiptMessage type timestamps)
    : processReceived contact (.content content) state
      = match content.body.textAndGroup with
        | none => ([], state)
        | some (text, group) =>
            if text = "" then ([], state)
            else
              ([.message content.sender.serviceIdString (contact.bind Contact.phoneNumber)
                  (contact.bind Contact.shownName) text content.timestamp group],
                { state with
                  pendingProfileFetches :=
                    state.pendingProfileFetches
                      ++ if (contact.bind Contact.shownName).isNone
                        then content.profileFetch.toList
                        else [] }) := by
  obtain ⟨body, sender, sent⟩ := content
  cases body with
  | receiptMessage type timestamps => exact absurd rfl (shown type timestamps)
  | dataMessage message => rfl
  | synchronizeMessage sentMessage => rfl
  | other => rfl

/-- What one item does: a receipt confirms deferred sends, a text becomes a message event, and
anything else is dropped.
-/
theorem processReceived_cases (contact : Option Contact) (item : Received)
    (state : ReceiveState)
    : let out := processReceived contact item state
      (∃ content type timestamps,
        item = .content content ∧ content.body = .receiptMessage type timestamps
        ∧ out.1 = (confirmDelivery timestamps state.pendingUnconfirmedSends).1
        ∧ out.2.pendingUnconfirmedSends
          = (confirmDelivery timestamps state.pendingUnconfirmedSends).2)
      ∨ out.2.pendingUnconfirmedSends = state.pendingUnconfirmedSends
        ∧ (out.1 = [] ∨ ∃ event, event.isMessage = true ∧ out.1 = [event]) := by
  intro out
  cases item with
  | queueEmpty => exact .inr ⟨rfl, .inl rfl⟩
  | contacts => exact .inr ⟨rfl, .inl rfl⟩
  | content content =>
      by_cases receipt : ∃ type timestamps, content.body = .receiptMessage type timestamps
      · obtain ⟨type, timestamps, same⟩ := receipt
        cases counts : isDelivery type with
        | true =>
            refine .inl ⟨content, type, timestamps, rfl, same, ?_, ?_⟩ <;>
              simp only [out, processReceived, same, counts, if_true]
        | false =>
            refine .inr ⟨?_, .inl ?_⟩ <;> simp [out, processReceived, same, counts]
      · right
        simp only [out, processReceived_text contact state
          (fun type timestamps same => receipt ⟨type, timestamps, same⟩)]
        split
        · exact ⟨rfl, .inl rfl⟩
        · split
          · exact ⟨rfl, .inl rfl⟩
          · exact ⟨rfl, .inr ⟨_, rfl, rfl⟩⟩

/-- An item settles exactly the deferred sends it removes. -/
theorem processReceived_owed (timestamp : UInt64) (contact : Option Contact) (item : Received)
    (state : ReceiveState)
    : (processReceived contact item state).1.countP (Event.settles timestamp)
        + PendingSends.owed timestamp
            (processReceived contact item state).2.pendingUnconfirmedSends
      = PendingSends.owed timestamp state.pendingUnconfirmedSends := by
  rcases processReceived_cases contact item state with
    ⟨_, type, timestamps, -, -, events, pending⟩ | ⟨pending, events | ⟨event, message, events⟩⟩
  · rw [events, pending]
    exact confirmDelivery_owed timestamp timestamps state.pendingUnconfirmedSends
  · simp [events, pending]
  · have unsettled : event.settles timestamp = false := by
      cases event <;> simp_all [Event.isMessage, Event.settles]
    simp [events, pending, unsettled]

theorem confirmDelivery_events {event : Event} {timestamps : List UInt64}
    {pending : PendingSends} (emitted : event ∈ (confirmDelivery timestamps pending).1)
    : ∃ timestamp, event = .sendComplete timestamp := by
  induction timestamps generalizing pending with
  | nil => cases emitted
  | cons first rest ih =>
      unfold confirmDelivery at emitted
      split at emitted
      · rcases List.mem_cons.mp emitted with here | later
        · exact ⟨first, here⟩
        · exact ih later
      · exact ih emitted

/-- An item gives rise to completed sends and inbound messages only. -/
theorem processReceived_events {event : Event} {contact : Option Contact} {item : Received}
    {state : ReceiveState} (emitted : event ∈ (processReceived contact item state).1)
    : (∃ timestamp, event = .sendComplete timestamp) ∨ event.isMessage = true := by
  rcases processReceived_cases contact item state with
    ⟨_, type, timestamps, -, -, events, -⟩ | ⟨-, events | ⟨_, message, events⟩⟩
  · rw [events] at emitted
    exact .inl (confirmDelivery_events emitted)
  · rw [events] at emitted
    cases emitted
  · rw [events, List.mem_singleton] at emitted
    exact .inr (emitted ▸ message)

theorem expiredSends_nodup (order : HashOrder) (now : Nat) (pending : PendingSends)
    : (expiredSends order now pending).Nodup := by
  have unique := order.nodup_map_arrange Prod.fst (FiniteMap.pairs_keys_nodup pending)
  have sublist : (expiredSends order now pending).Sublist
      ((order.arrange (FiniteMap.pairs pending)).map Prod.fst) := by
    unfold expiredSends
    generalize order.arrange (FiniteMap.pairs pending) = entries
    induction entries with
    | nil => exact .refl _
    | cons entry rest ih =>
        by_cases late : entry.2 ≤ now
        · simpa [late] using ih.cons_cons entry.1
        · simpa [late] using ih.cons entry.1
  exact sublist.nodup unique

theorem expiredSends_pending {order : HashOrder} {now : Nat} {pending : PendingSends}
    {timestamp : UInt64} (expired : timestamp ∈ expiredSends order now pending)
    : PendingSends.owed timestamp pending = 1 := by
  obtain ⟨⟨key, deadline⟩, listed, late⟩ := List.mem_filterMap.mp expired
  rw [order.mem_arrange, FiniteMap.mem_pairs] at listed
  simp only [Option.ite_none_right_eq_some, Option.some.injEq] at late
  rw [← late.2]
  exact if_pos (by simp [listed])

theorem owed_eraseAll (timestamp : UInt64) (gone : List UInt64) (pending : PendingSends)
    : PendingSends.owed timestamp
        (gone.foldl (fun pending timestamp => pending.erase timestamp) pending)
      = if timestamp ∈ gone then 0 else PendingSends.owed timestamp pending := by
  induction gone generalizing pending with
  | nil => simp
  | cons first rest ih =>
      rw [List.foldl_cons, ih, PendingSends.owed_erase]
      by_cases here : timestamp = first <;> by_cases later : timestamp ∈ rest <;>
        simp [here, later]

/-- A sweep settles exactly the deferred sends it removes. -/
theorem sweep_owed (timestamp : UInt64) (order : HashOrder) (now : Nat)
    (pending : PendingSends)
    : (sweepExpiredPendingSends order now pending).1.countP (Event.settles timestamp)
        + PendingSends.owed timestamp (sweepExpiredPendingSends order now pending).2
      = PendingSends.owed timestamp pending := by
  have settled : (sweepExpiredPendingSends order now pending).1.countP
      (Event.settles timestamp) = (expiredSends order now pending).count timestamp := by
    simp only [sweepExpiredPendingSends, List.countP_map, List.count]
    congr 1
  rw [settled, sweepExpiredPendingSends, owed_eraseAll]
  by_cases expired : timestamp ∈ expiredSends order now pending
  · rw [if_pos expired, expiredSends_pending expired,
      List.count_eq_one_of_mem (expiredSends_nodup order now pending) expired]
  · rw [if_neg expired, List.count_eq_zero_of_not_mem expired, Nat.zero_add]

end XousAppSignal.Worker
