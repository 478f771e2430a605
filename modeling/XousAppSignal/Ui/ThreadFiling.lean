import Mathlib.Data.Set.Function
import XousAppSignal.Ui.ComposeText
import XousAppSignal.Worker.Received

/-! Which thread a received text ends up in. The worker passes on the sender's service id and
the group key, and the UI makes a UUID of them. A transcript of a message sent from the phone
keeps the account itself as its sender, and the text of a PNI does not parse as a UUID.
-/

namespace XousAppSignal.Ui

open Worker
open Store (ServiceId Bytes)

/-- Whom a text is exchanged with. -/
inductive Conversation where
  | peer (serviceId : ServiceId)
  | group (masterKey : Bytes)
  deriving DecidableEq

/-- A group message belongs to its group, any other one to its sender. A transcript without
a group belongs to the destination, if it names one.
-/
def conversation (content : Content) : Option Conversation :=
  match content.body with
  | .dataMessage message => some ((message.group.map .group).getD (.peer content.sender))
  | .synchronizeMessage (some sent) =>
      sent.message.bind (fun message =>
        (message.group.map .group).or (sent.destination.map .peer))
  | _ => none

/-- The text is not in a group. -/
def isDirect (content : Content) : Prop :=
  ∃ text, content.body.textAndGroup = some (text, none)

/-- Process an item of the receive stream and handle the event it gives rise to; the thread
is that of the row added last.
-/
def fileReceived (platform : Platform) (env : Env) (contact : Option Contact)
    (state : ReceiveState) (app : App) (content : Content)
    : Option Uuid :=
  match (processReceived contact (.content content) state).1 with
  | [event] =>
      (app.handleWorkerEvent platform env event).1.store.messages.getLast?.map
        ThreadMessage.uuid
  | _ => none

/-- The UUID the UI makes of a sender. -/
def senderThread : ServiceId → Uuid
  | .aci uuid => uuid
  | .pni _ => ⟨0⟩

/-- Two senders whose texts the UI puts into one thread: one ACI, two PNIs, or a PNI and the
nil ACI.
-/
def Confused : ServiceId → ServiceId → Prop
  | .aci first, .aci second => first = second
  | .pni _, .pni _ => True
  | .aci uuid, .pni _ => uuid = ⟨0⟩
  | .pni _, .aci uuid => uuid = ⟨0⟩

theorem confused_iff (first second : ServiceId)
    : Confused first second ↔ senderThread first = senderThread second := by
  cases first <;> cases second <;> simp [Confused, senderThread, eq_comm]

/-- What is assumed of the library functions: `Uuid::new_v5` tells the group keys in use
apart, yields neither a contact's UUID nor the nil one, and `Uuid::parse_str` reads a
contact's ACI and rejects its PNI.
-/
structure Derives (platform : Platform) (keys : Set Bytes) (contacts : Set Uuid) : Prop where
  injective : Set.InjOn platform.newV5 keys
  apart : ∀ key ∈ keys, platform.newV5 key ∉ contacts ∧ platform.newV5 key ≠ ⟨0⟩
  aci : ∀ uuid ∈ contacts, platform.parseUuid uuid.toString = some uuid
  pni : ∀ uuid ∈ contacts, platform.parseUuid ("PNI:" ++ uuid.toString) = none

/-- A text, from a known contact, in a group with a known key if in one. -/
structure Known (keys : Set Bytes) (contacts : Set Uuid) (content : Content) : Prop where
  text : ∃ text group, content.body.textAndGroup = some (text, group) ∧ text ≠ ""
  sender : content.sender.rawUuid ∈ contacts
  group : ∀ text key, content.body.textAndGroup = some (text, some key) → key ∈ keys

variable {platform : Platform} {keys : Set Bytes} {contacts : Set Uuid}

theorem parse_sender (laws : Derives platform keys contacts) {sender : ServiceId}
    (known : sender.rawUuid ∈ contacts)
    : (platform.parseUuid sender.serviceIdString).getD ⟨0⟩ = senderThread sender := by
  cases sender with
  | aci uuid => simp [ServiceId.serviceIdString, senderThread, laws.aci uuid known]
  | pni uuid => simp [ServiceId.serviceIdString, senderThread, laws.pni uuid known]

/-- A text is filed under the thread of its group, or of its sender outside a group. -/
theorem fileReceived_eq (laws : Derives platform keys contacts) {content : Content}
    (known : Known keys contacts content) {text : String} {group : Option Bytes}
    (read : content.body.textAndGroup = some (text, group))
    (env : Env) (contact : Option Contact) (state : ReceiveState) (app : App)
    : fileReceived platform env contact state app content
      = some ((group.map platform.newV5).getD (senderThread content.sender)) := by
  obtain ⟨_, _, read', nonempty⟩ := known.text
  obtain ⟨rfl, rfl⟩ := Prod.mk.inj (Option.some.inj (read.symm.trans read'))
  have shown (type : Option Int) (timestamps : List UInt64)
      : content.body ≠ .receiptMessage type timestamps := by
    intro receipt
    rw [receipt] at read
    cases read
  have parsed := parse_sender laws known.sender
  simp only [fileReceived, processReceived_text contact state shown, read, nonempty, if_false,
    App.handleWorkerEvent, App.messageThread, MessageStore.pushIncoming,
    MessageStore.push_messages]
  cases group with
  | none => simpa using parsed
  | some key => simp

/-- A group text belongs to the conversation of its key. -/
theorem conversation_of_group {content : Content} {text : String} {key : Bytes}
    (read : content.body.textAndGroup = some (text, some key))
    : conversation content = some (.group key) := by
  obtain ⟨body, sender, sent⟩ := content
  cases body with
  | dataMessage message =>
      obtain ⟨-, group⟩ := Prod.mk.inj (Option.some.inj read)
      simp [conversation, group]
  | synchronizeMessage sentMessage =>
      cases sentMessage with
      | none => cases read
      | some transcript =>
          cases found : transcript.message with
          | none => simp [ContentBody.textAndGroup, found] at read
          | some message =>
              simp only [ContentBody.textAndGroup, Option.bind_some, found, Option.some.injEq,
                Prod.mk.injEq] at read
              simp [conversation, found, read.2]
  | receiptMessage type timestamps => cases read
  | other => cases read

/-- The thread of a group is never that of a sender. -/
theorem groupThread_ne (laws : Derives platform keys contacts) {key : Bytes}
    (inUse : key ∈ keys) {sender : ServiceId} (known : sender.rawUuid ∈ contacts)
    : platform.newV5 key ≠ senderThread sender := by
  obtain ⟨noContact, notNil⟩ := laws.apart key inUse
  cases sender with
  | aci uuid => exact fun same => noContact (same ▸ known)
  | pni uuid => exact notNil

/-- Two texts of different conversations are filed under different threads, whatever the
contacts store and the app hold when they arrive, exactly unless both are outside groups and
their senders are the same ACI, two PNIs, or a PNI and the nil ACI.
-/
theorem conversations_apart_iff (laws : Derives platform keys contacts)
    {first second : Content} (knownFirst : Known keys contacts first)
    (knownSecond : Known keys contacts second) {left right : Conversation}
    (inLeft : conversation first = some left) (inRight : conversation second = some right)
    (different : left ≠ right) (env env' : Env) (contact contact' : Option Contact)
    (state state' : ReceiveState) (app app' : App)
    : fileReceived platform env contact state app first
        ≠ fileReceived platform env' contact' state' app' second
      ↔ ¬(isDirect first ∧ isDirect second ∧ Confused first.sender second.sender) := by
  obtain ⟨text, group, read, -⟩ := knownFirst.text
  obtain ⟨text', group', read', -⟩ := knownSecond.text
  rw [fileReceived_eq laws knownFirst read, fileReceived_eq laws knownSecond read', Ne,
    Option.some.injEq, confused_iff]
  have direct {content : Content} {text : String} {group : Option Bytes}
      (read : content.body.textAndGroup = some (text, group))
      : isDirect content ↔ group = none := by
    simp [isDirect, read]
  rw [direct read, direct read', not_iff_not]
  cases group with
  | none =>
      cases group' with
      | none => simp
      | some key =>
          have apart := groupThread_ne laws (knownSecond.group _ _ read') knownFirst.sender
          simpa using apart.symm
  | some key =>
      cases group' with
      | none =>
          have apart := groupThread_ne laws (knownFirst.group _ _ read) knownSecond.sender
          simpa using apart
      | some key' =>
          obtain rfl := Option.some.inj (inLeft.symm.trans (conversation_of_group read))
          obtain rfl := Option.some.inj (inRight.symm.trans (conversation_of_group read'))
          have apart : platform.newV5 key ≠ platform.newV5 key' := fun same =>
            different (congrArg Conversation.group
              (laws.injective (knownFirst.group _ _ read) (knownSecond.group _ _ read') same))
          simpa using apart

/-- The assumptions hold of the fixed library functions, with Alice and Bob as contacts. -/
theorem derives_twoContacts : Derives .twoContacts {[7]} {alice, bob} where
  injective := by simp
  apart := by
    rintro key rfl
    exact ⟨by simp [Platform.twoContacts, alice, bob], by decide⟩
  aci := by
    rintro uuid (rfl | rfl) <;> decide
  pni := by
    rintro uuid (rfl | rfl) <;> decide

/-- Alice's phone sent one message to Bob and one to somebody else: both transcripts end up
in one thread.
-/
theorem transcripts_share_thread
    : let transcript (destination : Uuid) : Content :=
        { body :=
            .synchronizeMessage
              (some { destination := some (.aci destination), message := some { body := "hi" } })
          sender := .aci alice
          timestamp := 1 }
      Derives .twoContacts {[7]} {alice, bob}
      ∧ Known {[7]} {alice, bob} (transcript bob)
      ∧ Known {[7]} {alice, bob} (transcript ⟨3⟩)
      ∧ conversation (transcript bob) = some (.peer (.aci bob))
      ∧ conversation (transcript ⟨3⟩) = some (.peer (.aci ⟨3⟩))
      ∧ fileReceived .twoContacts (.online 1) none {} .initial (transcript bob)
        = fileReceived .twoContacts (.online 1) none {} .initial (transcript ⟨3⟩) := by
  refine ⟨derives_twoContacts, ?_, ?_, rfl, rfl, rfl⟩
  all_goals
    refine ⟨⟨"hi", none, rfl, by decide⟩, .inl rfl, fun text key read => ?_⟩
    cases read

/-- A text of Alice's and one in a group are filed apart. -/
theorem conversations_apart_group
    : let direct : Content :=
        { body := .dataMessage { body := "hi" }, sender := .aci alice, timestamp := 1 }
      let group : Content :=
        { body := .dataMessage { body := "hi", groupV2 := some (some [7]) }
          sender := .aci alice
          timestamp := 2 }
      fileReceived .twoContacts (.online 1) none {} .initial direct
        ≠ fileReceived .twoContacts (.online 2) none {} .initial group := by
  intro direct group
  have knownDirect : Known {[7]} {alice, bob} direct :=
    ⟨⟨"hi", none, rfl, by decide⟩, .inl rfl, fun text key read => by cases read⟩
  have knownGroup : Known {[7]} {alice, bob} group :=
    ⟨⟨"hi", some [7], rfl, by decide⟩, .inl rfl, fun text key read => by cases read; rfl⟩
  have inDirect : conversation direct = some (.peer (.aci alice)) := rfl
  have inGroup : conversation group = some (.group [7]) := rfl
  refine (conversations_apart_iff derives_twoContacts knownDirect knownGroup inDirect inGroup
    (by decide) _ _ _ _ _ _ _ _).mpr ?_
  rintro ⟨-, ⟨text, read⟩, -⟩
  cases read

end XousAppSignal.Ui
