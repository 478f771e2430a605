import XousAppSignal.Ui.Effects

/-! What one action does to the send data of the rows: direction, timestamp and status. A
send and an inbound message add a row, a reset drops them all, and every other action that
is no send outcome leaves the data of every row as it is.
-/

namespace XousAppSignal.Ui

open Worker

/-- The part of a row that a send writes. -/
structure SendView where
  outgoing : Bool
  timestamp : UInt64
  status : SendStatus
  deriving DecidableEq

def ThreadMessage.sendView (m : ThreadMessage) : SendView := ⟨m.outgoing, m.timestamp, m.status⟩

/-- A message of `send_compose` with the outcome it has had so far. -/
structure Send where
  timestamp : UInt64
  outcome : Option (Except String Unit)

/-- The status that is the send's own. -/
def Send.ownStatus (send : Send) : SendStatus :=
  match send.outcome with
  | none => .pending
  | some (.ok _) => .delivered
  | some (.error _) => .failed

/-- The row that shows the send's own status. -/
def Send.view (send : Send) : SendView := ⟨true, send.timestamp, send.ownStatus⟩

namespace MessageStore

def views (store : MessageStore) : List SendView := store.messages.map ThreadMessage.sendView

/-- What eviction leaves of a list aligned with the rows. -/
def room {α : Type} (store : MessageStore) (items : List α) : List α :=
  if store.capacity ≤ store.messages.length then items.drop 1 else items

theorem evictIfFull_map {β : Type} (view : ThreadMessage → β) (store : MessageStore)
    : store.evictIfFull.messages.map view = store.room (store.messages.map view) := by
  unfold evictIfFull room
  split <;> simp

/-- A push adds the view of its row to those of the rows that stay. -/
theorem push_map {β : Type} (view : ThreadMessage → β) (order : HashOrder)
    (row : ThreadMessage) (store : MessageStore)
    : (store.push order row).messages.map view
      = store.room (store.messages.map view) ++ [view row] := by
  rw [push_messages, List.map_append, evictIfFull_map]
  rfl

/-- Right after a push of an outgoing row, its timestamp finds that row. -/
theorem pushOutgoingPending_markFailed_views (order orderAfter : HashOrder) (uuid : Uuid)
    (body : String) (timestamp : UInt64) (store : MessageStore)
    : ((store.pushOutgoingPending order uuid body timestamp).markSendFailed orderAfter
        timestamp).2.views
      = store.room store.views ++ [⟨true, timestamp, .failed⟩] := by
  rw [views, markSendFailed, setOutgoingStatus_messages, pushOutgoingPending, push_messages,
    views, ← evictIfFull_map]
  simp [updateFirst, ThreadMessage.sendView]

@[simp]
theorem markThreadRead_views (order : HashOrder) (uuid : Uuid) (store : MessageStore)
    : (store.markThreadRead order uuid).views = store.views :=
  updateRows_map ThreadMessage.sendView (by simp [ThreadMessage.sendView]) order _ store

@[simp]
theorem resolveAuthorLabels_views (order : HashOrder) (uuid : Uuid) (name : String)
    (store : MessageStore)
    : (store.resolveAuthorLabels order uuid name).2.views = store.views :=
  updateRows_map ThreadMessage.sendView (by simp [ThreadMessage.sendView]) order _ store

end MessageStore

-----------------------------------------------------------------------------------------
-- Keys
-----------------------------------------------------------------------------------------

/-- The outcome a send has as soon as it is made: a closed channel refuses it. -/
def Env.sendOutcome (env : Env) : Option (Except String Unit) :=
  match env.channel with
  | .ok _ => none
  | .error reason => some (.error reason)

namespace App

/-- The conversation to which the key sends the compose buffer, unless it is a group. -/
def sendsTo (platform : Platform) (key : Char) (app : App) : Option Uuid :=
  match app.screen with
  | .thread uuid =>
      if app.composeBuffer = "" ∨ app.store.isGroupThread uuid then none
      else if isEnter key ∨ (key = keyF1 ∧ !isComposeChar platform key) then some uuid
      else none
  | _ => none

/-- The reply block leaves the store alone. -/
theorem sendCompose_blocked (env : Env) {uuid : Uuid} {app : App}
    (group : app.store.isGroupThread uuid = true)
    : (app.sendCompose env uuid).1.store = app.store := by
  rw [sendCompose, if_pos group]

/-- A send adds its pending row, which fails at once when the channel is closed. -/
theorem sendCompose_views (env : Env) {uuid : Uuid} {app : App}
    (single : app.store.isGroupThread uuid = false)
    : (app.sendCompose env uuid).1.store.views
      = app.store.room app.store.views ++ [Send.view ⟨env.now, env.sendOutcome⟩] := by
  unfold sendCompose
  cases channel : env.channel with
  | ok _ =>
      have pending : Send.view ⟨env.now, env.sendOutcome⟩ = ⟨true, env.now, .pending⟩ := by
        simp [Send.view, Send.ownStatus, Env.sendOutcome, channel]
      rw [pending, if_neg (by simp [single])]
      exact MessageStore.push_map ThreadMessage.sendView ..
  | error reason =>
      have failed : Send.view ⟨env.now, env.sendOutcome⟩ = ⟨true, env.now, .failed⟩ := by
        simp [Send.view, Send.ownStatus, Env.sendOutcome, channel]
      rw [failed, if_neg (by simp [single])]
      exact MessageStore.pushOutgoingPending_markFailed_views ..

/-- A key that would send but does not is typed in a group. -/
theorem blocked_of_quiet {platform : Platform} {key : Char} {app : App} {uuid : Uuid}
    (quiet : app.sendsTo platform key = none) (shown : app.screen = .thread uuid)
    (trigger : isEnter key = true ∨ key = keyF1 ∧ isComposeChar platform key = false)
    (typed : app.composeBuffer ≠ "")
    : app.store.isGroupThread uuid = true := by
  simpa [sendsTo, shown, typed, trigger] using quiet

/-- A key that sends is `send_compose` on the open conversation. -/
theorem handleKey_sends {platform : Platform} (env : Env) {key : Char} {app : App}
    {uuid : Uuid} (sends : app.sendsTo platform key = some uuid)
    : app.handleKey platform env key = app.sendCompose env uuid
      ∧ app.store.isGroupThread uuid = false := by
  unfold sendsTo at sends
  split at sends
  · next shownUuid shown =>
      split at sends
      · cases sends
      · next ready =>
          obtain ⟨typed, single⟩ := not_or.mp ready
          split at sends
          · next trigger =>
              cases sends
              refine ⟨?_, by simpa using single⟩
              rw [handleKey, shown]
              rcases trigger with enter | ⟨rfl, plain⟩
              · simp [handleThreadKey, enter, typed]
              · have other : isComposeChar platform keyF1 = false := by simpa using plain
                have enter : isEnter keyF1 = false := rfl
                have erase : ¬keyF1 = keyBackspace := by decide
                simp [handleThreadKey, enter, erase, other, typed]
          · cases sends
  · cases sends

/-- A key that neither sends nor is typed on Home leaves the store alone. -/
theorem handleKey_store_elsewhere {platform : Platform} (env : Env) {key : Char} {app : App}
    (quiet : app.sendsTo platform key = none) (elsewhere : app.screen ≠ .home)
    : (app.handleKey platform env key).1.store = app.store := by
  have step := app.handleKey_step platform env key
  generalize app.handleKey platform env key = outcome at step ⊢
  cases step with
  | opened d shown => exact absurd shown elsewhere
  | sent uuid shown trigger typed =>
      exact sendCompose_blocked env (blocked_of_quiet quiet shown trigger typed)
  | _ => rfl

/-- Every key that is no send keeps the rows' send data. -/
theorem handleKey_views {platform : Platform} (env : Env) {key : Char} {app : App}
    (quiet : app.sendsTo platform key = none)
    : (app.handleKey platform env key).1.store.views = app.store.views := by
  have step := app.handleKey_step platform env key
  generalize app.handleKey platform env key = outcome at step ⊢
  cases step with
  | opened d => exact MessageStore.markThreadRead_views ..
  | sent uuid shown trigger typed =>
      rw [sendCompose_blocked env (blocked_of_quiet quiet shown trigger typed)]
  | _ => rfl

end App

-----------------------------------------------------------------------------------------
-- Events and whole actions
-----------------------------------------------------------------------------------------

namespace App

/-- The answer to a username lookup at most renames authors. -/
theorem handleUsernameResolveResult_views (env : Env)
    (answer : Except String (Option Uuid)) (app : App)
    : (app.handleUsernameResolveResult env answer).store.views = app.store.views := by
  unfold handleUsernameResolveResult
  split
  · rfl
  · split
    · dsimp only
      split
      · exact MessageStore.resolveAuthorLabels_views ..
      · rfl
    · rfl
    · rfl

/-- An event other than a message, a reset or the end of a send keeps the rows' send data. -/
theorem handleWorkerEvent_views (platform : Platform) (env : Env) {event : Event} (app : App)
    (ongoing : event.endsSend = false) (keeps : event.resets = false)
    (quiet : event.isMessage = false)
    : (app.handleWorkerEvent platform env event).1.store.views = app.store.views := by
  cases event with
  | message => cases quiet
  | loggedOut => cases keeps
  | signalAuthExpired reason => cases keeps
  | signalConflictingDevice reason => cases keeps
  | sendComplete timestamp => cases ongoing
  | sendError reason timestamp =>
      cases timestamp with
      | none => rfl
      | some ts => cases ongoing
  | usernameResolveResult answer => exact handleUsernameResolveResult_views env answer app
  | contactResolved aciUuid name => exact MessageStore.resolveAuthorLabels_views ..
  | linkError reason =>
      unfold handleWorkerEvent
      dsimp only
      split <;> rfl
  | accountInfo answer =>
      cases answer with
      | ok info =>
          unfold handleWorkerEvent
          dsimp only
          split <;> rfl
      | error reason => rfl
  | _ => rfl

theorem message_views (platform : Platform) (env : Env) {event : Event} (app : App)
    (message : event.isMessage = true)
    : ∃ timestamp, (app.handleWorkerEvent platform env event).1.store.views
        = app.store.room app.store.views ++ [⟨false, timestamp, .sent⟩] := by
  cases event with
  | message sender senderPhone senderName body timestamp groupMasterKey =>
      exact ⟨timestamp, MessageStore.push_map ThreadMessage.sendView ..⟩
  | _ => cases message

theorem reset_views (platform : Platform) (env : Env) {event : Event} (app : App)
    (resets : event.resets = true)
    : (app.handleWorkerEvent platform env event).1.store.views = [] := by
  cases event with
  | loggedOut => rfl
  | signalAuthExpired reason => rfl
  | signalConflictingDevice reason => rfl
  | _ => cases resets

theorem handleFocusChange_store (env : Env) (foreground : Bool) (app : App)
    : (app.handleFocusChange env foreground).1.store = app.store := by
  rcases app.handleFocusChange_step env foreground with idle | asked
  · rw [idle]
  · rw [asked]

end App

/-- What an action does to the list of rows. -/
inductive RowChange where
  | kept
  | sent (send : Send)
  | received
  | cleared

/-- The rows' send data after a change. -/
def RowChange.Leads (store : MessageStore) (change : RowChange) (after : List SendView)
    : Prop :=
  match change with
  | .kept => after = store.views
  | .sent send => after = store.room store.views ++ [send.view]
  | .received => ∃ timestamp, after = store.room store.views ++ [⟨false, timestamp, .sent⟩]
  | .cleared => after = []

namespace App

/-- The change a key makes. -/
def keyChange (platform : Platform) (env : Env) (key : Char) (app : App) : RowChange :=
  match app.sendsTo platform key with
  | some _ => .sent ⟨env.now, env.sendOutcome⟩
  | none => .kept

theorem handleKey_leads (platform : Platform) (env : Env) (key : Char) (app : App)
    : (app.keyChange platform env key).Leads app.store
        (app.handleKey platform env key).1.store.views := by
  unfold keyChange
  cases sends : app.sendsTo platform key with
  | none => exact handleKey_views env sends
  | some uuid =>
      obtain ⟨same, single⟩ := handleKey_sends env sends
      rw [same]
      exact sendCompose_views env single

/-- The filler key sends nothing. -/
theorem keyChange_filler (platform : Platform) (env : Env) (app : App)
    : app.keyChange platform env '\x00' = .kept := by
  have quiet : app.sendsTo platform '\x00' = none := by
    unfold sendsTo
    split
    · split
      · rfl
      · simp [isEnter, keyF1]
    · rfl
  rw [keyChange, quiet]

end App

/-- The change an action makes. The end of a send is not covered. -/
def Session.rowChange (platform : Platform) (session : Session) : Action → RowChange
  | .press stroke => session.app.keyChange platform stroke.env stroke.key
  | .event _ event =>
      if event.resets then .cleared else if event.isMessage then .received else .kept
  | .focus _ _ => .kept

/-- The action handles the end of a send. -/
def Action.endsSend : Action → Bool
  | .event _ handled => handled.endsSend
  | _ => false

/-- Every action that does not end a send changes the rows in the listed way. -/
theorem Session.act_leads (platform : Platform) (session : Session) {action : Action}
    (ongoing : action.endsSend = false)
    : (session.rowChange platform action).Leads session.app.store
        (session.act platform action).app.store.views := by
  cases action with
  | press stroke =>
      rw [act, rowChange]
      split
      · next filler =>
          rw [filler, App.keyChange_filler]
          rfl
      · exact App.handleKey_leads platform stroke.env stroke.key session.app
  | event env event =>
      rw [rowChange]
      split
      · next resets => exact App.reset_views platform env session.app resets
      · next keeps =>
          split
          · next message => exact App.message_views platform env session.app message
          · next quiet =>
              exact App.handleWorkerEvent_views platform env session.app ongoing
                (by simpa using keeps) (by simpa using quiet)
  | focus env foreground =>
      exact congrArg MessageStore.views
        (App.handleFocusChange_store env foreground session.app)

end XousAppSignal.Ui
