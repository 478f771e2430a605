import XousAppSignal.Ui.LinkedScreens
import XousAppSignal.Ui.SendRows
import XousAppSignal.Ui.Summaries

/-! The UI as a caller of the message store. Every key, event and focus change does to the
store what a few of the store's own mutations do, so the store of a session is one that its
mutations reach, and what they all keep is kept by the session.
-/

namespace XousAppSignal.Ui

open Worker

namespace App

/-- The conversation that a key on Home opens. -/
def opened (key : Char) (app : App) : Option Uuid :=
  if app.screen = .home ∧ isEnter key = true then
    (app.store.dialogues[app.homeFocus]?).map DialogueSummary.uuid
  else none

/-- A send pushes its row; a closed channel marks it failed at once. -/
def sendCalls (env : Env) (uuid : Uuid) (app : App) : List StoreCall :=
  .pushOutgoingPending env.order uuid app.composeBuffer env.now ::
    match env.channel with
    | .ok _ => []
    | .error _ => [.markSendFailed env.orderAfter env.now]

/-- The store calls of a key. -/
def keyCalls (platform : Platform) (env : Env) (key : Char) (app : App) : List StoreCall :=
  match app.sendsTo platform key with
  | some uuid => app.sendCalls env uuid
  | none => (app.opened key).toList.map (.markThreadRead env.order)

/-- The store calls of a worker event. -/
def eventCalls (platform : Platform) (env : Env) (event : Event) (app : App)
    : List StoreCall :=
  match event with
  | .message sender senderPhone senderName body timestamp groupMasterKey =>
      let authorLabel := (senderName <|> senderPhone).getD sender
      let (uuid, group) := messageThread platform sender groupMasterKey
      [.pushIncoming env.order uuid authorLabel body timestamp group]
  | .sendComplete timestamp => [.markSendDelivered env.order timestamp]
  | .sendError _ (some timestamp) => [.markSendFailed env.order timestamp]
  | .contactResolved aciUuid name => [.resolveAuthorLabels env.order aciUuid name]
  | .usernameResolveResult (.ok (some uuid)) =>
      match app.usernameLookupInProgress, app.usernameLookupPending with
      | true, some name => [.resolveAuthorLabels env.order uuid name]
      | _, _ => []
  | event => if event.resets then [.clear] else []

theorem sendCompose_calls (env : Env) {uuid : Uuid} {app : App}
    (single : app.store.isGroupThread uuid = false)
    : (app.sendCompose env uuid).1.store
      = Runs.run StoreCall.step app.store (app.sendCalls env uuid) := by
  unfold sendCompose sendCalls
  rw [if_neg (by simp [single])]
  cases env.channel <;> rfl

theorem driveNewChat_store (platform : Platform) (env : Env) (app : App)
    : (app.driveNewChat platform env).1.store = app.store := by
  unfold driveNewChat
  dsimp only
  repeat' split
  all_goals rfl

theorem handleHomeKey_store (platform : Platform) (env : Env) (key : Char) {app : App}
    (shown : app.screen = .home)
    : (app.handleHomeKey platform env key).1.store
      = Runs.run StoreCall.step app.store
          ((app.opened key).toList.map (.markThreadRead env.order)) := by
  unfold handleHomeKey
  by_cases enter : isEnter key = true
  · have up : key ≠ '↑' := by
      rintro rfl
      cases enter
    have down : key ≠ '↓' := by
      rintro rfl
      cases enter
    rw [if_neg up, if_neg down, if_pos enter, opened, if_pos ⟨shown, enter⟩]
    cases app.store.dialogues[app.homeFocus]? <;> rfl
  · have quiet : app.opened key = none := by simp [opened, enter]
    rw [if_neg enter, quiet]
    repeat' split
    all_goals first
      | exact driveNewChat_store platform env app
      | rfl

/-- A key is its store calls. -/
theorem handleKey_store (platform : Platform) (env : Env) (key : Char) (app : App)
    : (app.handleKey platform env key).1.store
      = Runs.run StoreCall.step app.store (app.keyCalls platform env key) := by
  unfold keyCalls
  cases sends : app.sendsTo platform key with
  | some uuid =>
      obtain ⟨same, single⟩ := handleKey_sends env sends
      rw [same, sendCompose_calls env single]
  | none =>
      by_cases shown : app.screen = .home
      · rw [handleKey, shown]
        exact handleHomeKey_store platform env key shown
      · have quiet : app.opened key = none := by simp [opened, shown]
        rw [handleKey_store_elsewhere env sends shown, quiet]
        rfl

/-- An event is its store calls. -/
theorem handleWorkerEvent_store (platform : Platform) (env : Env) (event : Event) (app : App)
    : (app.handleWorkerEvent platform env event).1.store
      = Runs.run StoreCall.step app.store (app.eventCalls platform env event) := by
  cases event with
  | linkError reason =>
      unfold handleWorkerEvent
      dsimp only
      split <;> rfl
  | sendError reason timestamp => cases timestamp <;> rfl
  | accountInfo answer =>
      cases answer with
      | ok info =>
          unfold handleWorkerEvent
          dsimp only
          split <;> rfl
      | error reason => rfl
  | usernameResolveResult answer =>
      simp only [handleWorkerEvent, handleUsernameResolveResult]
      cases waiting : app.usernameLookupInProgress with
      | false =>
          rcases answer with reason | _ | uuid <;> simp [eventCalls, waiting, Event.resets]
      | true =>
          rcases answer with reason | _ | uuid
          · rfl
          · rfl
          · cases asked : app.usernameLookupPending with
            | none => simp [eventCalls, waiting, asked]
            | some name =>
                simp [eventCalls, waiting, asked, StoreCall.step, StoreCall.perform]
  | _ => rfl

end App

/-- The store calls of an action. -/
def Action.storeCalls (platform : Platform) (app : App) : Action → List StoreCall
  | .press stroke =>
      if stroke.key = '\x00' then [] else app.keyCalls platform stroke.env stroke.key
  | .event env received => app.eventCalls platform env received
  | .focus _ _ => []

/-- Every action changes the store by its calls. -/
theorem Session.act_store (platform : Platform) (session : Session) (action : Action)
    : (session.act platform action).app.store
      = Runs.run StoreCall.step session.app.store
          (action.storeCalls platform session.app) := by
  rw [act_app]
  cases action with
  | press stroke =>
      unfold Action.outcome Action.storeCalls
      dsimp only
      split
      · rfl
      · exact App.handleKey_store platform stroke.env stroke.key session.app
  | event env received => exact App.handleWorkerEvent_store platform env received session.app
  | focus env foreground => exact App.handleFocusChange_store env foreground session.app

/-- The calls of an action: marks, one push and marks after it, or the clear of a reset. -/
inductive CallShape (resets : Bool) : List StoreCall → Prop where
  | marks {calls : List StoreCall}
      : (∀ call ∈ calls, call.isMark = true) → CallShape resets calls
  | pushed {call : StoreCall} {row : ThreadMessage} {marks : List StoreCall}
      : call.row = some row → (∀ mark ∈ marks, mark.isMark = true)
        → CallShape resets (call :: marks)
  | cleared : resets = true → CallShape resets [.clear]

theorem App.keyCalls_shape (platform : Platform) (env : Env) (key : Char) (app : App)
    : CallShape false (app.keyCalls platform env key) := by
  unfold keyCalls
  split
  · refine .pushed rfl ?_
    split <;> simp [StoreCall.isMark]
  · refine .marks fun call listed => ?_
    obtain ⟨uuid, -, rfl⟩ := List.mem_map.mp listed
    rfl

theorem App.eventCalls_shape (platform : Platform) (env : Env) (event : Event) (app : App)
    : CallShape event.resets (app.eventCalls platform env event) := by
  unfold eventCalls
  split
  · exact .pushed rfl (by simp)
  · exact .marks (by simp [StoreCall.isMark])
  · exact .marks (by simp [StoreCall.isMark])
  · exact .marks (by simp [StoreCall.isMark])
  · split <;> exact .marks (by simp [StoreCall.isMark])
  · split
    · next resets => exact .cleared resets
    · exact .marks (by simp)

theorem Action.storeCalls_shape (platform : Platform) (app : App) (action : Action)
    : CallShape action.resets (action.storeCalls platform app) := by
  cases action with
  | press stroke =>
      unfold storeCalls
      dsimp only
      split
      · exact .marks (by simp)
      · exact app.keyCalls_shape platform stroke.env stroke.key
  | event env received => exact app.eventCalls_shape platform env received
  | focus env foreground => exact .marks (by simp [storeCalls])

/-- Calls lead from a reachable store to a reachable one. -/
theorem MessageStore.Reachable.run {store : MessageStore} (reachable : store.Reachable)
    (calls : List StoreCall)
    : (Runs.run StoreCall.step store calls).Reachable :=
  Runs.run_invariant (fun _ call => .call call) calls reachable

theorem App.Start.reachable {app : App} (start : App.Start app) : app.store.Reachable := by
  cases start with
  | plain => exact .new inboxCapacity
  | seeded order rows => exact .seed order rows (.new inboxCapacity)

/-- Every session keeps a store that its mutations reach. -/
theorem Session.store_reachable (platform : Platform) {session : Session}
    (reachable : session.app.store.Reachable) (action : Action)
    : (session.act platform action).app.store.Reachable := by
  rw [act_store]
  exact reachable.run _

end XousAppSignal.Ui
