import XousAppSignal.Library.Runs
import XousAppSignal.Ui.HandleKeys

/-! The UI's reaction to worker events, and whole runs of the UI: key batches, worker
events and focus changes in any order, with a log of what was pressed, handled and sent.
-/

namespace XousAppSignal.Ui

open Worker

namespace App

/-- Apply the answer to an in-flight username lookup. A stale answer is dropped. -/
def handleUsernameResolveResult (env : Env) (answer : Except String (Option Uuid)) (app : App)
    : App :=
  if !app.usernameLookupInProgress then app
  else
    match answer with
    | .ok (some uuid) =>
        { app with
          usernameLookupInProgress := false
          usernameLookupPending := none
          store :=
            match app.usernameLookupPending with
            | some name => (app.store.resolveAuthorLabels env.order uuid name).2
            | none => app.store
          screen := .thread uuid }
    | .ok none =>
        { app with usernameLookupInProgress := false, lastStatus := "Username not found." }
    | .error reason =>
        { app with
          usernameLookupInProgress := false
          lastStatus := "Lookup failed:\n" ++ reason }

/-- The thread a message is filed under, and whether it is group-tagged. A group message
gets a pseudo-thread derived from the master key.
-/
def messageThread (platform : Platform) (sender : String)
    (groupMasterKey : Option (List UInt8))
    : Uuid × Bool :=
  match groupMasterKey with
  | some key => (platform.newV5 key, true)
  | none => ((platform.parseUuid sender).getD ⟨0⟩, false)

/-- One worker event. -/
def handleWorkerEvent (platform : Platform) (env : Env) (event : Event) (app : App)
    : Outcome :=
  match event with
  | .linkUrl _ => (app, [])
  | .linkComplete deviceName aci phone =>
      ({ app with
        linked := true
        linkingInProgress := false
        screen := .linked .success
        lastStatus :=
          "device: " ++ deviceName ++ "\naci:    " ++ aci ++ "\nphone:  " ++ phone
        accountDeviceName := some deviceName
        accountAci := some aci
        accountPhone := some phone }, env.send .startReceive)
  | .linkError reason =>
      if !app.linkingInProgress then (app, [])
      else
        ({ app with
          linkingInProgress := false
          screen := .linked .failure
          lastStatus := reason }, [])
  | .staleStoreDetected => ({ app with linkingInProgress := false, screen := .menu }, [])
  | .message sender senderPhone senderName body timestamp groupMasterKey =>
      let authorLabel := (senderName <|> senderPhone).getD sender
      let (uuid, group) := messageThread platform sender groupMasterKey
      ({ app with
        store := app.store.pushIncoming env.order uuid authorLabel body timestamp group }, [])
  | .receiveStarted => (app, [])
  | .receiveError reason => ({ app with lastStatus := "Receive: " ++ reason }, [])
  | .sendComplete timestamp =>
      ({ app with store := (app.store.markSendDelivered env.order timestamp).2 }, [])
  | .sendError reason timestamp =>
      ({ app with
        store :=
          match timestamp with
          | some ts => (app.store.markSendFailed env.order ts).2
          | none => app.store
        lastStatus := "Send: " ++ reason }, [])
  | .shuttingDown => ({ app with lastStatus := "worker shutdown" }, [])
  | .accountInfo (.ok info) =>
      let app :=
        { app with
          accountQueryPending := false
          accountDeviceName := some info.deviceName
          accountAci := some info.aci
          accountPhone := some info.phone }
      if !app.linked then
        ({ app with linked := true, screen := .home, homeFocus := 0 }, env.send .startReceive)
      else (app, [])
  | .accountInfo (.error _) => ({ app with accountQueryPending := false }, [])
  | .contactResolved aciUuid name =>
      ({ app with store := (app.store.resolveAuthorLabels env.order aciUuid name).2 }, [])
  | .syncComplete => (app, [])
  | .syncError _ => (app, [])
  | .loggedOut => ({ app.resetToUnlinked with lastStatus := "" }, [])
  | .signalAuthExpired reason =>
      ({ app.resetToUnlinked with
        lastStatus := "Signal authentication expired:\n" ++ reason ++ "\n\nPlease re-link." },
        [])
  | .signalConflictingDevice reason =>
      ({ app.resetToUnlinked with
        lastStatus := "Another device took over:\n" ++ reason ++ "\n\nPlease re-link." }, [])
  | .usernameResolveResult answer => (app.handleUsernameResolveResult env answer, [])
  | .pong => (app, [])
  | .whoami _ => (app, [])

/-- A focus change: coming to the foreground unlinked asks for the account. -/
def handleFocusChange (env : Env) (foreground : Bool) (app : App) : Outcome :=
  if foreground && !app.linked && app.accountAci.isNone then app.queryAccount env
  else (app, [])

end App

-----------------------------------------------------------------------------------------
-- Runs of the UI
-----------------------------------------------------------------------------------------

/-- What can be seen of a run: keys with the screen they were typed on, events as they are
handled, and commands put on the channel.
-/
inductive Observation where
  | pressed (screen : Screen) (key : Char)
  | handled (event : Event)
  | sent (cmd : Cmd)

/-- The app with the history of the run so far, newest observation first. -/
structure Session where
  app : App
  history : List Observation

/-- One key of a batch, with what its handling finds outside. -/
structure KeyPress where
  env : Env
  key : Char

/-- What the receive loop of `run` dispatches. -/
inductive Input where
  | keys (batch : List KeyPress)
  | event (env : Env) (event : Event)
  | focus (env : Env) (foreground : Bool)

/-- The smallest steps of a session: a single key of a batch, an event, a focus change. -/
inductive Action where
  | press (stroke : KeyPress)
  | event (env : Env) (event : Event)
  | focus (env : Env) (foreground : Bool)

namespace Session

/-- A fresh session of the given app. -/
def start (app : App) : Session := ⟨app, []⟩

/-- The session after an outcome whose trigger was observed. -/
def record (trigger : List Observation) (outcome : Outcome) (session : Session) : Session :=
  ⟨outcome.1, outcome.2.reverse.map .sent ++ (trigger ++ session.history)⟩

/-- Perform one action. The loop of `handle_keys` skips filler keys. -/
def act (platform : Platform) (session : Session) : Action → Session
  | .press stroke =>
      if stroke.key = '\x00' then session
      else
        session.record [.pressed session.app.screen stroke.key]
          (session.app.handleKey platform stroke.env stroke.key)
  | .event env event =>
      session.record [.handled event] (session.app.handleWorkerEvent platform env event)
  | .focus env foreground => session.record [] (session.app.handleFocusChange env foreground)

end Session

/-- A key batch is its keys in order. -/
def Input.actions : Input → List Action
  | .keys batch => batch.map .press
  | .event env received => [.event env received]
  | .focus env foreground => [.focus env foreground]

/-- One message of the receive loop. -/
def Session.step (platform : Platform) (session : Session) (input : Input) : Session :=
  Runs.run (Session.act platform) session input.actions

/-- A run of the receive loop is the run of its single actions, by induction. -/
theorem Session.run_step (platform : Platform) (session : Session) (inputs : List Input)
    : Runs.run (Session.step platform) session inputs
      = Runs.run (Session.act platform) session (inputs.flatMap Input.actions) := by
  induction inputs generalizing session with
  | nil => rfl
  | cons input rest ih =>
      rw [Runs.run_cons, ih, List.flatMap_cons, Runs.run_append]
      rfl

/-- The states a UI session starts in: the plain start and the seeded hosted-mode start. -/
inductive App.Start : App → Prop where
  | plain : App.Start .initial
  | seeded (order : HashOrder) (rows : List ThreadMessage) : App.Start (.seeded order rows)

end XousAppSignal.Ui
