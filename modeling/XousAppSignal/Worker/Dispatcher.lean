import XousAppSignal.Store.Clear
import XousAppSignal.Worker.ManagerTask

/-! The worker as a whole: the dispatcher and the detached manager tasks take turns at their
await points, on one shared store and one event channel. A manager task outlives the
dispatcher's handle to it until it notices that its op channel is closed.
-/

namespace XousAppSignal.Worker

open Store
open StoreOp (Buffered)

/-- The await points of the dispatcher. A link that has ended waits in `linkEnding` until the
channel takes its last event.
-/
inductive DispatcherControl where
  | loading (attempts : Nat)
  | adopting (info : AccountInfoData)
  | ready
  | askingWhoami
  | askingAccountInfo
  | forwarding (op : WorkerOp)
  | linking (cancelled : Bool)
  | linkEnding (cancelled : Bool) (linked : Option AccountInfoData)
  | stopping
  | stopped

/-- The dispatcher's variables; `managerOps` is the task whose op channel it feeds. -/
structure Dispatcher where
  managerOps : Option Nat := none
  cachedAccountInfo : Option AccountInfoData := none
  control : DispatcherControl := .loading 0
  outbox : List Emit := []

structure World (ρ : Type) where
  store : Buffered ρ
  dispatcher : Dispatcher := {}
  managers : List Manager := []
  isOpen : Bool := true
  log : List Event := []

inductive DispatcherInput where
  | loaded (result : Except String AccountInfoData)
  | adopt
  | whoami (answer : Except String String)
  | cmd (cmd : Cmd)
  | cmdClosed
  | forward
  | linkUrl (url : String)
  | linked (result : Except String AccountInfoData)
  | linkCancelled
  | linkReturned
  | stop

/-- The next turn: of the dispatcher, of a manager task, of the protocol library working on
the store, or of the event channel.
-/
inductive WorldInput (ρ : Type) : Type 1 where
  | dispatcher (input : DispatcherInput)
  | dispatcherDelivers
  | manager (index : Nat) (input : TaskInput)
  | managerDelivers (index : Nat)
  | library (call : TraitCall ρ)
  | uiGone

/-- The error event for an op that did not get to a manager task. -/
def WorkerOp.refused (reason : String) : WorkerOp → Event
  | .startReceive => .receiveError reason
  | .send request => .sendError reason (some request.timestamp)
  | .syncContacts => .syncError reason
  | .resolveUsername _ => .usernameResolveResult (.error reason)

/-- The text of a definitive "no registration" answer. -/
def isNotRegistered (message : String) : Bool :=
  containsText "not yet registered" message || containsText "NotYetRegistered" message

def loadMaxAttempts : Nat := 10

variable {ρ : Type}

namespace World

/-- The dispatcher goes on to another await point. -/
def goTo (control : DispatcherControl) (world : World ρ) : World ρ :=
  { world with dispatcher := { world.dispatcher with control } }

/-- The dispatcher sends an event and then goes on. -/
def reply (emit : Emit) (control : DispatcherControl) (world : World ρ) : World ρ :=
  { world with
    dispatcher :=
      { world.dispatcher with control, outbox := world.dispatcher.outbox ++ [emit] } }

/-- Drop the op-channel sender. The task is not waited for. -/
def dropOps (world : World ρ) : World ρ :=
  { world with
    dispatcher := { world.dispatcher with managerOps := none }
    managers :=
      match world.dispatcher.managerOps with
      | none => world.managers
      | some index => world.managers.modify index Manager.dropSender }

/-- Spawn a manager task; an earlier op-channel sender is dropped with its variable. -/
def spawnManagerTask (world : World ρ) : World ρ :=
  let world := world.dropOps
  { world with
    dispatcher := { world.dispatcher with managerOps := some world.managers.length }
    managers := world.managers ++ [{}] }

/-- An op for the manager task, refused while there is none. -/
def forwardOp (op : WorkerOp) (world : World ρ) : World ρ :=
  match world.dispatcher.managerOps with
  | none =>
      world.reply { event := op.refused "not linked yet — send Cmd::LinkDevice first" } .ready
  | some _ => world.goTo (.forwarding op)

/-- The channel accepts the op, or turns out closed; a full channel makes the dispatcher
wait.
-/
def forward (op : WorkerOp) (world : World ρ) : Option (World ρ) :=
  match world.dispatcher.managerOps.bind (fun index =>
      world.managers[index]?.map (fun manager => (index, manager))) with
  | none => none
  | some (index, manager) =>
      if manager.task.hasExited then
        some (World.reply { event := op.refused "manager task died" } .ready
          { world with dispatcher := { world.dispatcher with managerOps := none } })
      else if manager.canAccept then
        some (World.goTo .ready
          { world with managers := world.managers.modify index (Manager.accept op) })
      else none

/-- Wipe the store and forget the account; errors of the wipe are only logged. -/
def logout (world : World ρ) : World ρ :=
  let world := world.dropOps
  let (_, store) := world.store.clearRegistration
  let (_, store) := store.clear
  World.reply { event := .loggedOut } .ready
    { world with store, dispatcher := { world.dispatcher with cachedAccountInfo := none } }

/-- The pre-link probe refuses a store that holds account state. -/
def linkDevice (world : World ρ) : World ρ :=
  let (stale, store) := world.store.hasAccountState
  let world := { world with store }
  if stale then world.reply { event := .staleStoreDetected, vital := true } .ready
  else world.goTo (.linking false)

def handleCmd (cmd : Cmd) (world : World ρ) : World ρ :=
  match cmd with
  | .hello => world.reply { event := .pong, vital := true } .ready
  | .getWhoami => world.goTo .askingWhoami
  | .linkDevice _ => world.linkDevice
  | .linkCancel => world
  | .getAccountInfo =>
      match world.dispatcher.cachedAccountInfo with
      | some info => world.reply { event := .accountInfo (.ok info), vital := true } .ready
      | none => world.goTo .askingAccountInfo
  | .startReceive => world.forwardOp .startReceive
  | .sendMessage recipient body timestamp =>
      world.forwardOp (.send ⟨recipient, body, timestamp⟩)
  | .logout => world.logout
  | .syncContacts => world.forwardOp .syncContacts
  | .resolveUsername username => world.forwardOp (.resolveUsername username)
  | .shutdown => world.reply { event := .shuttingDown } .stopping

/-- The startup attempt to load an existing registration. -/
def registrationLoaded (attempts : Nat) (result : Except String AccountInfoData)
    (world : World ρ)
    : World ρ :=
  match result with
  | .ok info =>
      world.reply { event := .linkComplete info.deviceName info.aci info.phone }
        (.adopting info)
  | .error message =>
      if isNotRegistered message then world.goTo .ready
      else if loadMaxAttempts ≤ attempts + 1 then world.goTo .ready
      else world.goTo (.loading (attempts + 1))

/-- A manager was loaded or linked: remember its account and hand it to a task. -/
def adopt (info : AccountInfoData) (world : World ρ) : World ρ :=
  World.goTo .ready (spawnManagerTask
    { world with dispatcher := { world.dispatcher with cachedAccountInfo := some info } })

/-- The registration was read again for `GetAccountInfo`; a manager is kept if none runs. -/
def accountInfoLoaded (result : Except String AccountInfoData) (world : World ρ) : World ρ :=
  match result with
  | .error message =>
      world.reply { event := .accountInfo (.error message), vital := true } .ready
  | .ok info =>
      let world :=
        { world with dispatcher := { world.dispatcher with cachedAccountInfo := some info } }
      let world := if world.dispatcher.managerOps.isNone then world.spawnManagerTask else world
      world.reply { event := .accountInfo (.ok info), vital := true } .ready

/-- A command during an in-flight link: all but `LinkCancel` and `Shutdown` are dropped. The
link future is not polled again after a `Shutdown`, so the event it waits to send is lost.
-/
def linkingCmd (control : Bool → DispatcherControl) (cancelled : Bool) (cmd : Cmd)
    (world : World ρ)
    : World ρ :=
  match cmd with
  | .linkCancel => world.goTo (control true)
  | .shutdown =>
      World.reply { event := .shuttingDown } .stopping
        { world with dispatcher := { world.dispatcher with outbox := [] } }
  | _ => world.goTo (control cancelled)

/-- The link future was polled after a cancel while it still waits for something, be it for
room on the event channel.
-/
def cancelLink (world : World ρ) : World ρ :=
  World.reply { event := .linkError "Cancelled" } (.linkEnding false none)
    { world with dispatcher := { world.dispatcher with outbox := [] } }

def linkEnded (cancelled : Bool) (result : Except String AccountInfoData) (world : World ρ)
    : World ρ :=
  match result with
  | .ok info =>
      world.reply { event := .linkComplete info.deviceName info.aci info.phone }
        (.linkEnding cancelled (some info))
  | .error message =>
      world.reply { event := .linkError message } (.linkEnding cancelled none)

/-- The link future has returned. -/
def linkReturned (linked : Option AccountInfoData) (world : World ρ) : World ρ :=
  match linked with
  | some info => world.adopt info
  | none => world.goTo .ready

/-- One step of the dispatcher. While a link is in flight the command channel is read
alongside it; elsewhere the events sent so far have to be taken first. Once the last event of
the link is taken, the link future returns before the next command is looked at.
-/
def dispatch (world : World ρ) (input : DispatcherInput) : Option (World ρ) :=
  match world.dispatcher.control, input with
  | .linking cancelled, .cmd cmd => some (world.linkingCmd .linking cancelled cmd)
  | .linking _, .cmdClosed => some (world.goTo .stopped)
  | .linking true, .linkCancelled => some world.cancelLink
  | .linkEnding cancelled linked, .cmd cmd =>
      if world.dispatcher.outbox.isEmpty then none
      else some (world.linkingCmd (fun cancelled => .linkEnding cancelled linked) cancelled cmd)
  | .linkEnding _ _, .cmdClosed =>
      if world.dispatcher.outbox.isEmpty then none else some (world.goTo .stopped)
  | .linkEnding true _, .linkCancelled =>
      if world.dispatcher.outbox.isEmpty then none else some world.cancelLink
  | control, input =>
      if !world.dispatcher.outbox.isEmpty then none
      else
        match control, input with
        | .loading attempts, .loaded result => some (world.registrationLoaded attempts result)
        | .adopting info, .adopt => some (world.adopt info)
        | .ready, .cmd cmd => some (world.handleCmd cmd)
        | .ready, .cmdClosed => some (world.goTo .stopped)
        | .askingWhoami, .whoami answer =>
            some (world.reply { event := .whoami answer, vital := true } .ready)
        | .askingAccountInfo, .loaded result => some (world.accountInfoLoaded result)
        | .forwarding op, .forward => world.forward op
        | .linking cancelled, .linkUrl url =>
            some (world.reply { event := .linkUrl url } (.linking cancelled))
        | .linking cancelled, .linked result => some (world.linkEnded cancelled result)
        | .linkEnding _ linked, .linkReturned => some (world.linkReturned linked)
        | .stopping, .stop => some (world.goTo .stopped)
        | _, _ => none

/-- The event channel takes the dispatcher's next event; closed, it ends the dispatcher
after a vital one.
-/
def dispatcherDelivers (world : World ρ) : Option (World ρ) :=
  match world.dispatcher.outbox with
  | [] => none
  | first :: rest =>
      let world := { world with dispatcher := { world.dispatcher with outbox := rest } }
      if world.isOpen then some { world with log := world.log ++ [first.event] }
      else if first.vital then some (world.goTo .stopped)
      else some world

end World

-----------------------------------------------------------------------------------------
-- Manager tasks on the shared store
-----------------------------------------------------------------------------------------

/-- The answer of `begin_send_batch` is the store's own. -/
def TaskInput.agrees (store : Buffered ρ) : TaskInput → Bool
  | .begun (.ok ()) => store.beginSendBatch.1.isOk
  | .begun (.error e) => decide (store.beginSendBatch.1 = .error e)
  | _ => true

/-- What a step of the manager task itself does to the store. A guard that is dropped
without a commit aborts its batch.
-/
def TaskInput.onStore (platform : Platform) (format : RecordFormat ρ) (control : Control)
    (store : Buffered ρ)
    : TaskInput → Buffered ρ
  | .begun _ => store.beginSendBatch.2
  | .sendReturned outcome _ flushOrder commitOrder =>
      match control with
      | .sending _ attempt =>
          match judge platform attempt outcome with
          | .complete => settleBatch format flushOrder commitOrder store
          | .retry => store
          | .defer => store.abortBatch
          | .fail _ => store
      | _ => store
  | .slept =>
      match control with
      | .sleeping _ _ => store.abortBatch
      | _ => store
  | .proceed =>
      match control with
      | .failing => store.abortBatch
      | _ => store
  | .item .queueEmpty _ order => (store.flushSessions format order).2
  | _ => store

namespace World

def managerAdvances (platform : Platform) (format : RecordFormat ρ) (index : Nat)
    (input : TaskInput) (world : World ρ)
    : Option (World ρ) :=
  match world.managers[index]? with
  | none => none
  | some manager =>
      if input.agrees world.store then
        (manager.advance platform input).map (fun next =>
          { world with
            managers := world.managers.set index next
            store := input.onStore platform format manager.task.control world.store })
      else none

def managerDelivers (index : Nat) (world : World ρ) : Option (World ρ) :=
  match world.managers[index]? with
  | none => none
  | some manager =>
      (manager.deliver world.isOpen).map (fun (event, next) =>
        { world with
          managers := world.managers.set index next
          log := world.log ++ event.toList })

/-- The executor runs until the dispatcher's future ends; after that no task is polled. -/
def running (world : World ρ) : Bool :=
  match world.dispatcher.control with
  | .stopped => false
  | _ => true

def step (platform : Platform) (format : RecordFormat ρ) (world : World ρ)
    (input : WorldInput ρ)
    : Option (World ρ) :=
  if !world.running then none
  else
    match input with
    | .dispatcher input => world.dispatch input
    | .dispatcherDelivers => world.dispatcherDelivers
    | .manager index input => world.managerAdvances platform format index input
    | .managerDelivers index => world.managerDelivers index
    | .library call => some { world with store := call.perform format world.store }
    | .uiGone => some { world with isOpen := false }

/-- A worker that has just been started on a store. -/
def start (inner : InnerBackend) : World ρ := { store := .newBuffering inner }

end World

end XousAppSignal.Worker
