import XousAppSignal.Worker.Received

/-! The task that owns the linked manager, as a state machine. A step runs from one await
point to the next, and what the awaited call answered is its input. Events wait in an outbox
until the event channel takes them; the task does nothing else meanwhile.
-/

namespace XousAppSignal.Worker

open Store (Bytes Error)

/-- Operations forwarded from the dispatcher to the manager task. -/
inductive WorkerOp where
  | startReceive
  | send (send : InnerSend)
  | syncContacts
  | resolveUsername (input : String)
  deriving DecidableEq

/-- Why the inner pump ended. -/
inductive PumpExit where
  | op (op : WorkerOp)
  | reopen (reason : String)
  | shutdown

/-- An event on its way to the channel; after a vital one a closed channel ends the task. -/
structure Emit where
  event : Event
  vital : Bool := false

/-- The await points of the task. While an attempt is sending, sleeping or failing, the
task holds the guard of its write batch.
-/
inductive Control where
  | head
  | parked
  | backingOff
  | opening
  | pumpHead
  | pumping
  | fetching (drained : List (Uuid × Bytes)) (exit : PumpExit)
  | retrieving (aci : Uuid) (rest : List (Uuid × Bytes)) (exit : PumpExit)
  | starting (send : InnerSend)
  | attempting (send : InnerSend) (attempt : Nat)
  | sending (send : InnerSend) (attempt : Nat)
  | sleeping (send : InnerSend) (attempt : Nat)
  | failing
  | syncing
  | resolving (input : String)
  | leaving
  | exited

/-- The task's variables, its end of the op channel, and where it stands. -/
structure Task extends ReceiveState where
  queue : List WorkerOp := []
  senderOpen : Bool := true
  announced : Bool := false
  receiving : Bool := false
  consecutiveFailures : Nat := 0
  consecutiveReauth403s : Nat := 0
  fetchedOrFailed : List Uuid := []
  control : Control := .head
  outbox : List Emit := []

def opChannelCapacity : Nat := 8

def maxConsecutiveFailures : Nat := 20

def maxReauth403s : Nat := 3

/-- Thirty seconds, in milliseconds. -/
def pendingReceiptGrace : Nat := 30000

/-- The given and family name of a fetched profile. -/
structure ProfileName where
  givenName : String
  familyName : Option String

def ProfileName.shown (name : ProfileName) : String :=
  let family := trim (name.familyName.getD "")
  if family = "" then trim name.givenName else trim name.givenName ++ " " ++ family

/-- What ends an await: a timer, a channel, or the answer of an awaited call. -/
inductive TaskInput : Type 1 where
  | wake (now : Nat) (order : HashOrder)
  | tick
  | recv
  | slept
  | opened (result : Except String Unit) (closeCode : Option Nat)
  | item (item : Received) (contact : Option Contact) (order : Store.FlushOrder)
  | streamEnded
  | fetchNext
  | profile (result : Except String (Option ProfileName))
  | contacts (contacts : Contacts)
  | begun (result : Except Error Unit)
  | sendReturned (outcome : SendOutcome) (now : Nat) (flushOrder : Store.FlushOrder)
      (commitOrder : HashOrder)
  | synced (result : Except String Unit)
  | resolved (result : Except String (Option Uuid))
  | proceed

namespace Task

/-- Send events, then go on. -/
def emit (events : List Event) (control : Control) (task : Task) : Task :=
  { task with
    control := control
    outbox := task.outbox ++ events.map (fun event => { event }) }

/-- Run one op while no stream holds the manager. -/
def runManagerOp (op : WorkerOp) (task : Task) : Task :=
  match op with
  | .startReceive => { task with control := .head }
  | .send send => { task with control := .starting send }
  | .syncContacts => { task with control := .syncing }
  | .resolveUsername input => { task with control := .resolving input }

/-- Expire deferred sends at the top of a loop. -/
def sweep (order : HashOrder) (now : Nat) (control : Control) (task : Task) : Task :=
  let (events, pending) := sweepExpiredPendingSends order now task.pendingUnconfirmedSends
  emit events control { task with pendingUnconfirmedSends := pending }

/-- The pump ended: the stream is dropped and the queued profile fetches are drained. -/
def endPump (exit : PumpExit) (task : Task) : Task :=
  { task with
    control := .fetching task.pendingProfileFetches exit
    pendingProfileFetches := [] }

/-- An op taken from the channel while parked. -/
def parkedOp (op : WorkerOp) (task : Task) : Task :=
  match op with
  | .startReceive => { task with receiving := true, control := .head }
  | op => task.runManagerOp op

/-- An op taken from the channel while the stream is open. -/
def pumpedOp (op : WorkerOp) (task : Task) : Task :=
  match op with
  | .startReceive => { task with control := .pumpHead }
  | op => task.endPump (.op op)

/-- A closed channel answers only once the ops queued in it are taken. -/
def receiveOp (handle : WorkerOp → Task → Task) (shutdown : Task → Task) (task : Task)
    : Option Task :=
  match task.queue with
  | op :: rest => some (handle op { task with queue := rest })
  | [] => if task.senderOpen then none else some (shutdown task)

/-- Of a streak of failures only the first is reported. -/
def reportFirstFailure (reason : String) (task : Task) : Task :=
  if task.consecutiveFailures = 1 then task.emit [.receiveError reason] .head
  else { task with control := .head }

/-- Opening the stream failed: two close codes are terminal, other failures are retried. -/
def openFailed (err : String) (closeCode : Option Nat) (task : Task) : Task :=
  let task := { task with consecutiveFailures := task.consecutiveFailures + 1 }
  if closeCode = some 4409 then
    task.emit
      [.signalConflictingDevice ("Server reported 4409 'Connected elsewhere' — another device "
        ++ "or app instance with this Signal account is active. Receive-stream error: "
        ++ err)]
      .leaving
  else if closeCode = some 4401 ∧ containsText "403 Forbidden" err then
    let task := { task with consecutiveReauth403s := task.consecutiveReauth403s + 1 }
    if maxReauth403s ≤ task.consecutiveReauth403s then
      task.emit
        [.signalAuthExpired ("Server requested reauthentication (code 4401); refreshed "
          ++ "handshake rejected with HTTP 403 after "
          ++ toString task.consecutiveReauth403s ++ " retries.")]
        .leaving
    else task.reportFirstFailure ("receive_messages: " ++ err)
  else task.reportFirstFailure ("receive_messages: " ++ err)

/-- The fetches are done: run the op, reopen after a failure, or leave. -/
def afterPump (exit : PumpExit) (task : Task) : Task :=
  match exit with
  | .op op => task.runManagerOp op
  | .reopen reason =>
      let task := { task with consecutiveFailures := task.consecutiveFailures + 1 }
      task.reportFirstFailure ("receive " ++ reason ++ " (auto-retrying)")
  | .shutdown => { task with control := .leaving }

/-- The next profile to fetch; each account is tried once in the life of the task. -/
def nextFetch (drained : List (Uuid × Bytes)) (exit : PumpExit) (task : Task) : Task :=
  match drained with
  | [] => task.afterPump exit
  | (aci, _) :: rest =>
      if aci ∈ task.fetchedOrFailed then { task with control := .fetching rest exit }
      else
        { task with
          fetchedOrFailed := aci :: task.fetchedOrFailed
          control := .retrieving aci rest exit }

def profileFetched (aci : Uuid) (rest : List (Uuid × Bytes)) (exit : PumpExit)
    (result : Except String (Option ProfileName)) (task : Task)
    : Task :=
  match result with
  | .error _ => { task with control := .fetching rest exit }
  | .ok name =>
      let shown := (name.map ProfileName.shown).getD ""
      if shown = "" then { task with control := .fetching rest exit }
      else task.emit [.contactResolved aci shown] (.fetching rest exit)

/-- An attempt returned: report, sleep before the next one, or wait for a receipt. -/
def attemptReturned (platform : Platform) (send : InnerSend) (attempt : Nat)
    (outcome : SendOutcome) (now : Nat) (task : Task)
    : Task :=
  match judge platform attempt outcome with
  | .complete => task.emit [.sendComplete send.timestamp] .head
  | .retry => { task with control := .sleeping send attempt }
  | .defer =>
      { task with
        pendingUnconfirmedSends :=
          task.pendingUnconfirmedSends.insert send.timestamp (now + pendingReceiptGrace)
        control := .head }
  | .fail reason => task.emit [.sendError reason (some send.timestamp)] .failing

/-- The stream opened; the first time the UI is told. -/
def streamOpened (task : Task) : Task :=
  if task.announced then { task with control := .pumpHead }
  else
    { task with
      announced := true
      control := .pumpHead
      outbox := [{ event := .receiveStarted, vital := true }] }

/-- A stream item is progress, so the failure counters start over. -/
def itemReceived (item : Received) (contact : Option Contact) (task : Task) : Task :=
  let (events, state) := processReceived contact item task.toReceiveState
  { task with
    toReceiveState := state
    consecutiveFailures := 0
    consecutiveReauth403s := 0
    control := .pumpHead
    outbox := events.map (fun event => { event, vital := true }) }

def backoffElapsed (task : Task) : Task :=
  if maxConsecutiveFailures ≤ task.consecutiveFailures then
    task.emit
      [.receiveError ("receive failed " ++ toString task.consecutiveFailures
        ++ " times; restart xas to retry")]
      .leaving
  else { task with control := .opening }

/-- The top of the outer loop. -/
def outerHead (order : HashOrder) (now : Nat) (task : Task) : Task :=
  if !task.receiving then task.sweep order now .parked
  else if 0 < task.consecutiveFailures then { task with control := .backingOff }
  else { task with control := .opening }

/-- One step of the task whose events have all been taken; `none` where this input cannot
end the await the task is in.
-/
def advance (platform : Platform) (task : Task) (input : TaskInput) : Option Task :=
  match task.control, input with
  | .head, .wake now order => some (task.outerHead order now)
  | .parked, .tick =>
      if task.pendingUnconfirmedSends.entries.isEmpty then none
      else some { task with control := .head }
  | .parked, .recv => task.receiveOp parkedOp (fun task => { task with control := .leaving })
  | .backingOff, .slept => some task.backoffElapsed
  | .opening, .opened (.ok ()) _ => some task.streamOpened
  | .opening, .opened (.error err) closeCode => some (task.openFailed err closeCode)
  | .pumpHead, .wake now order => some (task.sweep order now .pumping)
  | .pumping, .item item contact _ => some (task.itemReceived item contact)
  | .pumping, .streamEnded => some (task.endPump (.reopen "stream ended"))
  | .pumping, .recv => task.receiveOp pumpedOp (endPump .shutdown)
  | .pumping, .tick => some { task with control := .pumpHead }
  | .fetching drained exit, .fetchNext => some (task.nextFetch drained exit)
  | .retrieving aci rest exit, .profile result =>
      some (task.profileFetched aci rest exit result)
  | .starting send, .contacts contacts =>
      match resolveRecipient platform contacts send.recipient with
      | .error reason => some (task.emit [.sendError reason (some send.timestamp)] .head)
      | .ok _ => some { task with control := .attempting send 1 }
  | .attempting send attempt, .begun result =>
      match result with
      | .error e =>
          some (task.emit
            [.sendError ("internal: begin_send_batch: " ++ e.display) (some send.timestamp)]
            .head)
      | .ok () => some { task with control := .sending send attempt }
  | .sending send attempt, .sendReturned outcome now _ _ =>
      some (task.attemptReturned platform send attempt outcome now)
  | .sleeping send attempt, .slept =>
      some { task with control := .attempting send (attempt + 1) }
  | .failing, .proceed => some { task with control := .head }
  | .syncing, .synced result =>
      match result with
      | .ok () => some (task.emit [.syncComplete] .head)
      | .error reason => some (task.emit [.syncError reason] .head)
  | .resolving _, .resolved result => some (task.emit [.usernameResolveResult result] .head)
  | .leaving, .proceed => some { task with control := .exited }
  | _, _ => none

def step (platform : Platform) (task : Task) (input : TaskInput) : Option Task :=
  if task.outbox.isEmpty then task.advance platform input else none

/-- The receiving end of the op channel is gone. -/
def hasExited (task : Task) : Bool :=
  match task.control with
  | .exited => true
  | _ => false

/-- The event channel takes the next event, or is closed and drops it. -/
def deliver (isOpen : Bool) (task : Task) : Option (Option Event × Task) :=
  match task.outbox with
  | [] => none
  | first :: rest =>
      if isOpen then some (some first.event, { task with outbox := rest })
      else if first.vital then some (none, { task with control := .exited, outbox := [] })
      else some (none, { task with outbox := rest })

end Task

/-- A spawned task with its history: the ops its channel accepted and the events it sent. -/
structure Manager where
  task : Task := {}
  accepted : List WorkerOp := []
  sent : List Event := []

inductive ManagerInput : Type 1 where
  | accept (op : WorkerOp)
  | dropSender
  | advance (input : TaskInput)
  | deliver (isOpen : Bool)

namespace Manager

/-- The bounded op channel takes an op while the task is there to receive it. -/
def accept (op : WorkerOp) (manager : Manager) : Manager :=
  { manager with
    task := { manager.task with queue := manager.task.queue ++ [op] }
    accepted := manager.accepted ++ [op] }

def canAccept (manager : Manager) : Bool :=
  manager.task.senderOpen && !manager.task.hasExited
    && manager.task.queue.length < opChannelCapacity

/-- The dispatcher dropped its end of the op channel. -/
def dropSender (manager : Manager) : Manager :=
  { manager with task := { manager.task with senderOpen := false } }

def deliver (isOpen : Bool) (manager : Manager) : Option (Option Event × Manager) :=
  (manager.task.deliver isOpen).map (fun (event, task) =>
    (event, { manager with task, sent := manager.sent ++ event.toList }))

def advance (platform : Platform) (input : TaskInput) (manager : Manager) : Option Manager :=
  (manager.task.step platform input).map (fun task => { manager with task })

def step (platform : Platform) (manager : Manager) : ManagerInput → Option Manager
  | .accept op => if manager.canAccept then some (manager.accept op) else none
  | .dropSender => some manager.dropSender
  | .advance input => manager.advance platform input
  | .deliver isOpen => (manager.deliver isOpen).map Prod.snd

end Manager

end XousAppSignal.Worker
