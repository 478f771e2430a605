import XousAppSignal.Library.Histories
import XousAppSignal.Worker.TaskEvents

/-! The receive loop of the manager task by itself: when it calls `receive_messages`, what it
counts and what it tells the UI. Sends, syncs and profile fetches happen in between and leave
no mark on it. The task is shown to follow this machine step by step.
-/

namespace XousAppSignal.Worker

open Store (Bytes)

/-- Events the loop itself sends; all others come from ops and stream items. -/
def Event.fromLoop : Event → Bool
  | .receiveStarted => true
  | .receiveError _ => true
  | .signalAuthExpired _ => true
  | .signalConflictingDevice _ => true
  | _ => false

/-- What happens in the loop. A failed open and an ended stream are noted with what
`last_identified_close_code` reports then.
-/
inductive Note where
  | called
  | opened
  | openFailed (err : String) (closeCode : Option Nat)
  | item
  | ended (closeCode : Option Nat)
  | opsClosed
  | emitted (event : Event)

def Note.event? : Note → Option Event
  | .emitted event => some event
  | _ => none

/-- Where the task stands in the loop. A stream end is counted once the profiles are
fetched; after a closed op channel they are still fetched before the task leaves.
-/
inductive Stage where
  | running
  | calling
  | ending
  | closing
  | over
  deriving DecidableEq

def PumpExit.stage : PumpExit → Stage
  | .op _ => .running
  | .reopen _ => .ending
  | .shutdown => .closing

def Control.stage : Control → Stage
  | .opening => .calling
  | .fetching _ exit => exit.stage
  | .retrieving _ _ exit => exit.stage
  | .leaving => .over
  | .exited => .over
  | _ => .running

/-- The loop's variables. -/
structure LoopState where
  stage : Stage
  consecutiveFailures : Nat
  consecutiveReauth403s : Nat
  announced : Bool

def Task.loop (task : Task) : LoopState where
  stage := task.control.stage
  consecutiveFailures := task.consecutiveFailures
  consecutiveReauth403s := task.consecutiveReauth403s
  announced := task.announced

/-- A refused handshake after the server asked for reauthentication. -/
def isReauth403 (err : String) (closeCode : Option Nat) : Bool :=
  closeCode = some 4401 ∧ containsText "403 Forbidden" err

/-- The banner for a failure: only the first of a streak has one. -/
def banner (failures : Nat) (reason : String) : List Note :=
  if failures = 1 then [.emitted (.receiveError reason)] else []

/-- The first open stream is announced, later ones are not. -/
def greeting (announced : Bool) : List Note :=
  if announced then [] else [.emitted .receiveStarted]

def gaveUpText (failures : Nat) : String :=
  "receive failed " ++ toString failures ++ " times; restart xas to retry"

/-- One step of the loop with what happens in it. -/
inductive LoopStep (loop : LoopState) : List Note → LoopState → Prop where
  | quiet : LoopStep loop [] loop
  | called (running : loop.stage = .running)
      (room : loop.consecutiveFailures < maxConsecutiveFailures)
      : LoopStep loop [.called] { loop with stage := .calling }
  | opened (calling : loop.stage = .calling)
      : LoopStep loop (.opened :: greeting loop.announced)
          { loop with stage := .running, announced := true }
  | displaced (err reason : String) (calling : loop.stage = .calling)
      : LoopStep loop
          [.openFailed err (some 4409), .emitted (.signalConflictingDevice reason)]
          { loop with stage := .over, consecutiveFailures := loop.consecutiveFailures + 1 }
  | expired (err reason : String) (closeCode : Option Nat) (calling : loop.stage = .calling)
      (reauth : isReauth403 err closeCode = true)
      (spent : maxReauth403s ≤ loop.consecutiveReauth403s + 1)
      : LoopStep loop [.openFailed err closeCode, .emitted (.signalAuthExpired reason)]
          { loop with
            stage := .over
            consecutiveFailures := loop.consecutiveFailures + 1
            consecutiveReauth403s := loop.consecutiveReauth403s + 1 }
  | refused (err : String) (closeCode : Option Nat) (calling : loop.stage = .calling)
      (reauth : isReauth403 err closeCode = true)
      (unspent : loop.consecutiveReauth403s + 1 < maxReauth403s)
      : LoopStep loop
          (.openFailed err closeCode
            :: banner (loop.consecutiveFailures + 1) ("receive_messages: " ++ err))
          { loop with
            stage := .running
            consecutiveFailures := loop.consecutiveFailures + 1
            consecutiveReauth403s := loop.consecutiveReauth403s + 1 }
  | failed (err : String) (closeCode : Option Nat) (calling : loop.stage = .calling)
      (undisplaced : closeCode ≠ some 4409) (other : isReauth403 err closeCode = false)
      : LoopStep loop
          (.openFailed err closeCode
            :: banner (loop.consecutiveFailures + 1) ("receive_messages: " ++ err))
          { loop with
            stage := .running
            consecutiveFailures := loop.consecutiveFailures + 1 }
  | item (running : loop.stage = .running)
      : LoopStep loop [.item]
          { loop with
            stage := .running
            consecutiveFailures := 0
            consecutiveReauth403s := 0 }
  | ended (closeCode : Option Nat) (running : loop.stage = .running)
      : LoopStep loop [.ended closeCode] { loop with stage := .ending }
  | counted (reason : String) (ending : loop.stage = .ending)
      : LoopStep loop
          (banner (loop.consecutiveFailures + 1) ("receive " ++ reason ++ " (auto-retrying)"))
          { loop with
            stage := .running
            consecutiveFailures := loop.consecutiveFailures + 1 }
  | gaveUp (running : loop.stage = .running)
      (spent : maxConsecutiveFailures ≤ loop.consecutiveFailures)
      : LoopStep loop [.emitted (.receiveError (gaveUpText loop.consecutiveFailures))]
          { loop with stage := .over }
  | parkedClosed (running : loop.stage = .running)
      : LoopStep loop [.opsClosed] { loop with stage := .over }
  | pumpedClosed (running : loop.stage = .running)
      : LoopStep loop [.opsClosed] { loop with stage := .closing }
  | closed (closing : loop.stage = .closing) : LoopStep loop [] { loop with stage := .over }

/-- The only note of a banner is the error it reports. -/
theorem banner_all {P : Note → Prop} (holds : ∀ reason, P (.emitted (.receiveError reason)))
    {failures : Nat} {reason : String}
    : ∀ note ∈ banner failures reason, P note := by
  intro note listed
  unfold banner at listed
  split at listed
  · obtain rfl := List.mem_singleton.mp listed
    exact holds reason
  · cases listed

theorem greeting_all {P : Note → Prop} (holds : P (.emitted .receiveStarted))
    {announced : Bool}
    : ∀ note ∈ greeting announced, P note := by
  intro note listed
  cases announced with
  | true => cases listed
  | false => exact List.mem_singleton.mp listed ▸ holds

/-- Nothing happens any more in a loop that is over. -/
theorem LoopStep.over_final {loop next : LoopState} {noted : List Note}
    (moved : LoopStep loop noted next) (ended : loop.stage = .over)
    : noted = [] ∧ next = loop := by
  cases moved with
  | quiet => exact ⟨rfl, rfl⟩
  | _ => simp_all

namespace Task

/-- What an input does in the loop, apart from the events sent. -/
def happened (reported : Option Nat) (task : Task) (input : TaskInput) (after : Task)
    : List Note :=
  match input with
  | .opened (.ok ()) _ => [.opened]
  | .opened (.error err) closeCode => [.openFailed err closeCode]
  | .item .. => [.item]
  | .streamEnded => [.ended reported]
  | .recv => if task.queue.isEmpty then [.opsClosed] else []
  | .wake .. => if after.control.stage = .calling then [.called] else []
  | .slept => if after.control.stage = .calling then [.called] else []
  | _ => []

/-- The loop's own events among those waiting in the outbox. -/
def announcements (task : Task) : List Note :=
  ((task.outbox.map Emit.event).filter Event.fromLoop).map .emitted

/-- All that a step notes: what happened, then the events sent. -/
def noted (reported : Option Nat) (task : Task) (input : TaskInput) (after : Task)
    : List Note :=
  happened reported task input after ++ after.announcements

/-- Events that are not the loop's own leave no note. -/
theorem announcements_eq_nil {task : Task}
    (silent : ∀ emit ∈ task.outbox, emit.event.fromLoop = false)
    : task.announcements = [] := by
  have none : (task.outbox.map Emit.event).filter Event.fromLoop = [] := by
    rw [List.filter_eq_nil_iff]
    intro event listed
    obtain ⟨emit, waiting, rfl⟩ := List.mem_map.mp listed
    simp [silent emit waiting]
  rw [announcements, none, List.map_nil]

theorem announcements_emit {task : Task} (taken : task.outbox = []) (event : Event)
    (own : event.fromLoop = true) (control : Control)
    : (task.emit [event] control).announcements = [.emitted event] := by
  simp [announcements, emit, taken, own]

theorem announcements_emit_other {task : Task} (taken : task.outbox = []) {events : List Event}
    (other : ∀ event ∈ events, event.fromLoop = false) (control : Control)
    : (task.emit events control).announcements = [] := by
  apply announcements_eq_nil
  intro emit waiting
  simp only [Task.emit, taken, List.nil_append, List.mem_map] at waiting
  obtain ⟨event, listed, rfl⟩ := waiting
  exact other event listed

/-- The first failure of a streak is announced with its reason. -/
theorem announcements_reportFirstFailure {task : Task} (taken : task.outbox = [])
    (reason : String)
    : (task.reportFirstFailure reason).announcements = banner task.consecutiveFailures reason := by
  unfold reportFirstFailure banner
  split
  · exact announcements_emit taken _ rfl _
  · exact announcements_eq_nil (by simp [taken])

theorem loop_reportFirstFailure (task : Task) (reason : String)
    : (task.reportFirstFailure reason).loop = { task.loop with stage := .running } := by
  unfold reportFirstFailure
  split <;> rfl

/-- A failed open is one of four steps of the loop. -/
theorem openFailed_loop {task : Task} (taken : task.outbox = []) (err : String)
    (closeCode : Option Nat) (calling : task.loop.stage = .calling)
    : LoopStep task.loop
        (.openFailed err closeCode :: (task.openFailed err closeCode).announcements)
        (task.openFailed err closeCode).loop := by
  let failed : Task := { task with consecutiveFailures := task.consecutiveFailures + 1 }
  let refused : Task := { failed with consecutiveReauth403s := task.consecutiveReauth403s + 1 }
  by_cases displaced : closeCode = some 4409
  · have sent := announcements_emit (show failed.outbox = [] from taken)
      (.signalConflictingDevice ("Server reported 4409 'Connected elsewhere' — another device "
        ++ "or app instance with this Signal account is active. Receive-stream error: "
        ++ err)) rfl .leaving
    have same : task.openFailed err closeCode = failed.emit _ .leaving := if_pos displaced
    rw [same, sent, displaced]
    exact .displaced err _ calling
  · by_cases reauth : closeCode = some 4401 ∧ containsText "403 Forbidden" err
    · have counts : isReauth403 err closeCode = true := by simpa [isReauth403] using reauth
      by_cases spent : maxReauth403s ≤ task.consecutiveReauth403s + 1
      · have sent := announcements_emit (show refused.outbox = [] from taken)
          (.signalAuthExpired ("Server requested reauthentication (code 4401); refreshed "
            ++ "handshake rejected with HTTP 403 after "
            ++ toString (task.consecutiveReauth403s + 1) ++ " retries.")) rfl .leaving
        have same : task.openFailed err closeCode = refused.emit _ .leaving :=
          (if_neg displaced).trans ((if_pos reauth).trans (if_pos spent))
        rw [same, sent]
        exact .expired err _ closeCode calling counts spent
      · have same : task.openFailed err closeCode
            = refused.reportFirstFailure ("receive_messages: " ++ err) :=
          (if_neg displaced).trans ((if_pos reauth).trans (if_neg spent))
        rw [same, announcements_reportFirstFailure (show refused.outbox = [] from taken),
          loop_reportFirstFailure]
        exact .refused err closeCode calling counts (Nat.lt_of_not_le spent)
    · have same : task.openFailed err closeCode
          = failed.reportFirstFailure ("receive_messages: " ++ err) :=
        (if_neg displaced).trans (if_neg reauth)
      have other : isReauth403 err closeCode = false := by simpa [isReauth403] using reauth
      rw [same, announcements_reportFirstFailure (show failed.outbox = [] from taken),
        loop_reportFirstFailure]
      exact .failed err closeCode calling displaced other

theorem loop_runManagerOp (op : WorkerOp) (task : Task)
    : (task.runManagerOp op).loop = { task.loop with stage := .running } := by
  cases op <;> rfl

theorem announcements_runManagerOp {task : Task} (taken : task.outbox = []) (op : WorkerOp)
    : (task.runManagerOp op).announcements = [] := by
  cases op <;> exact announcements_eq_nil (by simp [runManagerOp, taken])

theorem announcements_sweep {task : Task} (taken : task.outbox = []) (order : HashOrder)
    (now : Nat) (control : Control)
    : (task.sweep order now control).announcements = [] := by
  let swept : Task :=
    { task with
      pendingUnconfirmedSends :=
        (sweepExpiredPendingSends order now task.pendingUnconfirmedSends).2 }
  refine announcements_emit_other (show swept.outbox = [] from taken) ?_ control
  intro event listed
  obtain ⟨timestamp, -, rfl⟩ := List.mem_map.mp listed
  rfl

theorem loop_sweep (task : Task) (order : HashOrder) (now : Nat) (control : Control)
    : (task.sweep order now control).loop = { task.loop with stage := control.stage } :=
  rfl

/-- A step that moves the task without touching the loop's variables or sending its events. -/
theorem quiet_of {task after : Task} {happened : List Note}
    (same : after.loop = task.loop) (nothing : happened = [])
    (silent : after.announcements = [])
    : LoopStep task.loop (happened ++ after.announcements) after.loop := by
  rw [same, nothing, silent]
  exact .quiet

/-- An input that is no news for the loop, in a step that leaves the loop running. -/
theorem happened_other {task after : Task} {reported : Option Nat} {input : TaskInput}
    (running : after.control.stage = .running)
    (wakes : (∃ now order, input = .wake now order) ∨ input = .slept)
    : task.happened reported input after = [] := by
  rcases wakes with ⟨now, order, rfl⟩ | rfl <;> simp [happened, running]

/-- Leaving the top of the loop: park, open at once, or back off first. -/
theorem outerHead_loop {task : Task} (taken : task.outbox = []) (head : task.control = .head)
    (reported : Option Nat) (order : HashOrder) (now : Nat)
    : LoopStep task.loop
        (task.noted reported (.wake now order) (task.outerHead order now))
        (task.outerHead order now).loop := by
  have running : task.loop.stage = .running := by rw [loop, head]; rfl
  have resumed : { task.loop with stage := .running } = task.loop := by rw [← running]
  unfold outerHead
  split
  · refine quiet_of ?_ (happened_other rfl (.inl ⟨now, order, rfl⟩))
      (announcements_sweep taken order now .parked)
    rw [loop_sweep]
    exact resumed
  · split
    · exact quiet_of resumed (happened_other rfl (.inl ⟨now, order, rfl⟩))
        (announcements_eq_nil (by simp [taken]))
    · next failures =>
        have silent : ({ task with control := .opening } : Task).announcements = [] :=
          announcements_eq_nil (by simp [taken])
        have room : task.loop.consecutiveFailures < maxConsecutiveFailures := by
          have none : task.consecutiveFailures = 0 := by omega
          simp [loop, none, maxConsecutiveFailures]
        rw [noted, silent]
        exact .called running room

/-- After the backoff the task gives up or opens the stream again. -/
theorem backoffElapsed_loop {task : Task} (taken : task.outbox = [])
    (waiting : task.control = .backingOff) (reported : Option Nat)
    : LoopStep task.loop (task.noted reported .slept task.backoffElapsed)
        task.backoffElapsed.loop := by
  have running : task.loop.stage = .running := by rw [loop, waiting]; rfl
  unfold backoffElapsed
  split
  · next spent =>
      rw [noted, announcements_emit taken _ rfl]
      exact .gaveUp running spent
  · next room =>
      have silent : ({ task with control := .opening } : Task).announcements = [] :=
        announcements_eq_nil (by simp [taken])
      rw [noted, silent]
      exact .called running (Nat.lt_of_not_le room)

theorem streamOpened_loop {task : Task} (taken : task.outbox = [])
    (calling : task.loop.stage = .calling)
    : LoopStep task.loop (.opened :: task.streamOpened.announcements)
        task.streamOpened.loop := by
  have step := LoopStep.opened calling
  unfold streamOpened
  split
  · next announced =>
      have told : task.loop.announced = true := announced
      have silent : ({ task with control := .pumpHead } : Task).announcements = [] :=
        announcements_eq_nil (by simp [taken])
      rw [told] at step
      rw [silent, loop]
      simpa [loop, announced, greeting, Control.stage] using step
  · next unannounced =>
      have told : task.loop.announced = false := Bool.not_eq_true _ ▸ unannounced
      rw [told] at step
      exact step

theorem itemReceived_loop {task : Task} (running : task.loop.stage = .running)
    (item : Received) (contact : Option Contact)
    : LoopStep task.loop (.item :: (task.itemReceived item contact).announcements)
        (task.itemReceived item contact).loop := by
  have silent : (task.itemReceived item contact).announcements = [] := by
    apply announcements_eq_nil
    intro emit waiting
    obtain ⟨event, emitted, rfl⟩ := List.mem_map.mp waiting
    rcases processReceived_events emitted with ⟨timestamp, rfl⟩ | message
    · rfl
    · cases event <;> first | rfl | cases message
  rw [silent]
  exact .item running

/-- The fetches go on, or the reason the pump ended is acted on. -/
theorem nextFetch_loop {task : Task} (taken : task.outbox = [])
    {drained : List (Uuid × Bytes)} {exit : PumpExit}
    (fetching : task.control = .fetching drained exit)
    : LoopStep task.loop (task.nextFetch drained exit).announcements
        (task.nextFetch drained exit).loop := by
  have stage : task.loop.stage = exit.stage := by rw [loop, fetching]; rfl
  cases drained with
  | cons first rest =>
      have same : (task.nextFetch (first :: rest) exit).loop = task.loop := by
        simp only [nextFetch]
        split <;> simp [loop, fetching, Control.stage]
      have silent : (task.nextFetch (first :: rest) exit).announcements = [] := by
        simp only [nextFetch]
        split <;> exact announcements_eq_nil (by simp [taken])
      rw [same, silent]
      exact .quiet
  | nil =>
      cases exit with
      | op op =>
          have resumed : { task.loop with stage := .running } = task.loop := by
            rw [← show task.loop.stage = .running from stage]
          have same : (task.nextFetch [] (.op op)).loop = task.loop :=
            (loop_runManagerOp op task).trans resumed
          have silent : (task.nextFetch [] (.op op)).announcements = [] :=
            announcements_runManagerOp taken op
          rw [same, silent]
          exact .quiet
      | reopen reason =>
          let failed : Task := { task with consecutiveFailures := task.consecutiveFailures + 1 }
          have same : task.nextFetch [] (.reopen reason)
              = failed.reportFirstFailure ("receive " ++ reason ++ " (auto-retrying)") :=
            rfl
          rw [same, announcements_reportFirstFailure (show failed.outbox = [] from taken),
            loop_reportFirstFailure]
          exact .counted reason stage
      | shutdown =>
          have silent : (task.nextFetch [] .shutdown).announcements = [] :=
            announcements_eq_nil (by simp [nextFetch, afterPump, taken])
          rw [silent]
          exact .closed stage

theorem profileFetched_loop {task : Task} (taken : task.outbox = []) {aci : Uuid}
    {rest : List (Uuid × Bytes)} {exit : PumpExit}
    (retrieving : task.control = .retrieving aci rest exit)
    (result : Except String (Option ProfileName))
    : LoopStep task.loop (task.profileFetched aci rest exit result).announcements
        (task.profileFetched aci rest exit result).loop := by
  have same : (task.profileFetched aci rest exit result).loop = task.loop := by
    cases result with
    | error reason => simp [profileFetched, loop, retrieving, Control.stage]
    | ok name =>
        simp only [profileFetched]
        split <;> simp [emit, loop, retrieving, Control.stage]
  have silent : (task.profileFetched aci rest exit result).announcements = [] := by
    cases result with
    | error reason => exact announcements_eq_nil (by simp [profileFetched, taken])
    | ok name =>
        simp only [profileFetched]
        split
        · exact announcements_eq_nil (by simp [taken])
        · exact announcements_emit_other taken (by simp [Event.fromLoop]) _
  rw [same, silent]
  exact .quiet

theorem attemptReturned_loop {task : Task} (taken : task.outbox = []) (platform : Platform)
    {send : InnerSend} {attempt : Nat} (sending : task.control = .sending send attempt)
    (outcome : SendOutcome) (now : Nat)
    : LoopStep task.loop (task.attemptReturned platform send attempt outcome now).announcements
        (task.attemptReturned platform send attempt outcome now).loop := by
  have same : (task.attemptReturned platform send attempt outcome now).loop = task.loop := by
    unfold attemptReturned
    split <;> simp [emit, loop, sending, Control.stage]
  have silent
      : (task.attemptReturned platform send attempt outcome now).announcements = [] := by
    unfold attemptReturned
    split
    · exact announcements_emit_other taken (by simp [Event.fromLoop]) _
    · exact announcements_eq_nil (by simp [taken])
    · exact announcements_eq_nil (by simp [taken])
    · exact announcements_emit_other taken (by simp [Event.fromLoop]) _
  rw [same, silent]
  exact .quiet

/-- The task follows the loop: each of its steps is a step of the loop with the notes made.
By cases on the await; a send, a sync or a lookup in between is no news for the loop.
-/
theorem advance_loop {platform : Platform} {task after : Task} {input : TaskInput}
    (taken : task.outbox = []) (stepped : task.advance platform input = some after)
    (reported : Option Nat)
    : LoopStep task.loop (task.noted reported input after) after.loop := by
  have resumed (control : task.control.stage = .running)
      : { task.loop with stage := .running } = task.loop := by
    rw [← show task.loop.stage = .running from control]
  have none (after : Task) (same : after.outbox = task.outbox) : after.announcements = [] :=
    announcements_eq_nil (by simp [same, taken])
  have answered (event : Event) (other : event.fromLoop = false) (control : Control)
      : (task.emit [event] control).announcements = [] :=
    announcements_emit_other taken (by simpa using other) control
  have queued {op : WorkerOp} {rest : List WorkerOp} (split : task.queue = op :: rest)
      (after : Task)
      : task.happened reported .recv after = [] := by
    simp [happened, split]
  have closed (empty : task.queue = []) (after : Task)
      : task.happened reported .recv after = [.opsClosed] := by
    simp [happened, empty]
  cases advance_cases stepped with
  | woke now order head => exact outerHead_loop taken head reported order now
  | parkedTick parked =>
      exact quiet_of (by simp [loop, parked, Control.stage]) rfl (none _ rfl)
  | parkedOp op rest parked split =>
      have running : task.control.stage = .running := by rw [parked]; rfl
      refine quiet_of (Eq.trans ?_ (resumed running)) (queued split _) ?_
      · cases op <;> rfl
      · cases op <;> exact none _ rfl
  | parkedClosed parked empty =>
      have running : task.loop.stage = .running := by rw [loop, parked]; rfl
      rw [noted, closed empty, none { task with control := .leaving } rfl]
      exact .parkedClosed running
  | backoffElapsed waiting => exact backoffElapsed_loop taken waiting reported
  | streamOpened closeCode opening =>
      exact streamOpened_loop taken (by rw [loop, opening]; rfl)
  | openFailed err closeCode opening =>
      exact openFailed_loop taken err closeCode (by rw [loop, opening]; rfl)
  | swept now order head =>
      have running : task.control.stage = .running := by rw [head]; rfl
      exact quiet_of (resumed running) (happened_other rfl (.inl ⟨now, order, rfl⟩))
        (announcements_sweep taken ..)
  | itemReceived item contact order pumping =>
      exact itemReceived_loop (by rw [loop, pumping]; rfl) item contact
  | streamEnded pumping =>
      have running : task.loop.stage = .running := by rw [loop, pumping]; rfl
      rw [noted, none (task.endPump (.reopen "stream ended")) rfl]
      exact .ended reported running
  | pumpedOp op rest pumping split =>
      have running : task.control.stage = .running := by rw [pumping]; rfl
      refine quiet_of (Eq.trans ?_ (resumed running)) (queued split _) ?_
      · cases op <;> rfl
      · cases op <;> exact none _ rfl
  | pumpedClosed pumping empty =>
      have running : task.loop.stage = .running := by rw [loop, pumping]; rfl
      rw [noted, closed empty, none (task.endPump .shutdown) rfl]
      exact .pumpedClosed running
  | pumpedTick pumping =>
      exact quiet_of (by simp [loop, pumping, Control.stage]) rfl (none _ rfl)
  | nextFetch drained exit fetching => exact nextFetch_loop taken fetching
  | profileFetched aci rest exit result retrieving =>
      exact profileFetched_loop taken retrieving result
  | unknownRecipient send contacts reason starting =>
      have running : task.control.stage = .running := by rw [starting]; rfl
      exact quiet_of (resumed running) rfl (answered _ rfl _)
  | knownRecipient send contacts uuid starting =>
      have running : task.control.stage = .running := by rw [starting]; rfl
      exact quiet_of (resumed running) rfl (none _ rfl)
  | refused send attempt e attempting =>
      have running : task.control.stage = .running := by rw [attempting]; rfl
      exact quiet_of (resumed running) rfl (answered _ rfl _)
  | begun send attempt attempting =>
      have running : task.control.stage = .running := by rw [attempting]; rfl
      exact quiet_of (resumed running) rfl (none _ rfl)
  | attemptReturned send attempt outcome now flushOrder commitOrder sending =>
      exact attemptReturned_loop taken platform sending outcome now
  | retried send attempt sleeping =>
      have running : task.control.stage = .running := by rw [sleeping]; rfl
      exact quiet_of (resumed running) rfl (none _ rfl)
  | failed failing =>
      have running : task.control.stage = .running := by rw [failing]; rfl
      exact quiet_of (resumed running) rfl (none _ rfl)
  | synced syncing =>
      have running : task.control.stage = .running := by rw [syncing]; rfl
      exact quiet_of (resumed running) rfl (answered _ rfl _)
  | syncFailed reason syncing =>
      have running : task.control.stage = .running := by rw [syncing]; rfl
      exact quiet_of (resumed running) rfl (answered _ rfl _)
  | usernameResolved input result resolving =>
      have running : task.control.stage = .running := by rw [resolving]; rfl
      exact quiet_of (resumed running) rfl (answered _ rfl _)
  | left leaving =>
      exact quiet_of (by simp [loop, leaving, Control.stage]) rfl (none _ rfl)

end Task

/-- A manager task with what has happened in its receive loop. -/
structure Watch where
  manager : Manager := {}
  notes : List Note := []

namespace Watch

def loop (watch : Watch) : LoopState := watch.manager.task.loop

/-- Only the task's own steps are noted. -/
def noted (watch : Watch) (input : ManagerInput × Option Nat) (after : Manager) : List Note :=
  match input.1 with
  | .advance event => watch.manager.task.noted input.2 event after.task
  | _ => []

/-- A step of the manager, with what `last_identified_close_code` reports at the time. -/
def step (platform : Platform) (watch : Watch) (input : ManagerInput × Option Nat)
    : Option Watch :=
  (watch.manager.step platform input.1).map (fun manager =>
    { manager, notes := watch.notes ++ watch.noted input manager })

theorem deliver_loop {task after : Task} {isOpen : Bool} {event : Option Event}
    (delivered : task.deliver isOpen = some (event, after))
    : after.loop = task.loop
      ∨ isOpen = false ∧ after.loop = { task.loop with stage := .over } := by
  unfold Task.deliver at delivered
  split at delivered
  · cases delivered
  · split at delivered
    · cases delivered
      exact .inl rfl
    · next closed =>
        split at delivered
        · cases delivered
          exact .inr ⟨Bool.not_eq_true _ ▸ closed, rfl⟩
        · cases delivered
          exact .inl rfl

/-- A step of the manager is a step of the loop, or the closed event channel ends it. -/
theorem step_cases {platform : Platform} {watch after : Watch}
    {input : ManagerInput × Option Nat} (stepped : watch.step platform input = some after)
    : after.notes = watch.notes ++ watch.noted input after.manager
      ∧ (LoopStep watch.loop (watch.noted input after.manager) after.loop
        ∨ input.1 = .deliver false ∧ watch.noted input after.manager = []
          ∧ after.loop = { watch.loop with stage := .over }) := by
  obtain ⟨manager, moved, rfl⟩ := Option.map_eq_some_iff.mp stepped
  refine ⟨rfl, ?_⟩
  rcases input with ⟨input, reported⟩
  cases input with
  | accept op =>
      simp only [Manager.step] at moved
      split at moved
      · cases moved
        exact .inl .quiet
      · cases moved
  | dropSender =>
      cases moved
      exact .inl .quiet
  | advance input =>
      obtain ⟨task, advanced, rfl⟩ := Option.map_eq_some_iff.mp moved
      simp only [Task.step, List.isEmpty_iff] at advanced
      split at advanced
      · next taken => exact .inl (Task.advance_loop taken advanced reported)
      · cases advanced
  | deliver isOpen =>
      obtain ⟨⟨event, next⟩, delivered, rfl⟩ := Option.map_eq_some_iff.mp moved
      obtain ⟨⟨event', task⟩, taken, same⟩ := Option.map_eq_some_iff.mp delivered
      cases same
      rcases deliver_loop taken with kept | ⟨rfl, ended⟩
      · refine .inl (?_ : LoopStep watch.manager.task.loop [] task.loop)
        rw [kept]
        exact .quiet
      · exact .inr ⟨rfl, rfl, ended⟩

/-- What is noted of the loop's inputs: stream ends and failed opens, with their codes. -/
theorem mem_noted {watch : Watch} {input : ManagerInput × Option Nat} {after : Manager}
    {note : Note} (listed : note ∈ watch.noted input after)
    : (∀ closeCode, note = .ended closeCode
        → input.1 = .advance .streamEnded ∧ input.2 = closeCode)
      ∧ ∀ err closeCode, note = .openFailed err closeCode
        → input.1 = .advance (.opened (.error err) closeCode) := by
  rcases input with ⟨input, reported⟩
  cases input with
  | accept op => cases listed
  | dropSender => cases listed
  | deliver isOpen => cases listed
  | advance input =>
      rcases List.mem_append.mp listed with here | sent
      · cases input with
        | opened result closeCode =>
            cases result <;> obtain rfl := List.mem_singleton.mp here <;> simp
        | item item contact order => obtain rfl := List.mem_singleton.mp here; simp
        | streamEnded => obtain rfl := List.mem_singleton.mp here; simp
        | recv | wake now order | slept =>
            simp only [Task.happened] at here
            split at here
            · obtain rfl := List.mem_singleton.mp here
              simp
            · cases here
        | _ => cases here
      · obtain ⟨event, -, rfl⟩ := List.mem_map.mp sent
        simp

theorem filterMap_noted (reported : Option Nat) (task : Task) (input : TaskInput) (after : Task)
    : (task.noted reported input after).filterMap Note.event?
      = (after.outbox.map Emit.event).filter Event.fromLoop := by
  have nothing : (task.happened reported input after).filterMap Note.event? = [] := by
    rw [List.filterMap_eq_nil_iff]
    intro note listed
    unfold Task.happened at listed
    split at listed
    case h_1 | h_2 | h_3 | h_4 => exact List.mem_singleton.mp listed ▸ rfl
    case h_5 | h_6 | h_7 =>
      split at listed
      · exact List.mem_singleton.mp listed ▸ rfl
      · cases listed
    case h_8 => cases listed
  have events (sent : List Event) : (sent.map Note.emitted).filterMap Note.event? = sent := by
    simp [List.filterMap_map, Function.comp_def, Note.event?]
  rw [Task.noted, List.filterMap_append, nothing, List.nil_append]
  exact events _

/-- The loop's events that were sent or wait in the outbox are the ones noted. -/
def Delivers (watch : Watch) : Prop :=
  (watch.manager.sent ++ watch.manager.task.outbox.map Emit.event).filter Event.fromLoop
    = watch.notes.filterMap Note.event?

/-- An open event channel takes every event in order. -/
theorem Delivers.step {platform : Platform} {watch after : Watch}
    {input : ManagerInput × Option Nat} (delivers : watch.Delivers)
    (channel : input.1 ≠ .deliver false) (stepped : watch.step platform input = some after)
    : after.Delivers := by
  obtain ⟨manager, moved, rfl⟩ := Option.map_eq_some_iff.mp stepped
  rcases input with ⟨input, reported⟩
  unfold Delivers at delivers ⊢
  cases input with
  | accept op =>
      simp only [Manager.step] at moved
      split at moved
      · cases moved
        simpa [noted, Manager.accept] using delivers
      · cases moved
  | dropSender =>
      cases moved
      simpa [noted, Manager.dropSender] using delivers
  | advance input =>
      obtain ⟨task, advanced, rfl⟩ := Option.map_eq_some_iff.mp moved
      simp only [Task.step, List.isEmpty_iff] at advanced
      split at advanced
      · next taken =>
          rw [taken, List.map_nil, List.append_nil] at delivers
          rw [List.filter_append, delivers, List.filterMap_append]
          exact congrArg _ (filterMap_noted reported watch.manager.task input task).symm
      · cases advanced
  | deliver isOpen =>
      cases isOpen with
      | false => exact absurd rfl channel
      | true =>
          obtain ⟨⟨event, next⟩, delivered, rfl⟩ := Option.map_eq_some_iff.mp moved
          obtain ⟨⟨event', task⟩, taken, same⟩ := Option.map_eq_some_iff.mp delivered
          cases same
          unfold Task.deliver at taken
          split at taken
          · cases taken
          · next first rest queued =>
              cases taken
              rw [queued] at delivers
              simpa [noted] using delivers

end Watch

end XousAppSignal.Worker
